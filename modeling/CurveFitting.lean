import CurveFitting.Main
import CurveFitting.Objective.Expression
import CurveFitting.Objective.Fault
import CurveFitting.Observers
import CurveFitting.Proofs.Budget
import CurveFitting.Proofs.LeastSquaresFit
import CurveFitting.Proofs.Limits
import CurveFitting.Proofs.Accounting
import CurveFitting.Proofs.Endings
import CurveFitting.Proofs.EventStream
import CurveFitting.Proofs.ResultPoint
import CurveFitting.Proofs.ReportedDistance
import CurveFitting.Proofs.LeastSquaresStep
import CurveFitting.Proofs.PassiveObservers
import CurveFitting.Proofs.FallingCosts
import CurveFitting.Proofs.Binary64.Signs
import CurveFitting.Proofs.LeastSquaresErrors
import CurveFitting.Proofs.ErrorDefinition
import CurveFitting.Proofs.ParameterOrder
import CurveFitting.Proofs.Symmetry
import CurveFitting.Proofs.Termination
import CurveFitting.Proofs.ProgramErrors
import CurveFitting.Proofs.FiniteResults
import CurveFitting.Proofs.Exact.Secant
import CurveFitting.Proofs.SecantEquations
import CurveFitting.Proofs.UpdateOverflow
import CurveFitting.Proofs.Stalls
import CurveFitting.Proofs.DerivativeOrder
import CurveFitting.Proofs.LineSearchResult
import CurveFitting.Proofs.QuadraticDifferences
import CurveFitting.Proofs.HessianCheck
import CurveFitting.Proofs.Correlations
import CurveFitting.Proofs.DataRows
import CurveFitting.Proofs.Layout
import CurveFitting.Proofs.RepeatedNames
import CurveFitting.Proofs.SampleOrder
