import CurveFitting.Objective

/-! # Expressions

Costs written as arithmetic expressions in the parameters.
-/

namespace CurveFitting

inductive Expression (α : Type) where
  | constant (value : α)
  | parameter (index : Nat)
  | add (left right : Expression α)
  | sub (left right : Expression α)
  | mul (left right : Expression α)
  | div (left right : Expression α)
  | neg (operand : Expression α)
  | abs (operand : Expression α)
  | sqrt (operand : Expression α)
  | square (operand : Expression α)
  | ifLess (left right less otherwise : Expression α)

namespace Expression

variable {α : Type} [Scalar α]

/-- The value of an expression at a vector of parameters. A parameter that the
vector does not have counts as zero. -/
def value (parameters : List α) : Expression α → α
  | constant value => value
  | parameter index => parameters[index]?.getD 0
  | add left right => left.value parameters + right.value parameters
  | sub left right => left.value parameters - right.value parameters
  | mul left right => left.value parameters * right.value parameters
  | div left right => left.value parameters / right.value parameters
  | neg operand => -operand.value parameters
  | abs operand => Scalar.abs (operand.value parameters)
  | sqrt operand => Scalar.sqrt (operand.value parameters)
  | square operand => operand.value parameters * operand.value parameters
  | ifLess left right less otherwise =>
      if left.value parameters < right.value parameters then
        less.value parameters
      else
        otherwise.value parameters

def objective {ε : Type} (cost : Expression α) (errorDefinition : α) :
    Objective α Unit ε :=
  Objective.ofFunction (fun parameters => cost.value parameters) errorDefinition

end Expression

end CurveFitting
