import Mathlib.Data.List.Basic
import CurveFitting.CommandLine.Program
import CurveFitting.Proofs.LeastSquaresErrors
import CurveFitting.Proofs.ResultPoint
import CurveFitting.Proofs.Results

/-! # Errors of the program

The program makes up the names of the parameters, their limits, their number and the error
definition itself, so no error about them can come up. What is left are errors in what it
was given, and they come in a fixed order. Once past them, a fit has a result.
-/

namespace CurveFitting

/-! ## Coefficients as parameters -/

def coefficientName (order : Nat) : String := "p" ++ toString order

private theorem coefficientName_injective : Function.Injective coefficientName := by
  intro first second same
  have numbers : toString first = toString second := (String.append_right_inj "p").mp same
  rw [Nat.toString_eq_ofList_toDigits, Nat.toString_eq_ofList_toDigits,
    String.ofList_inj] at numbers
  have read := congrArg (Nat.ofDigitChars 10 · 0) numbers
  rwa [Nat.ofDigitChars_ten_toDigits, Nat.ofDigitChars_ten_toDigits] at read

def coefficientNames (count : Nat) : List String := (List.range count).map coefficientName

private theorem coefficientName_fresh (count : Nat) :
    coefficientName count ∉ coefficientNames count := by
  rw [coefficientNames, List.mem_map_of_injective coefficientName_injective, List.mem_range]
  exact Nat.lt_irrefl count

private theorem coefficientNames_succ (count : Nat) :
    coefficientNames (count + 1) = coefficientNames count ++ [coefficientName count] := by
  rw [coefficientNames, List.range_succ, List.map_append]
  rfl

namespace Parameter

variable {name : String} {value step : Float}

private theorem new_of_valid (name : String) (finite : Scalar.isFinite value = true)
    (valid : Scalar.isFinite step = true ∧ 0 < step) :
    ∃ parameter, new name value step = .ok parameter ∧ parameter.name = name := by
  unfold new withBounds
  rw [dif_pos finite, dif_pos valid, dif_pos Bounds.ordered_unlimited,
    dif_pos (Bounds.contains_unlimited value)]
  exact ⟨_, rfl, rfl⟩

private theorem new_of_nonFinite (infinite : Scalar.isFinite value = false) :
    new name value step = .error (.value name value) := by
  simp [new, withBounds, infinite]

private theorem new_of_invalid (finite : Scalar.isFinite value = true)
    (invalid : ¬(Scalar.isFinite step = true ∧ 0 < step)) :
    new name value step = .error (.step name step) := by
  unfold new withBounds
  rw [dif_pos finite, dif_neg invalid]

end Parameter

namespace ParameterSet

variable {set : ParameterSet Float} {name : String} {value step : Float} {count : Nat}

private theorem add_of_error {cause : ParameterError Float}
    (refused : Parameter.new name value step = .error cause) :
    set.add name value step = .error cause := by
  rw [add, refused]
  rfl

private theorem add_of_valid (finite : Scalar.isFinite value = true)
    (valid : Scalar.isFinite step = true ∧ 0 < step) (fresh : name ∉ set.names) :
    ∃ added, set.add name value step = .ok added ∧ added.names = set.names ++ [name] := by
  rcases Parameter.new_of_valid name finite valid with ⟨parameter, made, rfl⟩
  rw [add, made]
  refine ⟨_, dif_neg fresh, ?_⟩
  simp [names]

private def addCoefficients (set : ParameterSet Float) (count : Nat) (values : List Float)
    (step : Float) : Except (ParameterError Float) (ParameterSet Float) :=
  (values.zipIdx count).foldlM
    (fun set coefficient => set.add (coefficientName coefficient.2) coefficient.1 step) set

private theorem addCoefficients_of_finite (named : set.names = coefficientNames count)
    (valid : Scalar.isFinite step = true ∧ 0 < step) {values : List Float}
    (finite : ∀ value ∈ values, Scalar.isFinite value = true) :
    ∃ added, set.addCoefficients count values step = .ok added ∧
      added.names = coefficientNames (count + values.length) := by
  induction values generalizing set count with
  | nil => exact ⟨set, rfl, named⟩
  | cons value values induction =>
      rw [List.forall_mem_cons] at finite
      have fresh : coefficientName count ∉ set.names := named ▸ coefficientName_fresh count
      rcases add_of_valid finite.1 valid fresh with ⟨next, appended, names⟩
      rw [named, ← coefficientNames_succ] at names
      rcases induction names finite.2 with ⟨added, rest, last⟩
      refine ⟨added, ?_, ?_⟩
      · simp only [addCoefficients, List.zipIdx_cons, List.foldlM_cons, appended]
        exact rest
      · rw [last, List.length_cons]
        congr 1
        omega

private theorem addCoefficients_of_nonFinite {earlier later : List Float}
    (named : set.names = coefficientNames count) (valid : Scalar.isFinite step = true ∧ 0 < step)
    (finite : ∀ value ∈ earlier, Scalar.isFinite value = true)
    (infinite : Scalar.isFinite value = false) :
    set.addCoefficients count (earlier ++ value :: later) step =
      .error (.value (coefficientName (count + earlier.length)) value) := by
  rcases addCoefficients_of_finite named valid finite with ⟨added, appended, _⟩
  rw [addCoefficients] at appended
  rw [addCoefficients, List.zipIdx_append, List.foldlM_append, appended]
  simp only [List.zipIdx_cons, List.foldlM_cons]
  change (added.add _ value step >>= _) = _
  rw [add_of_error (Parameter.new_of_nonFinite infinite)]
  rfl

end ParameterSet

/-! ## Refusals -/

namespace CommandLine

namespace Arguments

variable (arguments : Arguments) (text : String)

/-- There are as many starting values as coefficients, or none are given. -/
def HasCount : Prop := arguments.start = [] ∨ arguments.start.length = arguments.degree + 1

def HasStep : Prop := Scalar.isFinite arguments.step = true ∧ 0 < arguments.step

def HasFiniteStart : Prop := ∀ value ∈ arguments.start, Scalar.isFinite value = true

def HasTolerance : Prop := Scalar.isFinite arguments.tolerance = true ∧ 0 < arguments.tolerance

def Loads : Prop := ∃ points, DataFile.parse text.toList arguments.skipHeader = .ok points

/-- Why the program has no fit of a text to report. Of several reasons it is the first. A
step that is no step is blamed on the first parameter. -/
inductive Refuses : ProgramError → Prop
  | load {cause} (rejected : DataFile.parse text.toList arguments.skipHeader = .error cause) :
      Refuses (.load cause)
  | startCount (loads : arguments.Loads text) (miscounted : ¬arguments.HasCount) :
      Refuses (.startCount arguments.degree arguments.start.length)
  | firstValue {value later} (loads : arguments.Loads text) (counted : arguments.HasCount)
      (invalid : ¬arguments.HasStep) (given : arguments.start = value :: later)
      (infinite : Scalar.isFinite value = false) :
      Refuses (.parameter (.value (coefficientName 0) value))
  | step (loads : arguments.Loads text) (counted : arguments.HasCount)
      (invalid : ¬arguments.HasStep)
      (finite : ∀ value ∈ arguments.start.head?, Scalar.isFinite value = true) :
      Refuses (.parameter (.step (coefficientName 0) arguments.step))
  | value {earlier value later} (loads : arguments.Loads text) (counted : arguments.HasCount)
      (valid : arguments.HasStep) (given : arguments.start = earlier ++ value :: later)
      (finite : ∀ value ∈ earlier, Scalar.isFinite value = true)
      (infinite : Scalar.isFinite value = false) :
      Refuses (.parameter (.value (coefficientName earlier.length) value))
  | tolerance (loads : arguments.Loads text) (counted : arguments.HasCount)
      (valid : arguments.HasStep) (finite : arguments.HasFiniteStart)
      (invalid : ¬arguments.HasTolerance) : Refuses (.config .tolerance)
  | emptyDataset (empty : DataFile.rows text.toList arguments.skipHeader = [])
      (counted : arguments.HasCount) (valid : arguments.HasStep)
      (finite : arguments.HasFiniteStart) (tolerable : arguments.HasTolerance) :
      Refuses (.fit (.configuration .emptyDataset))

end Arguments

/-! ## Starting values -/

section

variable {degree : Nat} {start values : List Float} {step : Float}

private def usualValues (degree : Nat) : List Float :=
  (List.range (degree + 1)).map fun index => if index = 1 then 1 else 0

private theorem usualValues_finite :
    ∀ value ∈ usualValues degree, Scalar.isFinite value = true := by
  intro value member
  rcases List.mem_map.mp member with ⟨index, _, rfl⟩
  split <;> rfl

private theorem usualValues_eq_cons (degree : Nat) : ∃ later, usualValues degree = 0 :: later := by
  rw [usualValues, List.range_succ_eq_map]
  exact ⟨_, rfl⟩

private theorem startingValues_nil : startingValues degree [] = .ok (usualValues degree) := rfl

private theorem startingValues_of_length (counted : start.length = degree + 1) :
    startingValues degree start = .ok start := by
  have given : start.isEmpty = false := by cases start <;> simp_all
  simp [startingValues, given, counted]

private theorem startingValues_of_miscounted (given : start ≠ [])
    (miscounted : start.length ≠ degree + 1) :
    startingValues degree start = .error (.startCount degree start.length) := by
  simp [startingValues, given, miscounted]

private theorem startingParameters_eq (given : startingValues degree start = .ok values) :
    startingParameters degree start step =
      (ParameterSet.empty.addCoefficients 0 values step).mapError .parameter := by
  rw [startingParameters, given]
  rfl

private theorem names_empty :
    (ParameterSet.empty : ParameterSet Float).names = coefficientNames 0 := rfl

end

/-! ## Fits -/

private theorem unit_valid :
    Scalar.isFinite (1 : Float) = true ∧ (0 : Float) < 1 := by decide +kernel

private theorem names_of_minimize {σ ω ε : Type} {objective : Objective Float σ ε}
    {parameters : ParameterSet Float} {config : Config Float} {observer : Observer Float ω}
    {origin final : Session Float σ ω} {minimum : Minimum Float parameters.size}
    (minimizes : Minimizes objective parameters config observer origin (.ok minimum) final) :
    minimum.parameters.toList.map (·.name) = parameters.names := by
  cases minimizes with
  | ended prepared _ =>
      rcases (Problem.prepare_eq_ok_iff.mp prepared).2.2.2 with rfl
      exact Problem.names_result ..

section

variable {degree : Nat} {points : List (DataPoint Float)} {parameters : ParameterSet Float}

private theorem fitWith_empty (some : 0 < parameters.size) (observer : Observer Float Unit)
    (config : Config Float) :
    fitWith observer ⟨polynomialModel degree, [], 1⟩ parameters config =
      .error (.fit (.configuration .emptyDataset)) := by
  let problem : LeastSquares Float := ⟨polynomialModel degree, [], 1⟩
  have refuses : problem.Refuses parameters.size (.configuration .emptyDataset) :=
    .emptyDataset some unit_valid rfl
  rw [fitWith, minimize_of_prepare_error
    (Problem.prepare_eq_error_iff.mpr (LeastSquares.refuses_iff.mpr refuses))]

private theorem fitWith_points (filled : points ≠ []) (sized : parameters.size = degree + 1)
    (observer : Observer Float Unit) (config : Config Float) :
    ∃ fitted, fitWith observer ⟨polynomialModel degree, points, 1⟩ parameters config =
        .ok fitted ∧ fitted.parameterCount = degree + 1 ∧
      fitted.minimum.parameters.toList.map (·.name) = parameters.names := by
  let problem : LeastSquares Float := ⟨polynomialModel degree, points, 1⟩
  have minimizes := minimizes_minimize problem.objective parameters config observer
    (Session.start () ())
  rcases prepared : Problem.prepare problem.objective parameters config with cause | ready
  · have refuses := LeastSquares.refuses_iff.mp (Problem.prepare_eq_error_iff.mp prepared)
    cases refuses with
    | noParameters none => omega
    | errorDefinition _ invalid => exact absurd unit_valid invalid
    | emptyDataset _ _ empty => exact absurd empty filled
    | parameterCount _ _ _ different => exact absurd sized different
  · have keeps := LeastSquares.objective_keeps (Problem.validate_of_prepare prepared)
    have begun : True := trivial
    rcases keeps.answers prepared observer begun with ⟨minimum, answered⟩
    rcases ended : minimize problem.objective parameters config observer (Session.start () ())
      with ⟨answer, final⟩
    rw [ended] at answered minimizes
    cases answered
    refine ⟨⟨parameters.size, minimum, final.notes⟩, ?_, sized, names_of_minimize minimizes⟩
    rw [fitWith, ended]

end

namespace Arguments

variable {arguments : Arguments} {text : String}

private theorem HasCount.starts (counted : arguments.HasCount) :
    ∃ values, startingValues arguments.degree arguments.start = .ok values ∧
      values.length = arguments.degree + 1 ∧
      (values = arguments.start ∨
        arguments.start = [] ∧ values = usualValues arguments.degree) := by
  rcases counted with none | counted
  · refine ⟨usualValues arguments.degree, ?_, ?_, .inr ⟨none, rfl⟩⟩
    · rw [none, startingValues_nil]
    · rw [usualValues, List.length_map, List.length_range]
  · exact ⟨arguments.start, startingValues_of_length counted, counted, .inl rfl⟩

private theorem HasCount.parameters (counted : arguments.HasCount) (valid : arguments.HasStep)
    (finite : arguments.HasFiniteStart) :
    ∃ parameters, startingParameters arguments.degree arguments.start arguments.step =
        .ok parameters ∧ parameters.names = coefficientNames (arguments.degree + 1) := by
  rcases counted.starts with ⟨values, given, counted, same⟩
  have all : ∀ value ∈ values, Scalar.isFinite value = true := by
    rcases same with rfl | ⟨_, rfl⟩
    · exact finite
    · exact usualValues_finite
  rcases ParameterSet.addCoefficients_of_finite names_empty valid all with
    ⟨parameters, added, named⟩
  rw [Nat.zero_add, counted] at named
  rw [startingParameters_eq given, added]
  exact ⟨parameters, rfl, named⟩

private theorem HasCount.parameters_of_invalid {cause : ParameterError Float} {first : Float}
    (counted : arguments.HasCount) (starts : arguments.start.head?.getD 0 = first)
    (refused : Parameter.new (coefficientName 0) first arguments.step = .error cause) :
    startingParameters arguments.degree arguments.start arguments.step =
      .error (.parameter cause) := by
  rcases counted.starts with ⟨values, given, counted, same⟩
  have begins : ∃ later, values = first :: later := by
    rcases same with rfl | ⟨none, rfl⟩
    · rcases beginning : arguments.start with _ | ⟨value, later⟩
      · simp [beginning] at counted
      · rw [beginning] at starts
        exact ⟨later, congrArg (· :: later) starts⟩
    · rw [none] at starts
      exact starts ▸ usualValues_eq_cons arguments.degree
  rcases begins with ⟨later, rfl⟩
  rw [startingParameters_eq given, ParameterSet.addCoefficients, List.zipIdx_cons,
    List.foldlM_cons]
  simp only [ParameterSet.add_of_error refused]
  rfl

private theorem HasCount.parameters_of_nonFinite {earlier later : List Float} {value : Float}
    (counted : arguments.HasCount) (valid : arguments.HasStep)
    (given : arguments.start = earlier ++ value :: later)
    (finite : ∀ value ∈ earlier, Scalar.isFinite value = true)
    (infinite : Scalar.isFinite value = false) :
    startingParameters arguments.degree arguments.start arguments.step =
      .error (.parameter (.value (coefficientName earlier.length) value)) := by
  rcases counted.starts with ⟨values, starts, _, rfl | ⟨none, _⟩⟩
  · rw [startingParameters_eq starts, given,
      ParameterSet.addCoefficients_of_nonFinite names_empty valid finite infinite, Nat.zero_add]
    rfl
  · rw [none] at given
    simp at given

private theorem settings_of_tolerance (pool : Pool) (tolerable : arguments.HasTolerance) :
    ∃ config, settings pool arguments = .ok config := by
  unfold HasTolerance at tolerable
  rw [settings, Config.new, dif_pos tolerable]
  exact ⟨_, rfl⟩

private theorem settings_of_invalid (pool : Pool) (invalid : ¬arguments.HasTolerance) :
    settings pool arguments = .error (.config .tolerance) := by
  unfold HasTolerance at invalid
  rw [settings, Config.new, dif_neg invalid]
  rfl

/-! ## Precedence -/

variable {pool : Pool}

private theorem fitText_of_loaded {points : List (DataPoint Float)}
    (parsed : DataFile.parse text.toList arguments.skipHeader = .ok points) :
    fitText pool arguments text = fitPoints pool arguments points := by
  rw [fitText, loadText, parsed]
  rfl

private theorem fitPoints_of_parameter_error {points : List (DataPoint Float)}
    {error : ProgramError}
    (refused : startingParameters arguments.degree arguments.start arguments.step = .error error) :
    fitPoints pool arguments points = .error error := by
  rw [fitPoints, refused]
  rfl

private theorem Loads.fitText_of_parameter_error {error : ProgramError}
    (loads : arguments.Loads text)
    (refused : startingParameters arguments.degree arguments.start arguments.step = .error error) :
    fitText pool arguments text = .error error := by
  rcases loads with ⟨points, parsed⟩
  rw [fitText_of_loaded parsed, fitPoints_of_parameter_error refused]

private theorem fitPoints_of_accepted {points : List (DataPoint Float)}
    {parameters : ParameterSet Float} {config : Config Float}
    (made : startingParameters arguments.degree arguments.start arguments.step = .ok parameters)
    (set : settings pool arguments = .ok config) :
    ∃ observer, fitPoints pool arguments points =
      fitWith observer ⟨polynomialModel arguments.degree, points, 1⟩ parameters config := by
  rw [fitPoints, made]
  simp only [set]
  exact ⟨_, rfl⟩

private theorem size_of_names {parameters : ParameterSet Float} {count : Nat}
    (named : parameters.names = coefficientNames count) : parameters.size = count := by
  have counted := congrArg List.length named
  rwa [ParameterSet.names, coefficientNames, List.length_map, List.length_map,
    List.length_range] at counted

private theorem parse_of_empty (empty : DataFile.rows text.toList arguments.skipHeader = []) :
    DataFile.parse text.toList arguments.skipHeader = .ok [] := by
  rw [DataFile.parse, empty]
  rfl

private theorem Refuses.fitText_eq {error : ProgramError} (refuses : arguments.Refuses text error) :
    fitText pool arguments text = .error error := by
  cases refuses with
  | load rejected =>
      rw [fitText, loadText, rejected]
      rfl
  | startCount loads miscounted =>
      rcases not_or.mp miscounted with ⟨given, different⟩
      apply loads.fitText_of_parameter_error
      rw [startingParameters, startingValues_of_miscounted given different]
      rfl
  | firstValue loads counted _ given infinite =>
      apply loads.fitText_of_parameter_error
      apply counted.parameters_of_invalid (congrArg (·.head?.getD 0) given)
      exact Parameter.new_of_nonFinite infinite
  | step loads counted invalid finite =>
      apply loads.fitText_of_parameter_error
      apply counted.parameters_of_invalid rfl
      apply Parameter.new_of_invalid _ invalid
      rcases given : arguments.start.head? with _ | value
      · rfl
      · exact finite value given
  | value loads counted valid given finite infinite =>
      exact loads.fitText_of_parameter_error
        (counted.parameters_of_nonFinite valid given finite infinite)
  | tolerance loads counted valid finite invalid =>
      rcases loads with ⟨points, parsed⟩
      rcases counted.parameters valid finite with ⟨parameters, made, _⟩
      rw [fitText_of_loaded parsed, fitPoints, made]
      simp only [settings_of_invalid pool invalid]
      rfl
  | emptyDataset empty counted valid finite tolerable =>
      rcases counted.parameters valid finite with ⟨parameters, made, named⟩
      rcases settings_of_tolerance pool tolerable with ⟨config, set⟩
      rcases fitPoints_of_accepted made set with ⟨observer, fits⟩
      rw [fitText_of_loaded (parse_of_empty empty), fits, fitWith_empty]
      rw [size_of_names named]
      exact Nat.succ_pos _

private theorem rows_of_parse_nil
    (parsed : DataFile.parse text.toList arguments.skipHeader = .ok []) :
    DataFile.rows text.toList arguments.skipHeader = [] :=
  List.forall₂_nil_right_iff.mp (mapM_eq_ok_iff.mp parsed)

private theorem exists_first_nonFinite (infinite : ¬arguments.HasFiniteStart) :
    ∃ earlier value later, arguments.start = earlier ++ value :: later ∧
      (∀ value ∈ earlier, Scalar.isFinite value = true) ∧ Scalar.isFinite value = false := by
  rcases found : arguments.start.find? (!Scalar.isFinite ·) with _ | value
  · refine absurd ?_ infinite
    intro value member
    simpa using List.find?_eq_none.mp found value member
  · rcases List.find?_eq_some_iff_append.mp found with ⟨bad, earlier, later, given, finite⟩
    exact ⟨earlier, value, later, given, by simpa using finite, by simpa using bad⟩

/-- Either there is a reason to refuse a fit, or it has a result. -/
theorem refused_or_fitted (pool : Pool) (arguments : Arguments) (text : String) :
    (∃ error, arguments.Refuses text error) ∨
      ∃ fitted, fitText pool arguments text = .ok fitted ∧
        fitted.parameterCount = arguments.degree + 1 ∧
        fitted.minimum.parameters.toList.map (·.name) =
          coefficientNames (arguments.degree + 1) := by
  rcases parsed : DataFile.parse text.toList arguments.skipHeader with cause | points
  · exact .inl ⟨_, .load parsed⟩
  have loads : arguments.Loads text := ⟨points, parsed⟩
  by_cases counted : arguments.HasCount
  case neg => exact .inl ⟨_, .startCount loads counted⟩
  by_cases valid : arguments.HasStep
  case neg =>
    by_cases finite : ∀ value ∈ arguments.start.head?, Scalar.isFinite value = true
    · exact .inl ⟨_, .step loads counted valid finite⟩
    · simp only [not_forall, Bool.not_eq_true] at finite
      rcases finite with ⟨value, first, infinite⟩
      rcases List.head?_eq_some_iff.mp first with ⟨later, given⟩
      exact .inl ⟨_, .firstValue loads counted valid given infinite⟩
  by_cases finite : arguments.HasFiniteStart
  case neg =>
    rcases exists_first_nonFinite finite with ⟨earlier, value, later, given, before, infinite⟩
    exact .inl ⟨_, .value loads counted valid given before infinite⟩
  by_cases tolerable : arguments.HasTolerance
  case neg => exact .inl ⟨_, .tolerance loads counted valid finite tolerable⟩
  by_cases empty : DataFile.rows text.toList arguments.skipHeader = []
  case pos => exact .inl ⟨_, .emptyDataset empty counted valid finite tolerable⟩
  have filled : points ≠ [] := by
    rintro rfl
    exact empty (rows_of_parse_nil parsed)
  rcases counted.parameters valid finite with ⟨parameters, made, named⟩
  rcases settings_of_tolerance pool tolerable with ⟨config, set⟩
  rcases fitPoints_of_accepted made set with ⟨observer, fits⟩
  rcases fitWith_points filled (size_of_names named) observer config with
    ⟨fitted, answered, sized, names⟩
  refine .inr ⟨fitted, ?_, sized, names.trans named⟩
  rw [fitText_of_loaded parsed, fits, answered]

end Arguments

/-! ## The program -/

/-- Errors about what the program makes up itself: names, limits and the number of the
parameters, the error definition, the usual settings, and evaluations. -/
def ProgramError.IsInternal : ProgramError → Prop
  | .load _ | .startCount .. => False
  | .parameter (.value ..) | .parameter (.step ..) => False
  | .parameter (.bounds _) | .parameter (.outOfBounds ..) | .parameter (.duplicateName _) => True
  | .config cause => cause ≠ .tolerance
  | .fit cause => cause ≠ .configuration .emptyDataset

private theorem load_text (arguments : Arguments) (text : String) :
    load (fun _ => .ok text.toUTF8) arguments = loadText arguments text := by
  have decoded : String.fromUTF8? text.toUTF8 = some text := dif_pos text.isValidUTF8
  simp only [load, Except.bind, decoded]

private theorem exitCode_report (pool : Pool) (read : String → Except ReadFailure ByteArray)
    (arguments : Arguments) :
    (report pool read arguments).exitCode = 1 ↔
      ∃ error, load read arguments >>= fitPoints pool arguments = .error error := by
  unfold report
  rcases load read arguments with cause | points
  · exact ⟨fun _ => ⟨cause, rfl⟩, fun _ => rfl⟩
  · change _ ↔ ∃ error, fitPoints pool arguments points = .error error
    simp only
    rcases fitPoints pool arguments points with cause | fitted
    · exact ⟨fun _ => ⟨cause, rfl⟩, fun _ => rfl⟩
    · by_cases valid : fitted.minimum.status.isValid = true <;> simp [valid]

/-- On a file that holds a text, the program fails only for a reason in the text, the starting
values, the step or the tolerance, and the first of these reasons is the error, on every pool of
threads. All other errors that its parts may have cannot come up. Otherwise it has a result with
the parameters `p0`, `p1` and so on, as many as the polynomial has coefficients, in order. -/
theorem program_fails_only_for_its_input (pool : Pool) (arguments : Arguments) (text : String) :
    let read (_ : String) : Except ReadFailure ByteArray := .ok text.toUTF8
    let fit := load read arguments >>= fitPoints pool arguments
    (∀ error, fit = .error error ↔ arguments.Refuses text error) ∧
    (∀ error, fit = .error error → ¬error.IsInternal) ∧
    ((report pool read arguments).exitCode = 1 ↔ ∃ error, arguments.Refuses text error) ∧
    ∀ fitted, fit = .ok fitted → fitted.parameterCount = arguments.degree + 1 ∧
      fitted.minimum.parameters.toList.map (·.name) =
        (List.range (arguments.degree + 1)).map fun order => "p" ++ toString order := by
  intro read fit
  have same : fit = fitText pool arguments text := congrArg (· >>= _) (load_text arguments text)
  have refused (error : ProgramError) : fit = .error error ↔ arguments.Refuses text error := by
    rw [same]
    refine ⟨?_, Arguments.Refuses.fitText_eq⟩
    intro failed
    rcases arguments.refused_or_fitted pool text with ⟨other, refuses⟩ | ⟨fitted, answered, _⟩
    · cases refuses.fitText_eq.symm.trans failed
      exact refuses
    · cases answered.symm.trans failed
  refine ⟨refused, ?_, ?_, ?_⟩
  · intro error failed
    cases (refused error).mp failed with
    | load | startCount | firstValue | step | value => exact id
    | tolerance | emptyDataset => exact fun internal => internal rfl
  · exact (exitCode_report pool read arguments).trans (exists_congr refused)
  · intro fitted answered
    rcases arguments.refused_or_fitted pool text with ⟨error, refuses⟩ | ⟨other, result, named⟩
    · cases answered.symm.trans ((refused error).mpr refuses)
    · cases (same.symm.trans answered).symm.trans result
      exact named

end CommandLine

end CurveFitting
