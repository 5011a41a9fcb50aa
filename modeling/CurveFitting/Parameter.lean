import CurveFitting.Scalar

/-! # Parameters

A free parameter has a name, a starting value, a step that sets the scale on
which the cost is expected to change with it, and limits. The limits constrain
the starting value; a fit may leave them.
-/

namespace CurveFitting

/-- Limits on a value, each of which may be missing. -/
structure Bounds (α : Type) where
  lower : Option α
  upper : Option α

/-- Why a parameter or a set of parameters cannot be built. -/
inductive ParameterError (α : Type) where
  | value (name : String) (value : α)
  | step (name : String) (step : α)
  | bounds (name : String)
  | outOfBounds (name : String) (value : α)
  | duplicateName (name : String)

variable {α : Type} [Scalar α]

namespace Bounds

def unlimited : Bounds α := ⟨none, none⟩

/-- Whether a value satisfies every limit that is set. -/
def contains (bounds : Bounds α) (value : α) : Bool :=
  bounds.lower.all (fun lower => lower ≤ value) &&
    bounds.upper.all (fun upper => value ≤ upper)

/-- Whether the limits are finite, and the lower one is below the upper one
where both are set. -/
def ordered (bounds : Bounds α) : Bool :=
  bounds.lower.all Scalar.isFinite && bounds.upper.all Scalar.isFinite &&
    bounds.lower.all fun lower => bounds.upper.all fun upper => lower < upper

theorem ordered_unlimited : (unlimited : Bounds α).ordered = true := rfl

theorem contains_unlimited (value : α) : (unlimited : Bounds α).contains value = true := rfl

end Bounds

/-- A named free parameter. Its value, step and limits have been checked. -/
structure Parameter (α : Type) [Scalar α] where
  name : String
  value : α
  step : α
  bounds : Bounds α
  value_finite : Scalar.isFinite value = true
  step_finite : Scalar.isFinite step = true
  step_positive : 0 < step
  bounds_ordered : bounds.ordered = true
  value_within : bounds.contains value = true

namespace Parameter

/-- Checks the value, then the step, then the limits by themselves, then the
value against the limits. -/
def withBounds (name : String) (value step : α) (bounds : Bounds α) :
    Except (ParameterError α) (Parameter α) :=
  if valueFinite : Scalar.isFinite value = true then
    if stepValid : Scalar.isFinite step = true ∧ 0 < step then
      if boundsOrdered : bounds.ordered = true then
        if valueWithin : bounds.contains value = true then
          .ok ⟨name, value, step, bounds, valueFinite, stepValid.1, stepValid.2,
            boundsOrdered, valueWithin⟩
        else .error (.outOfBounds name value)
      else .error (.bounds name)
    else .error (.step name step)
  else .error (.value name value)

/-- A parameter without limits. -/
def new (name : String) (value step : α) :
    Except (ParameterError α) (Parameter α) :=
  withBounds name value step Bounds.unlimited

end Parameter

end CurveFitting
