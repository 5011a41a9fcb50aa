import CurveFitting.Parameter

/-! # Sets of parameters

An ordered collection of parameters with distinct names. The position of a
parameter is its index in every vector of a fit.
-/

namespace CurveFitting

structure ParameterSet (α : Type) [Scalar α] where
  entries : List (Parameter α)
  distinct : (entries.map (·.name)).Nodup

namespace ParameterSet

variable {α : Type} [Scalar α]

def empty : ParameterSet α := ⟨[], List.nodup_nil⟩

def size (set : ParameterSet α) : Nat := set.entries.length

def isEmpty (set : ParameterSet α) : Bool := set.entries.isEmpty

def names (set : ParameterSet α) : List String := set.entries.map (·.name)

/-- The starting values in order. -/
def values (set : ParameterSet α) : Vector α set.size :=
  ⟨(set.entries.map (·.value)).toArray, by simp [size]⟩

/-- The steps in order. -/
def steps (set : ParameterSet α) : Vector α set.size :=
  ⟨(set.entries.map (·.step)).toArray, by simp [size]⟩

/-- The names in order, as many as there are parameters. -/
def nameVector (set : ParameterSet α) : Vector String set.size :=
  ⟨set.names.toArray, by simp [size, names]⟩

def indexOf? (set : ParameterSet α) (name : String) : Option Nat :=
  set.entries.findIdx? (·.name == name)

/-! ## Building sets -/

theorem nodup_names_append {set : ParameterSet α} {parameter : Parameter α}
    (free : parameter.name ∉ set.names) :
    ((set.entries ++ [parameter]).map (·.name)).Nodup := by
  rw [List.map_append, List.nodup_append]
  refine ⟨set.distinct, by simp, ?_⟩
  intro left leftMember right rightMember equal
  simp only [List.map_cons, List.map_nil, List.mem_singleton] at rightMember
  subst rightMember equal
  exact free leftMember

/-- Appends a parameter, unless its name is taken. -/
def push (set : ParameterSet α) (parameter : Parameter α) :
    Except (ParameterError α) (ParameterSet α) :=
  if taken : parameter.name ∈ set.names then
    .error (.duplicateName parameter.name)
  else
    .ok ⟨set.entries ++ [parameter], nodup_names_append taken⟩

/-- Appends a parameter without limits. -/
def add (set : ParameterSet α) (name : String) (value step : α) :
    Except (ParameterError α) (ParameterSet α) := do
  set.push (← Parameter.new name value step)

/-- The first name of a list that has occurred before it, in the list or among
the names seen already. -/
def firstRepeated (seen : List String) : List String → Option String
  | [] => none
  | name :: rest =>
      if name ∈ seen then some name else firstRepeated (name :: seen) rest

theorem nodup_of_firstRepeated {names seen : List String}
    (none_repeated : firstRepeated seen names = none) :
    names.Nodup ∧ ∀ name ∈ names, name ∉ seen := by
  induction names generalizing seen with
  | nil => simp
  | cons head rest induction =>
      unfold firstRepeated at none_repeated
      split at none_repeated
      · contradiction
      · rename_i fresh
        obtain ⟨restNodup, restFresh⟩ := induction none_repeated
        refine ⟨List.nodup_cons.mpr ⟨fun member =>
          restFresh head member List.mem_cons_self, restNodup⟩, ?_⟩
        intro name member
        rcases List.mem_cons.mp member with equal | member
        · exact equal ▸ fresh
        · exact fun old => restFresh name member (List.mem_cons_of_mem head old)

/-- The set of all parameters of a list, unless a name repeats. -/
def ofList (parameters : List (Parameter α)) :
    Except (ParameterError α) (ParameterSet α) :=
  match repeated : firstRepeated [] (parameters.map (·.name)) with
  | some name => .error (.duplicateName name)
  | none => .ok ⟨parameters, (nodup_of_firstRepeated repeated).1⟩

end ParameterSet

end CurveFitting
