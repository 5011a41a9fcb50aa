import Mathlib.Data.List.Induction
import Mathlib.Data.List.Nodup
import CurveFitting.ParameterSet
import CurveFitting.Proofs.Results
import CurveFitting.Scalar

/-! # Parameters and their indices

A set of parameters is built by adding, pushing and loading, some of which may fail. Whatever
was done, the names are an index: the position of a name is where its parameter is. Each
parameter has been checked, and a parameter that is added takes the next position.
-/

namespace CurveFitting

variable {α : Type} [Scalar α]

/-! ## Checked parameters -/

/-- What a parameter is made from. -/
structure Draft (α : Type) where
  name : String
  value : α
  step : α
  bounds : Bounds α

/-- What the value, the step and the limits of a parameter have to be. A limit that is not set
asks for nothing. -/
structure Draft.Valid (draft : Draft α) : Prop where
  value_finite : Scalar.isFinite draft.value = true
  step_finite : Scalar.isFinite draft.step = true
  step_positive : 0 < draft.step
  lower_finite : ∀ lower ∈ draft.bounds.lower, Scalar.isFinite lower = true
  upper_finite : ∀ upper ∈ draft.bounds.upper, Scalar.isFinite upper = true
  ordered : ∀ lower ∈ draft.bounds.lower, ∀ upper ∈ draft.bounds.upper, lower < upper
  above_lower : ∀ lower ∈ draft.bounds.lower, lower ≤ draft.value
  below_upper : ∀ upper ∈ draft.bounds.upper, draft.value ≤ upper

def Draft.make (draft : Draft α) : Except (ParameterError α) (Parameter α) :=
  Parameter.withBounds draft.name draft.value draft.step draft.bounds

def Parameter.draft (parameter : Parameter α) : Draft α :=
  ⟨parameter.name, parameter.value, parameter.step, parameter.bounds⟩

private theorem Bounds.ordered_iff {bounds : Bounds α} : bounds.ordered = true ↔
    (∀ lower ∈ bounds.lower, Scalar.isFinite lower = true) ∧
      (∀ upper ∈ bounds.upper, Scalar.isFinite upper = true) ∧
      ∀ lower ∈ bounds.lower, ∀ upper ∈ bounds.upper, lower < upper := by
  simp only [ordered, Bool.and_eq_true, Option.all_eq_true, Option.mem_def, decide_eq_true_eq,
    and_assoc]

private theorem Bounds.contains_iff {bounds : Bounds α} {value : α} : bounds.contains value = true ↔
    (∀ lower ∈ bounds.lower, lower ≤ value) ∧ ∀ upper ∈ bounds.upper, value ≤ upper := by
  simp only [contains, Bool.and_eq_true, Option.all_eq_true, Option.mem_def, decide_eq_true_eq]

private theorem Parameter.valid (parameter : Parameter α) : parameter.draft.Valid := by
  rcases Bounds.ordered_iff.mp parameter.bounds_ordered with ⟨lower, upper, ordered⟩
  rcases Bounds.contains_iff.mp parameter.value_within with ⟨above, below⟩
  exact ⟨parameter.value_finite, parameter.step_finite, parameter.step_positive, lower, upper,
    ordered, above, below⟩

private theorem Parameter.draft_injective : (draft : Parameter α → Draft α).Injective := by
  intro first second same
  cases first
  cases second
  cases same
  rfl

private theorem Parameter.withBounds_self (parameter : Parameter α) :
    withBounds parameter.name parameter.value parameter.step parameter.bounds =
      .ok parameter := by
  unfold withBounds
  rw [dif_pos parameter.value_finite, dif_pos ⟨parameter.step_finite, parameter.step_positive⟩,
    dif_pos parameter.bounds_ordered, dif_pos parameter.value_within]

private theorem Draft.make_eq_ok_iff {draft : Draft α} {parameter : Parameter α} :
    draft.make = .ok parameter ↔ draft = parameter.draft := by
  constructor
  · intro made
    unfold make Parameter.withBounds at made
    split at made
    · split at made
      · split at made
        · split at made
          · cases made
            rfl
          · cases made
        · cases made
      · cases made
    · cases made
  · rintro rfl
    exact parameter.withBounds_self

/-- The checks leave out no condition and add none. -/
theorem Draft.valid_iff {draft : Draft α} :
    draft.Valid ↔ ∃ parameter : Parameter α, draft = parameter.draft := by
  constructor
  · intro valid
    exact ⟨⟨draft.name, draft.value, draft.step, draft.bounds, valid.value_finite,
      valid.step_finite, valid.step_positive,
      Bounds.ordered_iff.mpr ⟨valid.lower_finite, valid.upper_finite, valid.ordered⟩,
      Bounds.contains_iff.mpr ⟨valid.above_lower, valid.below_upper⟩⟩, rfl⟩
  · rintro ⟨parameter, rfl⟩
    exact parameter.valid

private theorem mapM_make_eq_ok_iff {drafts : List (Draft α)} {parameters : List (Parameter α)} :
    drafts.mapM Draft.make = .ok parameters ↔ drafts = parameters.map Parameter.draft := by
  rw [mapM_eq_ok_iff, ← List.forall₂_eq_eq_eq, List.forall₂_map_right_iff]
  simp only [Draft.make_eq_ok_iff]

private theorem forall_valid_iff {drafts : List (Draft α)} : (∀ draft ∈ drafts, draft.Valid) ↔
    ∃ parameters : List (Parameter α), drafts = parameters.map Parameter.draft := by
  simp only [Draft.valid_iff, ← Draft.make_eq_ok_iff, ← mapM_make_eq_ok_iff, exists_mapM_eq_ok_iff]

namespace ParameterSet

variable {set : ParameterSet α} {name : String}

/-! ## Names and indices -/

private theorem indexOf?_eq_none_iff : set.indexOf? name = none ↔ name ∉ set.names := by
  rw [indexOf?, List.findIdx?_eq_none_iff, names, List.mem_map]
  simp

private theorem indexOf?_eq_some_iff {index : Nat} :
    set.indexOf? name = some index ↔ set.names[index]? = some name := by
  have stands {index : Nat} (found : set.indexOf? name = some index) :
      set.names[index]? = some name := by
    rcases List.findIdx?_eq_some_iff_getElem.mp found with ⟨bound, named, -⟩
    rw [names, List.getElem?_map, List.getElem?_eq_getElem bound, Option.map_some,
      beq_iff_eq.mp named]
  refine ⟨stands, fun standing => ?_⟩
  rcases found : set.indexOf? name with _ | other
  · exact absurd (List.mem_of_getElem? standing) (indexOf?_eq_none_iff.mp found)
  · -- The search stops at a position of the name, and names stand at one position only.
    rcases List.getElem?_eq_some_iff.mp standing with ⟨bound, -⟩
    have equal := standing.trans (stands found).symm
    rw [(List.getElem?_inj bound set.distinct).mp equal]

/-- Names, values, steps and parameters stand at the same positions, which the names find, and
all parameters are checked. -/
structure Consistent (set : ParameterSet α) : Prop where
  names_distinct : set.names.Nodup
  index_iff : ∀ name index, set.indexOf? name = some index ↔ set.names[index]? = some name
  absent_iff : ∀ name, set.indexOf? name = none ↔ name ∉ set.names
  same_length : set.names.length = set.entries.length ∧
    set.values.toList.length = set.entries.length ∧
    set.steps.toList.length = set.entries.length
  same_positions : ∀ (index : Nat) parameter, set.entries[index]? = some parameter →
    set.names[index]? = some parameter.name ∧
    set.values.toList[index]? = some parameter.value ∧
    set.steps.toList[index]? = some parameter.step
  checked : ∀ parameter ∈ set.entries, parameter.draft.Valid

private theorem toList_values (set : ParameterSet α) :
    set.values.toList = set.entries.map (·.value) := rfl

private theorem toList_steps (set : ParameterSet α) :
    set.steps.toList = set.entries.map (·.step) := rfl

private theorem consistent (set : ParameterSet α) : set.Consistent where
  names_distinct := set.distinct
  index_iff _ _ := indexOf?_eq_some_iff
  absent_iff _ := indexOf?_eq_none_iff
  same_length := by
    rw [toList_values, toList_steps, names, List.length_map, List.length_map, List.length_map]
    exact ⟨rfl, rfl, rfl⟩
  same_positions index parameter found := by
    rw [toList_values, toList_steps, names, List.getElem?_map, List.getElem?_map,
      List.getElem?_map, found]
    exact ⟨rfl, rfl, rfl⟩
  checked parameter _ := parameter.valid

/-! ## Operations -/

def drafts (set : ParameterSet α) : List (Draft α) := set.entries.map Parameter.draft

private theorem names_eq (set : ParameterSet α) : set.names = set.drafts.map (·.name) := by
  rw [drafts, List.map_map]
  rfl

/-- What can be done with a set: a parameter without limits is added, another one is made and
pushed, or a whole list is made and loaded in place of what is there. -/
inductive Operation (α : Type) where
  | add (name : String) (value step : α)
  | push (draft : Draft α)
  | load (drafts : List (Draft α))

namespace Operation

def apply (set : ParameterSet α) : Operation α → Except (ParameterError α) (ParameterSet α)
  | add name value step => set.add name value step
  | push draft => do set.push (← draft.make)
  | load drafts => do ofList (← drafts.mapM Draft.make)

/-- The set after an operation. One that fails leaves it as it is. -/
def after (set : ParameterSet α) (operation : Operation α) : ParameterSet α :=
  match operation.apply set with
  | .ok next => next
  | .error _ => set

def Admitted (set : ParameterSet α) : Operation α → Prop
  | add name value step => (Draft.mk name value step Bounds.unlimited).Valid ∧ name ∉ set.names
  | push draft => draft.Valid ∧ draft.name ∉ set.names
  | load drafts => (∀ draft ∈ drafts, draft.Valid) ∧ (drafts.map (·.name)).Nodup

def result (set : ParameterSet α) : Operation α → List (Draft α)
  | add name value step => set.drafts ++ [⟨name, value, step, Bounds.unlimited⟩]
  | push draft => set.drafts ++ [draft]
  | load drafts => drafts

def Appends : Operation α → Prop
  | add .. => True
  | push _ => True
  | load _ => False

end Operation

open Operation

private theorem push_eq_ok_iff {parameter : Parameter α} {next : ParameterSet α} :
    set.push parameter = .ok next ↔
      parameter.name ∉ set.names ∧ next.entries = set.entries ++ [parameter] := by
  unfold push
  split
  · rename_i taken
    exact iff_of_false nofun fun ⟨fresh, _⟩ => fresh taken
  · rename_i fresh
    constructor
    · rintro ⟨⟩
      exact ⟨fresh, rfl⟩
    · rintro ⟨-, entries⟩
      cases next
      cases entries
      rfl

theorem firstRepeated_eq_none_iff {names seen : List String} :
    firstRepeated seen names = none ↔ names.Nodup ∧ ∀ name ∈ names, name ∉ seen := by
  refine ⟨nodup_of_firstRepeated, ?_⟩
  induction names generalizing seen with
  | nil => exact fun _ => rfl
  | cons head rest induction =>
      rintro ⟨distinct, fresh⟩
      rcases List.nodup_cons.mp distinct with ⟨single, distinct⟩
      rcases List.forall_mem_cons.mp fresh with ⟨first, fresh⟩
      rw [firstRepeated, if_neg first]
      refine induction ⟨distinct, fun name member => ?_⟩
      rw [List.mem_cons, not_or]
      exact ⟨fun equal => single (equal ▸ member), fresh name member⟩

private theorem ofList_eq_ok_iff {parameters : List (Parameter α)} {next : ParameterSet α} :
    ofList parameters = .ok next ↔
      (parameters.map (·.name)).Nodup ∧ next.entries = parameters := by
  unfold ofList
  split
  · rename_i name repeated
    refine iff_of_false nofun fun ⟨distinct, _⟩ => ?_
    have none_repeated := firstRepeated_eq_none_iff.mpr
      ⟨distinct, fun name _ => List.not_mem_nil (a := name)⟩
    cases none_repeated.symm.trans repeated
  · rename_i none_repeated
    constructor
    · rintro ⟨⟩
      exact ⟨(nodup_of_firstRepeated none_repeated).1, rfl⟩
    · rintro ⟨-, rfl⟩
      rfl

private theorem drafts_eq_iff {list : List (Parameter α)} :
    set.drafts = list.map Parameter.draft ↔ set.entries = list :=
  (List.map_injective_iff.mpr Parameter.draft_injective).eq_iff

private theorem apply_push_eq_ok_iff (draft : Draft α) {next : ParameterSet α} :
    (Operation.push draft).apply set = .ok next ↔
      draft.Valid ∧ draft.name ∉ set.names ∧ next.drafts = set.drafts ++ [draft] := by
  rw [apply, bind_eq_ok_iff]
  simp only [Draft.make_eq_ok_iff, push_eq_ok_iff, Draft.valid_iff]
  have extended (parameter : Parameter α) : next.drafts = set.drafts ++ [parameter.draft] ↔
      next.entries = set.entries ++ [parameter] := by
    rw [← drafts_eq_iff, List.map_append, drafts, drafts, List.map_singleton]
  constructor
  · rintro ⟨parameter, rfl, fresh, entries⟩
    exact ⟨⟨parameter, rfl⟩, fresh, (extended parameter).mpr entries⟩
  · rintro ⟨⟨parameter, rfl⟩, fresh, drafts⟩
    exact ⟨parameter, rfl, fresh, (extended parameter).mp drafts⟩

private theorem apply_load_eq_ok_iff {list : List (Draft α)} {next : ParameterSet α} :
    (load list).apply set = .ok next ↔
      (∀ draft ∈ list, draft.Valid) ∧ (list.map (·.name)).Nodup ∧ next.drafts = list := by
  rw [apply, bind_eq_ok_iff]
  simp only [mapM_make_eq_ok_iff, ofList_eq_ok_iff, forall_valid_iff]
  constructor
  · rintro ⟨parameters, rfl, distinct, entries⟩
    rw [List.map_map]
    exact ⟨⟨parameters, rfl⟩, distinct, drafts_eq_iff.mpr entries⟩
  · rintro ⟨⟨parameters, rfl⟩, distinct, drafts⟩
    rw [List.map_map] at distinct
    exact ⟨parameters, rfl, distinct, drafts_eq_iff.mp drafts⟩

private theorem apply_eq_ok_iff {operation : Operation α} {next : ParameterSet α} :
    operation.apply set = .ok next ↔
      operation.Admitted set ∧ next.drafts = operation.result set := by
  cases operation with
  | add name value step =>
      exact (apply_push_eq_ok_iff ⟨name, value, step, Bounds.unlimited⟩).trans and_assoc.symm
  | push draft => exact (apply_push_eq_ok_iff draft).trans and_assoc.symm
  | load drafts => exact apply_load_eq_ok_iff.trans and_assoc.symm

private theorem exists_drafts {list : List (Draft α)} (valid : ∀ draft ∈ list, draft.Valid)
    (distinct : (list.map (·.name)).Nodup) : ∃ set : ParameterSet α, set.drafts = list := by
  rcases forall_valid_iff.mp valid with ⟨parameters, rfl⟩
  rw [List.map_map] at distinct
  exact ⟨⟨parameters, distinct⟩, rfl⟩

private theorem forall_drafts_valid (set : ParameterSet α) : ∀ draft ∈ set.drafts, draft.Valid :=
  List.forall_mem_map.mpr fun parameter _ => parameter.valid

private theorem append_valid {draft : Draft α} (valid : draft.Valid)
    (fresh : draft.name ∉ set.names) :
    (∀ other ∈ set.drafts ++ [draft], other.Valid) ∧
      ((set.drafts ++ [draft]).map (·.name)).Nodup := by
  constructor
  · exact List.forall_mem_append.mpr
      ⟨set.forall_drafts_valid, List.forall_mem_singleton.mpr valid⟩
  · rw [List.map_append, ← names_eq, List.map_singleton, ← List.concat_eq_append]
    exact List.Nodup.concat fresh set.distinct

private theorem Operation.Admitted.result_valid {operation : Operation α}
    (admitted : operation.Admitted set) :
    (∀ draft ∈ operation.result set, draft.Valid) ∧
      ((operation.result set).map (·.name)).Nodup := by
  cases operation with
  | add name value step => exact append_valid admitted.1 admitted.2
  | push draft => exact append_valid admitted.1 admitted.2
  | load drafts => exact admitted

private theorem apply_of_admitted {operation : Operation α} (admitted : operation.Admitted set) :
    ∃ next, operation.apply set = .ok next ∧ operation.after set = next ∧
      next.drafts = operation.result set := by
  rcases admitted.result_valid with ⟨valid, distinct⟩
  rcases exists_drafts valid distinct with ⟨next, result⟩
  have applied := apply_eq_ok_iff.mpr ⟨admitted, result⟩
  refine ⟨next, applied, ?_, result⟩
  rw [after, applied]

private theorem apply_of_not_admitted {operation : Operation α}
    (refused : ¬operation.Admitted set) :
    ∃ cause, operation.apply set = .error cause ∧ operation.after set = set := by
  rcases applied : operation.apply set with cause | next
  · refine ⟨cause, rfl, ?_⟩
    rw [after, applied]
  · exact absurd (apply_eq_ok_iff.mp applied).1 refused

private theorem drafts_prefix_after {operation : Operation α} (appends : operation.Appends)
    (set : ParameterSet α) : set.drafts <+: (operation.after set).drafts := by
  by_cases admitted : operation.Admitted set
  · rcases apply_of_admitted admitted with ⟨next, -, equal, result⟩
    rw [equal, result]
    cases operation with
    | add => exact List.prefix_append ..
    | push => exact List.prefix_append ..
    | load => exact appends.elim
  · rcases apply_of_not_admitted admitted with ⟨cause, -, equal⟩
    exact equal.symm ▸ List.prefix_rfl

/-! ## Sequences of operations -/

def run (operations : List (Operation α)) : ParameterSet α :=
  operations.foldl Operation.after empty

theorem run_concat (operations : List (Operation α)) (operation : Operation α) :
    run (operations ++ [operation]) = operation.after (run operations) :=
  List.foldl_concat ..

private theorem drafts_prefix_run (operations : List (Operation α)) {later : List (Operation α)}
    (appends : ∀ operation ∈ later, operation.Appends) :
    (run operations).drafts <+: (run (operations ++ later)).drafts := by
  induction later using List.reverseRecOn with
  | nil => exact (List.append_nil operations).symm ▸ List.prefix_rfl
  | append_singleton later operation induction =>
      rcases List.forall_mem_append.mp appends with ⟨earlier, last⟩
      rw [← List.append_assoc, run_concat]
      exact (induction earlier).trans
        (drafts_prefix_after (last operation List.mem_cons_self) _)

private theorem indexOf?_of_prefix {next : ParameterSet α} (kept : set.drafts <+: next.drafts)
    {index : Nat} (found : set.indexOf? name = some index) : next.indexOf? name = some index := by
  rw [indexOf?_eq_some_iff, names_eq] at found ⊢
  rcases kept.map (·.name) with ⟨others, whole⟩
  rcases List.getElem?_eq_some_iff.mp found with ⟨bound, -⟩
  rw [← whole, List.getElem?_append_left bound, found]

/-- After any operations the names of a set are an index of its parameters, all of which have
been checked. One more operation succeeds exactly when its data pass the checks and its names
are free, or leaves the set as it is. Adding and pushing append one parameter and change no
index. -/
theorem built_sets_are_indices (operations : List (Operation α)) :
    (run operations).Consistent ∧
    (∀ operation : Operation α,
      (operation.Admitted (run operations) →
        ∃ next, operation.apply (run operations) = .ok next ∧
          run (operations ++ [operation]) = next ∧
          next.drafts = operation.result (run operations)) ∧
      (¬operation.Admitted (run operations) →
        ∃ cause, operation.apply (run operations) = .error cause ∧
          run (operations ++ [operation]) = run operations)) ∧
    ∀ later : List (Operation α), (∀ operation ∈ later, operation.Appends) →
      (run operations).drafts <+: (run (operations ++ later)).drafts ∧
      ∀ name index, (run operations).indexOf? name = some index →
        (run (operations ++ later)).indexOf? name = some index := by
  refine ⟨consistent _, fun operation => ?_, fun later appends => ?_⟩
  · rw [run_concat]
    exact ⟨apply_of_admitted, apply_of_not_admitted⟩
  · have kept := drafts_prefix_run operations appends
    exact ⟨kept, fun _ _ => indexOf?_of_prefix kept⟩

/-- A limited parameter behind one that keeps its index, and a name that is taken. -/
theorem built_sets_are_indices_of_two :
    (∃ next, (Operation.push (Draft.mk "b" (1 : Float) 1 ⟨some 0, none⟩)).apply
        (run [.add "a" 0 1]) = .ok next ∧
      run [.add "a" 0 1, .push ⟨"b", 1, 1, ⟨some 0, none⟩⟩] = next) ∧
    (∃ cause, (Operation.add "a" (1 : Float) 1).apply (run [.add "a" 0 1]) = .error cause ∧
      run [.add "a" (0 : Float) 1, .add "a" 1 1] = run [.add "a" 0 1]) ∧
    (run [.add "a" (0 : Float) 1]).indexOf? "a" = some 0 ∧
    (run [.add "a" (0 : Float) 1, .add "a" 1 1]).indexOf? "a" = some 0 := by
  have names : (run [.add "a" (0 : Float) 1]).names = ["a"] := by decide +kernel
  have first : (run [.add "a" (0 : Float) 1]).indexOf? "a" = some 0 := by decide +kernel
  have valid : (Draft.mk "b" (1 : Float) 1 ⟨some 0, none⟩).Valid := by
    refine ⟨by decide +kernel, by decide +kernel, by decide +kernel, ?_, nofun, nofun, ?_, nofun⟩
    · rintro _ ⟨⟩
      decide +kernel
    · rintro _ ⟨⟩
      decide +kernel
  have admitted : (Operation.push (Draft.mk "b" (1 : Float) 1 ⟨some 0, none⟩)).Admitted
      (run [.add "a" 0 1]) := ⟨valid, by rw [names]; decide⟩
  have refused : ¬(Operation.add "a" (1 : Float) 1).Admitted (run [.add "a" 0 1]) :=
    fun admitted => admitted.2 (by rw [names]; decide)
  have consistent := built_sets_are_indices [.add "a" (0 : Float) 1]
  rcases (consistent.2.1 _).1 admitted with ⟨next, applied, equal, -⟩
  have later := consistent.2.2 [.add "a" 1 1] (List.forall_mem_singleton.mpr trivial)
  exact ⟨⟨next, applied, equal⟩, (consistent.2.1 _).2 refused, first, later.2 "a" 0 first⟩

end ParameterSet

end CurveFitting
