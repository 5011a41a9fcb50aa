import CurveFitting.Proofs.ParameterIndex

/-! # Repeated names

The parameters of a list are loaded at once, or pushed one after another. Loading remembers the
names that it has seen, and pushing looks through the set that has come about. Both stop at the
first parameter whose name stands before it, or come to the same set.
-/

namespace CurveFitting

namespace ParameterSet

variable {α : Type} [Scalar α] {set : ParameterSet α} {seen : List String}

/-! ## The first name that repeats -/

private theorem firstRepeated_cons {name : String} {names : List String} (fresh : name ∉ seen) :
    firstRepeated seen (name :: names) = firstRepeated (name :: seen) names := if_neg fresh

private theorem firstRepeated_append {earlier later : List String}
    (fresh : firstRepeated seen earlier = none) :
    firstRepeated seen (earlier ++ later) = firstRepeated (earlier.reverse ++ seen) later := by
  induction earlier generalizing seen with
  | nil => rfl
  | cons head earlier induction =>
      rw [firstRepeated] at fresh
      split at fresh
      · cases fresh
      · rename_i new
        rw [List.cons_append, firstRepeated_cons new, induction fresh, List.reverse_cons,
          List.append_assoc, List.singleton_append]

private theorem firstRepeated_eq_some_iff {names : List String} {name : String} :
    firstRepeated seen names = some name ↔
      ∃ earlier later, names = earlier ++ name :: later ∧ firstRepeated seen earlier = none ∧
        (name ∈ earlier ∨ name ∈ seen) := by
  constructor
  · intro found
    induction names generalizing seen with
    | nil => cases found
    | cons head names induction =>
        rw [firstRepeated] at found
        split at found
        · rename_i old
          cases found
          exact ⟨[], names, rfl, rfl, .inr old⟩
        · rename_i fresh
          rcases induction found with ⟨earlier, later, rfl, new, repeated⟩
          refine ⟨head :: earlier, later, rfl, ?_, ?_⟩
          · rw [firstRepeated_cons fresh, new]
          · rw [List.mem_cons] at repeated ⊢
            exact or_assoc.mpr (or_left_comm.mp repeated)
  · rintro ⟨earlier, later, rfl, fresh, repeated⟩
    rw [firstRepeated_append fresh]
    exact if_pos (List.mem_append.mpr (repeated.imp_left List.mem_reverse.mpr))

/-- Of names that repeat crosswise the one whose second place comes first is reported. -/
example : firstRepeated [] ["a", "b", "c", "b", "a"] = some "b" := by decide

/-! ## Loading and pushing -/

def pushEach (set : ParameterSet α) (parameters : List (Parameter α)) :
    Except (ParameterError α) (ParameterSet α) :=
  parameters.foldlM push set

private theorem push_of_taken {parameter : Parameter α} (taken : parameter.name ∈ set.names) :
    set.push parameter = .error (.duplicateName parameter.name) := dif_pos taken

private theorem exists_push_of_fresh {parameter : Parameter α}
    (fresh : parameter.name ∉ set.names) :
    ∃ next, set.push parameter = .ok next ∧ next.entries = set.entries ++ [parameter] :=
  ⟨_, dif_neg fresh, rfl⟩

private theorem entries_injective : (entries : ParameterSet α → List (Parameter α)).Injective := by
  rintro ⟨first, _⟩ ⟨second, _⟩ same
  cases same
  rfl

/-- What comes of parameters behind others whose names have been seen: all of them, or the error
about the first name that repeats. -/
private def joined (entries : List (Parameter α)) (seen : List String)
    (parameters : List (Parameter α)) :
    Except (ParameterError α) (List (Parameter α)) :=
  (firstRepeated seen (parameters.map (·.name))).elim (.ok (entries ++ parameters))
    fun name => .error (.duplicateName name)

section

variable {before parameters : List (Parameter α)}

private theorem joined_of_fresh (fresh : firstRepeated seen (parameters.map (·.name)) = none) :
    joined before seen parameters = .ok (before ++ parameters) := by
  rw [joined, fresh]
  rfl

private theorem joined_of_repeated {name : String}
    (repeated : firstRepeated seen (parameters.map (·.name)) = some name) :
    joined before seen parameters = .error (.duplicateName name) := by
  rw [joined, repeated]
  rfl

end

private theorem pushEach_entries (known : ∀ name, name ∈ seen ↔ name ∈ set.names)
    (parameters : List (Parameter α)) :
    (set.pushEach parameters).map entries = joined set.entries seen parameters := by
  induction parameters generalizing set seen with
  | nil => exact congrArg Except.ok (List.append_nil set.entries).symm
  | cons parameter parameters induction =>
      rw [pushEach, List.foldlM_cons, joined, List.map_cons]
      by_cases taken : parameter.name ∈ set.names
      · rw [push_of_taken taken, firstRepeated, if_pos ((known _).mpr taken)]
        rfl
      · rcases exists_push_of_fresh taken with ⟨next, pushed, grown⟩
        -- A name goes to the front of those seen and to the back of those in the set.
        have kept : ∀ name, name ∈ parameter.name :: seen ↔ name ∈ next.names := by
          intro name
          rw [names, grown, List.map_append, List.mem_append, List.mem_cons, known, or_comm,
            List.map_singleton, List.mem_singleton, names]
        have later := induction kept
        rw [joined, grown, List.append_assoc, List.singleton_append] at later
        rw [pushed, firstRepeated_cons ((known _).not.mpr taken)]
        exact later

private theorem ofList_entries (parameters : List (Parameter α)) :
    (ofList parameters).map entries = joined [] [] parameters := by
  unfold ofList
  split
  · rename_i repeated
    exact (joined_of_repeated repeated).symm
  · rename_i none_repeated
    have all : joined [] [] parameters = .ok parameters := joined_of_fresh none_repeated
    exact all.symm

private theorem ofList_eq_pushEach (parameters : List (Parameter α)) :
    ofList parameters = empty.pushEach parameters := by
  apply except_map_injective entries_injective
  rw [ofList_entries, pushEach_entries (fun _ => Iff.rfl)]
  rfl

private theorem ofList_eq_error_iff {parameters : List (Parameter α)} {cause : ParameterError α} :
    ofList parameters = .error cause ↔
      ∃ name, firstRepeated [] (parameters.map (·.name)) = some name ∧
        cause = .duplicateName name := by
  constructor
  · intro failed
    unfold ofList at failed
    split at failed
    · rename_i name repeated
      cases failed
      exact ⟨name, repeated, rfl⟩
    · cases failed
  · rintro ⟨name, repeated, rfl⟩
    unfold ofList
    split
    · rename_i other found
      cases repeated.symm.trans found
      rfl
    · rename_i none_repeated
      cases repeated.symm.trans none_repeated

private theorem firstRepeated_names_eq_some_iff {parameters : List (Parameter α)} {name : String} :
    firstRepeated [] (parameters.map (·.name)) = some name ↔
      ∃ earlier parameter later, parameters = earlier ++ parameter :: later ∧
        (earlier.map (·.name)).Nodup ∧ parameter.name ∈ earlier.map (·.name) ∧
        name = parameter.name := by
  rw [firstRepeated_eq_some_iff]
  constructor
  · rintro ⟨before, after, split, fresh, repeated⟩
    rcases List.map_eq_append_iff.mp split with ⟨earlier, rest, rfl, rfl, tail⟩
    rcases List.map_eq_cons_iff.mp tail with ⟨parameter, later, rfl, rfl, rfl⟩
    exact ⟨earlier, parameter, later, rfl, (nodup_of_firstRepeated fresh).1,
      repeated.resolve_right List.not_mem_nil, rfl⟩
  · rintro ⟨earlier, parameter, later, rfl, distinct, repeated, rfl⟩
    refine ⟨_, _, List.map_append, ?_, .inl repeated⟩
    exact firstRepeated_eq_none_iff.mpr ⟨distinct, fun _ _ => List.not_mem_nil⟩

/-- Parameters are loaded at once as if they were pushed one after another onto the empty set:
the same set comes about, or the same error. It is that of the first push that fails, which
is about the first parameter whose name stands before it. -/
theorem loading_pushes_in_turn (parameters : List (Parameter α)) :
    ofList parameters = empty.pushEach parameters ∧
    (∀ cause, ofList parameters = .error cause ↔
      ∃ earlier parameter later set, parameters = earlier ++ parameter :: later ∧
        empty.pushEach earlier = .ok set ∧ set.push parameter = .error cause) ∧
    ∀ cause, ofList parameters = .error cause ↔
      ∃ earlier parameter later, parameters = earlier ++ parameter :: later ∧
        (earlier.map (·.name)).Nodup ∧ parameter.name ∈ earlier.map (·.name) ∧
        cause = .duplicateName parameter.name := by
  refine ⟨ofList_eq_pushEach parameters, fun cause => ?_, fun cause => ?_⟩
  · rw [ofList_eq_pushEach]
    exact foldlM_eq_error_iff
  · rw [ofList_eq_error_iff]
    simp only [firstRepeated_names_eq_some_iff]
    constructor
    · rintro ⟨name, ⟨earlier, parameter, later, whole, distinct, repeated, rfl⟩, rfl⟩
      exact ⟨earlier, parameter, later, whole, distinct, repeated, rfl⟩
    · rintro ⟨earlier, parameter, later, whole, distinct, repeated, rfl⟩
      exact ⟨_, ⟨earlier, parameter, later, whole, distinct, repeated, rfl⟩, rfl⟩

end ParameterSet

end CurveFitting
