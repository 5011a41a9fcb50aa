import Mathlib.Data.List.Forall2

/-! # Lists of results

The items of a list are read one after another, and the first one that cannot be read ends the
reading with its error. So do steps that take the items in, each from where the last one led.
-/

namespace CurveFitting

variable {α β ε : Type} {read : α → Except ε β} {items : List α}

theorem bind_eq_ok_iff {first : Except ε α} {next : α → Except ε β} {result : β} :
    (first >>= next) = .ok result ↔ ∃ item, first = .ok item ∧ next item = .ok result := by
  rcases first with cause | item
  · exact iff_of_false nofun nofun
  · exact ⟨fun succeeds => ⟨item, rfl, succeeds⟩, fun ⟨_, equal, succeeds⟩ =>
      Except.ok.inj equal ▸ succeeds⟩

private theorem mapM_cons_of_ok {item : α} {result : β} (succeeds : read item = .ok result) :
    (item :: items).mapM read = (items.mapM read).map (result :: ·) := by
  rw [List.mapM_cons, succeeds]
  change (items.mapM read >>= fun results => .ok (result :: results)) = _
  cases items.mapM read <;> rfl

private theorem mapM_cons_of_error {item : α} {cause : ε} (fails : read item = .error cause) :
    (item :: items).mapM read = .error cause := by
  rw [List.mapM_cons, fails]
  rfl

theorem mapM_eq_ok_iff {results : List β} : items.mapM read = .ok results ↔
    List.Forall₂ (fun item result => read item = .ok result) items results := by
  induction items generalizing results with
  | nil =>
      rw [List.forall₂_nil_left_iff]
      exact ⟨fun succeeds => (Except.ok.inj succeeds).symm, fun empty => empty ▸ rfl⟩
  | cons item items induction =>
      rw [List.forall₂_cons_left_iff]
      rcases first : read item with cause | result
      · rw [mapM_cons_of_error first]
        exact iff_of_false nofun fun ⟨_, _, read, _⟩ => nomatch read
      · rw [mapM_cons_of_ok first]
        rcases others : items.mapM read with cause | rest
        · refine iff_of_false nofun fun ⟨_, _, _, read, _⟩ => ?_
          cases others.symm.trans (induction.mpr read)
        · constructor
          · intro succeeds
            exact ⟨result, rest, rfl, induction.mp others, (Except.ok.inj succeeds).symm⟩
          · rintro ⟨other, more, same, read, rfl⟩
            cases same
            cases others.symm.trans (induction.mpr read)
            rfl

private theorem mapM_of_first_error {earlier later : List α} {item : α} {cause : ε}
    (good : ∀ item ∈ earlier, ∃ result, read item = .ok result)
    (fails : read item = .error cause) :
    (earlier ++ item :: later).mapM read = .error cause := by
  induction earlier with
  | nil => exact mapM_cons_of_error fails
  | cons head earlier induction =>
      rcases List.forall_mem_cons.mp good with ⟨⟨result, first⟩, others⟩
      rw [List.cons_append, mapM_cons_of_ok first, induction others]
      rfl

theorem mapM_eq_error_iff {cause : ε} : items.mapM read = .error cause ↔
    ∃ earlier item later, items = earlier ++ item :: later ∧
      (∀ item ∈ earlier, ∃ result, read item = .ok result) ∧ read item = .error cause := by
  constructor
  · intro fails
    induction items with
    | nil => cases fails
    | cons item items induction =>
        rcases first : read item with early | result
        · rw [mapM_cons_of_error first] at fails
          cases fails
          exact ⟨[], item, items, rfl, nofun, first⟩
        · rw [mapM_cons_of_ok first] at fails
          rcases others : items.mapM read with late | results
          · rw [others] at fails
            cases fails
            rcases induction others with ⟨earlier, bad, later, rfl, good, failed⟩
            exact ⟨item :: earlier, bad, later, rfl,
              List.forall_mem_cons.mpr ⟨⟨result, first⟩, good⟩, failed⟩
          · rw [others] at fails
            cases fails
  · rintro ⟨earlier, item, later, rfl, good, fails⟩
    exact mapM_of_first_error good fails

theorem exists_mapM_eq_ok_iff :
    (∃ results, items.mapM read = .ok results) ↔
      ∀ item ∈ items, ∃ result, read item = .ok result := by
  constructor
  · rintro ⟨results, succeeds⟩
    induction mapM_eq_ok_iff.mp succeeds with
    | nil => exact fun _ member => absurd member List.not_mem_nil
    | cons first others induction =>
        exact List.forall_mem_cons.mpr ⟨⟨_, first⟩, induction (mapM_eq_ok_iff.mpr others)⟩
  · intro good
    rcases whole : items.mapM read with cause | results
    · rcases mapM_eq_error_iff.mp whole with ⟨earlier, item, later, rfl, -, fails⟩
      rcases good item (List.mem_append_right _ List.mem_cons_self) with ⟨result, succeeds⟩
      cases fails.symm.trans succeeds
    · exact ⟨results, rfl⟩

theorem mapM_append_of_ok {others : List α} {results : List β}
    (succeeds : items.mapM read = .ok results) :
    (items ++ others).mapM read = (others.mapM read).map (results ++ ·) := by
  rw [List.mapM_append, succeeds]
  cases others.mapM read <;> rfl

theorem mapM_mapError (change : ε → ε) (read : α → Except ε β) (items : List α) :
    (items.mapM fun item => (read item).mapError change) = (items.mapM read).mapError change := by
  induction items with
  | nil => rfl
  | cons item items induction =>
      rw [List.mapM_cons, List.mapM_cons, induction]
      rcases read item with _ | _
      · rfl
      · cases items.mapM read <;> rfl

/-! ## Steps in a row -/

theorem except_map_injective {change : α → β} (injective : change.Injective) :
    (Except.map change : Except ε α → Except ε β).Injective := by
  rintro (_ | first) (_ | second) same
  · cases same
    rfl
  · cases same
  · cases same
  · exact congrArg Except.ok (injective (Except.ok.inj same))

theorem foldlM_eq_error_iff {step : β → α → Except ε β} {start : β} {cause : ε} :
    items.foldlM step start = .error cause ↔
      ∃ earlier item later reached, items = earlier ++ item :: later ∧
        earlier.foldlM step start = .ok reached ∧ step reached item = .error cause := by
  constructor
  · intro fails
    induction items generalizing start with
    | nil => cases fails
    | cons item items induction =>
        rw [List.foldlM_cons] at fails
        rcases first : step start item with early | next
        · rw [first] at fails
          cases fails
          exact ⟨[], item, items, start, rfl, rfl, first⟩
        · rw [first] at fails
          rcases induction fails with ⟨earlier, bad, later, reached, rfl, passed, failed⟩
          refine ⟨item :: earlier, bad, later, reached, rfl, ?_, failed⟩
          rw [List.foldlM_cons, first]
          exact passed
  · rintro ⟨earlier, item, later, reached, rfl, passed, failed⟩
    rw [List.foldlM_append, passed]
    change (item :: later).foldlM step reached = _
    rw [List.foldlM_cons, failed]
    rfl

end CurveFitting
