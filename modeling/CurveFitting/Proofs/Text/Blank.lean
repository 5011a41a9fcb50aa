import Mathlib.Data.List.DropRight
import CurveFitting.Text.Lines

/-! # Trimmed texts

A text has one way to be cut into white space, a core that neither begins nor ends with
white space, and white space again. Trimming keeps the core.
-/

namespace CurveFitting.Text

variable {text core : List Char}

/-- A text is its core between two stretches of white space. -/
structure TrimsTo (text core : List Char) : Prop where
  between : ∃ before after, text = before ++ core ++ after ∧
    (∀ character ∈ before, isBlank character = true) ∧
    ∀ character ∈ after, isBlank character = true
  head : ∀ character ∈ core.head?, isBlank character = false
  last : ∀ character ∈ core.getLast?, isBlank character = false

private theorem trim_eq_rdropWhile (text : List Char) :
    trim text = (text.dropWhile isBlank).rdropWhile isBlank := rfl

theorem dropWhile_isBlank_append {blanks rest : List Char}
    (blank : ∀ character ∈ blanks, isBlank character = true)
    (shown : ∀ character ∈ rest.head?, isBlank character = false) :
    (blanks ++ rest).dropWhile isBlank = rest := by
  rw [List.dropWhile_append_of_pos blank]
  cases rest with
  | nil => rfl
  | cons first rest => exact List.dropWhile_cons_of_neg (Bool.eq_false_iff.mp (shown first rfl))

theorem head?_trim (text : List Char) : (trim text).head? = (text.dropWhile isBlank).head? := by
  rw [trim_eq_rdropWhile]
  rcases found : text.dropWhile isBlank with _ | ⟨first, rest⟩
  · rfl
  · rcases List.rdropWhile_prefix isBlank (first :: rest) with ⟨dropped, whole⟩
    rcases kept : (first :: rest).rdropWhile isBlank with _ | ⟨head, tail⟩
    · have blank := List.rdropWhile_eq_nil_iff.mp kept first List.mem_cons_self
      have begins := List.head?_dropWhile_not isBlank text
      rw [found] at begins
      have shown : isBlank first = false := begins
      cases shown.symm.trans blank
    · rw [kept] at whole
      exact congrArg some (List.cons.inj whole).1

theorem trimsTo_trim (text : List Char) : TrimsTo text (trim text) where
  between := by
    refine ⟨text.takeWhile isBlank, (text.dropWhile isBlank).rtakeWhile isBlank, ?_,
      fun _ => List.mem_takeWhile_imp, fun _ => List.mem_rtakeWhile_imp⟩
    rw [List.append_assoc, trim_eq_rdropWhile, List.rdropWhile_append_rtakeWhile,
      List.takeWhile_append_dropWhile]
  head := by
    rw [head?_trim]
    intro character first
    have shown := List.head?_dropWhile_not isBlank text
    rwa [Option.mem_def.mp first] at shown
  last := by
    intro character final
    rcases List.getLast?_eq_some_iff.mp final with ⟨earlier, ended⟩
    have keeps : trim text ≠ [] := ended ▸ List.append_ne_nil_of_right_ne_nil _ nofun
    have shown : ¬isBlank ((trim text).getLast keeps) = true :=
      List.rdropWhile_last_not isBlank _ keeps
    have equal : (trim text).getLast keeps = character := by
      rw [List.getLast_congr keeps (ended ▸ keeps) ended, List.getLast_append_singleton]
    exact Bool.eq_false_iff.mpr (equal ▸ shown)

theorem TrimsTo.trim_eq (trims : TrimsTo text core) : trim text = core := by
  rcases trims.between with ⟨before, after, rfl, leading, trailing⟩
  rw [trim_eq_rdropWhile, List.append_assoc]
  rcases core with _ | ⟨first, rest⟩
  · rw [List.nil_append, List.dropWhile_eq_nil_iff.mpr (List.forall_mem_append.mpr
      ⟨leading, trailing⟩), List.rdropWhile_nil]
  · have shown : ∀ character ∈ (first :: rest).reverse.head?, isBlank character = false := by
      rw [List.head?_reverse]
      exact trims.last
    have blank : ∀ character ∈ after.reverse, isBlank character = true :=
      fun character member => trailing character (List.mem_reverse.mp member)
    have begins : ∀ character ∈ (first :: rest ++ after).head?, isBlank character = false :=
      trims.head
    rw [dropWhile_isBlank_append leading begins, List.rdropWhile, List.reverse_append,
      dropWhile_isBlank_append blank shown, List.reverse_reverse]

theorem trimsTo_iff : TrimsTo text core ↔ trim text = core :=
  ⟨TrimsTo.trim_eq, fun equal => equal ▸ trimsTo_trim text⟩

theorem trim_concat_blank {character : Char} (blank : isBlank character = true)
    (text : List Char) : trim (text ++ [character]) = trim text := by
  have trims := trimsTo_trim text
  rcases trims.between with ⟨before, after, equal, leading, trailing⟩
  apply TrimsTo.trim_eq
  refine ⟨⟨before, after ++ [character], ?_, leading, ?_⟩, trims.head, trims.last⟩
  · rw [← List.append_assoc, ← equal]
  · rw [List.forall_mem_append]
    exact ⟨trailing, List.forall_mem_singleton.mpr blank⟩

end CurveFitting.Text
