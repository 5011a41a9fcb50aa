import Mathlib.Data.List.Basic
import CurveFitting.Text.Lines

/-! # The lines of a text

A text is its lines, one after another, each of them with a line end and the last one with or
without. There is one way to read it so, and it is the one that the cutting of texts finds.
-/

namespace CurveFitting.Text

variable {text line : List Char}

/-! ## Pieces -/

private theorem separated_eq_splitOn (separator : Char) (text : List Char) :
    separated separator text = text.splitOn separator := by
  induction text with
  | nil => rfl
  | cons first rest induction =>
      rcases found : rest.splitOn separator with _ | ⟨piece, pieces⟩
      · exact absurd found (List.splitOn_ne_nil separator rest)
      · rw [found] at induction
        have step : separated separator (first :: rest) =
            if first = separator then [] :: piece :: pieces else (first :: piece) :: pieces := by
          rw [separated] at induction ⊢
          rw [List.foldr_cons, induction]
        rw [step, List.splitOn_cons_eq_if_modifyHead, found]
        simp only [beq_iff_eq, List.modifyHead_cons]

theorem separated_of_not_mem {separator : Char} (unbroken : separator ∉ text) :
    separated separator text = [text] := by
  rw [separated_eq_splitOn, List.splitOn_eq_singleton unbroken]

theorem separated_append_cons {separator : Char} (unbroken : separator ∉ text)
    (rest : List Char) :
    separated separator (text ++ separator :: rest) = text :: separated separator rest := by
  rw [separated_eq_splitOn, separated_eq_splitOn,
    List.splitOn_append_cons_self_of_not_mem unbroken]

theorem exists_first_separator (separator : Char) (text : List Char) :
    separator ∉ text ∨ ∃ piece rest, text = piece ++ separator :: rest ∧ separator ∉ piece := by
  by_cases member : separator ∈ text
  · rcases List.eq_append_cons_of_mem member with ⟨piece, rest, equal, unbroken⟩
    exact .inr ⟨piece, rest, equal, unbroken⟩
  · exact .inl member

/-- What holds of a text without line feeds, and of a text with one more line in front, holds
of every text. -/
@[elab_as_elim]
theorem line_induction {holds : List Char → Prop} (text : List Char)
    (last : ∀ line, '\n' ∉ line → holds line)
    (next : ∀ line rest, '\n' ∉ line → holds rest → holds (line ++ '\n' :: rest)) :
    holds text := by
  rcases exists_first_separator '\n' text with unbroken | ⟨line, rest, rfl, unbroken⟩
  · exact last text unbroken
  · exact next line rest unbroken (line_induction rest last next)
termination_by text.length
decreasing_by
  rename_i whole
  rw [whole, List.length_append, List.length_cons]
  omega

/-! ## Lines -/

theorem dropCarriageReturn_concat (line : List Char) :
    dropCarriageReturn (line ++ ['\r']) = line := by
  simp [dropCarriageReturn]

theorem dropCarriageReturn_of_bare (bare : line.getLast? ≠ some '\r') :
    dropCarriageReturn line = line := if_neg bare

theorem lines_of_unbroken (unbroken : '\n' ∉ line) (nonempty : line ≠ []) :
    lines line = [line] := by
  rw [lines, separated_of_not_mem unbroken]
  simp [nonempty]

theorem lines_append_cons (unbroken : '\n' ∉ line) (rest : List Char) :
    lines (line ++ '\n' :: rest) = dropCarriageReturn line :: lines rest := by
  rw [lines, lines, separated_append_cons unbroken]
  rcases found : separated '\n' rest with _ | ⟨piece, pieces⟩
  · rw [separated_eq_splitOn] at found
    exact absurd found (List.splitOn_ne_nil '\n' rest)
  · rfl

/-- The lines of a text, read from its start. A line feed ends a line, together with a carriage
return directly before it. -/
inductive CutInto : List Char → List (List Char) → Prop
  | empty : CutInto [] []
  | last {line : List Char} (unbroken : '\n' ∉ line) (nonempty : line ≠ []) : CutInto line [line]
  | lineFeed {line rest : List Char} {cut} (unbroken : '\n' ∉ line)
      (bare : line.getLast? ≠ some '\r') (others : CutInto rest cut) :
      CutInto (line ++ '\n' :: rest) (line :: cut)
  | carriageReturn {line rest : List Char} {cut} (unbroken : '\n' ∉ line)
      (others : CutInto rest cut) : CutInto (line ++ '\r' :: '\n' :: rest) (line :: cut)

theorem CutInto.lines_eq {cut : List (List Char)} (cuts : CutInto text cut) :
    lines text = cut := by
  induction cuts with
  | empty => rfl
  | last unbroken nonempty => exact lines_of_unbroken unbroken nonempty
  | lineFeed unbroken bare _ induction =>
      rw [lines_append_cons unbroken, dropCarriageReturn_of_bare bare, induction]
  | @carriageReturn line rest cut unbroken _ induction =>
      have whole : line ++ '\r' :: '\n' :: rest = (line ++ ['\r']) ++ '\n' :: rest :=
        (List.append_assoc line ['\r'] _).symm
      have longer : '\n' ∉ line ++ ['\r'] := by simpa using unbroken
      rw [whole, lines_append_cons longer, dropCarriageReturn_concat, induction]

theorem cutInto_lines (text : List Char) : CutInto text (lines text) := by
  induction text using line_induction with
  | last line unbroken =>
      by_cases empty : line = []
      · exact empty ▸ .empty
      · rw [lines_of_unbroken unbroken empty]
        exact .last unbroken empty
  | next line rest unbroken others =>
      rw [lines_append_cons unbroken]
      by_cases returned : line.getLast? = some '\r'
      · rcases List.getLast?_eq_some_iff.mp returned with ⟨bare, rfl⟩
        rw [dropCarriageReturn_concat, List.append_assoc]
        exact .carriageReturn (fun member => unbroken (List.mem_append_left _ member)) others
      · rw [dropCarriageReturn_of_bare returned]
        exact .lineFeed unbroken returned others

/-! ## Line ends -/

inductive IsLineEnd : List Char → Prop
  | lineFeed : IsLineEnd ['\n']
  | carriageReturn : IsLineEnd ['\r', '\n']

def Closed (text : List Char) : Prop := text = [] ∨ text.getLast? = some '\n'

theorem Closed.tail {rest : List Char} (closed : Closed (line ++ '\n' :: rest)) :
    Closed rest := by
  rcases closed with empty | ended
  · simp at empty
  · rw [List.getLast?_append_cons, List.getLast?_cons] at ended
    rcases last : rest.getLast? with _ | character
    · exact .inl (List.getLast?_eq_none_iff.mp last)
    · rw [last] at ended
      exact .inr (last.trans ended)

theorem Closed.cons (closed : Closed text) (line : List Char) :
    Closed (line ++ '\n' :: text) := by
  right
  rcases closed with rfl | ended
  · simp
  · rw [List.getLast?_append_cons, List.getLast?_cons, ended]
    rfl

theorem Closed.eq_nil (closed : Closed line) (unbroken : '\n' ∉ line) : line = [] := by
  rcases closed with empty | ended
  · exact empty
  · exact absurd (List.mem_of_getLast? ended) unbroken

end CurveFitting.Text
