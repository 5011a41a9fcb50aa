import CurveFitting.Proofs.Text.Blank
import CurveFitting.Proofs.Text.Lines

/-! # Lines whatever ends them

Carriage returns at the end of a line are white space, so it does not matter whether they are
kept. Without them a text falls into lines at every line feed in the same way.
-/

namespace CurveFitting.Text

variable {text line : List Char}

def bare (line : List Char) : List Char := line.rdropWhile (· == '\r')

private theorem bare_concat (line : List Char) : bare (line ++ ['\r']) = bare line :=
  List.rdropWhile_concat_pos _ _ _ rfl

theorem bare_dropCarriageReturn (line : List Char) :
    bare (dropCarriageReturn line) = bare line := by
  by_cases returned : line.getLast? = some '\r'
  · rcases List.getLast?_eq_some_iff.mp returned with ⟨earlier, rfl⟩
    rw [dropCarriageReturn_concat, bare_concat]
  · rw [dropCarriageReturn_of_bare returned]

theorem bare_invariant {result : Type} (observe : List Char → result)
    (concat : ∀ line, observe (line ++ ['\r']) = observe line) (line : List Char) :
    observe (bare line) = observe line := by
  induction line using List.reverseRecOn with
  | nil => rfl
  | append_singleton earlier character induction =>
      by_cases returned : character = '\r'
      · rw [returned, bare_concat, induction, concat]
      · rw [bare, List.rdropWhile_concat_neg]
        simpa using returned

/-- The lines of a text without carriage returns. The last one may be empty. -/
def bareLines (text : List Char) : List (List Char) := (separated '\n' text).map bare

theorem bareLines_of_unbroken (unbroken : '\n' ∉ line) : bareLines line = [bare line] := by
  rw [bareLines, separated_of_not_mem unbroken, List.map_singleton]

private theorem bareLines_append_cons (unbroken : '\n' ∉ line) (rest : List Char) :
    bareLines (line ++ '\n' :: rest) = bare line :: bareLines rest := by
  rw [bareLines, separated_append_cons unbroken, List.map_cons, bareLines]

private theorem bareLines_append_lineFeed (text other : List Char) :
    bareLines (text ++ '\n' :: other) = bareLines text ++ bareLines other := by
  induction text using line_induction with
  | last line unbroken =>
      rw [bareLines_append_cons unbroken, bareLines_of_unbroken unbroken, List.singleton_append]
  | next line rest unbroken induction =>
      rw [List.append_assoc, List.cons_append, bareLines_append_cons unbroken, induction,
        bareLines_append_cons unbroken, List.cons_append]

private theorem bareLines_concat (text : List Char) :
    bareLines (text ++ ['\r']) = bareLines text := by
  induction text using line_induction with
  | last line unbroken =>
      have longer : '\n' ∉ line ++ ['\r'] := by simpa using unbroken
      rw [bareLines_of_unbroken longer, bareLines_of_unbroken unbroken, bare_concat]
  | next line rest unbroken induction =>
      rw [List.append_assoc, List.cons_append, bareLines_append_cons unbroken, induction,
        bareLines_append_cons unbroken]

theorem IsLineEnd.bareLines_append {ending : List Char} (ends : IsLineEnd ending)
    (text other : List Char) :
    bareLines (text ++ (ending ++ other)) = bareLines text ++ bareLines other := by
  cases ends with
  | lineFeed => exact bareLines_append_lineFeed text other
  | carriageReturn =>
      have whole : text ++ (['\r', '\n'] ++ other) = (text ++ ['\r']) ++ '\n' :: other := by
        rw [List.append_assoc]
        rfl
      rw [whole, bareLines_append_lineFeed, bareLines_concat]

theorem bareLines_append (closed : Closed text) (other : List Char) :
    bareLines (text ++ other) = (lines text).map bare ++ bareLines other := by
  induction text using line_induction with
  | last line unbroken =>
      rw [closed.eq_nil unbroken]
      rfl
  | next line rest unbroken induction =>
      rw [List.append_assoc, List.cons_append, bareLines_append_cons unbroken,
        induction closed.tail, lines_append_cons unbroken, List.map_cons, List.cons_append,
        bare_dropCarriageReturn]

theorem bareLines_of_closed (closed : Closed text) :
    bareLines text = (lines text).map bare ++ [[]] := by
  have split := bareLines_append closed []
  rwa [List.append_nil] at split

theorem bareLines_of_not_closed (continued : ¬Closed text) :
    bareLines text = (lines text).map bare := by
  induction text using line_induction with
  | last line unbroken =>
      have nonempty : line ≠ [] := fun empty => continued (.inl empty)
      rw [bareLines_of_unbroken unbroken, lines_of_unbroken unbroken nonempty,
        List.map_singleton]
  | next line rest unbroken induction =>
      rw [bareLines_append_cons unbroken, lines_append_cons unbroken, List.map_cons,
        bare_dropCarriageReturn, induction fun closed => continued (closed.cons line)]

end CurveFitting.Text
