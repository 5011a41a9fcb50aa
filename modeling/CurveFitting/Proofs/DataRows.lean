import Mathlib.Data.List.Sort
import CurveFitting.DataFile
import CurveFitting.Proofs.Numeral.Literal
import CurveFitting.Proofs.Results
import CurveFitting.Proofs.Text.Blank
import CurveFitting.Proofs.Text.Lines

/-! # The rows of a data file

Which lines of a text are rows with data, and what a row says, is stated here about the text
itself. A text is loaded if and only if every such row says a sample, and otherwise the first
one that does not is blamed, under its number among all lines.
-/

namespace CurveFitting

namespace DataFile

open Text

variable {text row field xField yField : List Char} {line : Line}

/-! ## Lines with data -/

/-- A line of a text with its number among all of them. -/
def Stands (text : List Char) (line : Line) : Prop :=
  ∃ cut index, CutInto text cut ∧ cut[index]? = some line.text ∧ line.number = index + 1

/-- A line that is more than white space and whose first character is not a `#`. -/
def Significant (line : List Char) : Prop :=
  ∃ first rest, TrimsTo line (first :: rest) ∧ first ≠ '#'

/-- The significant lines of a text, without the first one where that is a header. -/
structure IsDataRow (text : List Char) (skipHeader : Bool) (row : Line) : Prop where
  stands : Stands text row
  significant : Significant row.text
  not_header : skipHeader = true → ∃ earlier : Line, Stands text earlier ∧
    Significant earlier.text ∧ earlier.number < row.number

private theorem mem_numbered_iff : line ∈ numbered text ↔ Stands text line := by
  unfold numbered
  simp only [List.mem_map, Prod.exists, List.mem_zipIdx_iff_getElem?]
  constructor
  · rintro ⟨content, index, found, rfl⟩
    exact ⟨lines text, index, cutInto_lines text, found, rfl⟩
  · rintro ⟨cut, index, cuts, found, number⟩
    rw [← cuts.lines_eq] at found
    exact ⟨line.text, index, found, by rw [← number]⟩

theorem isSignificant_iff : isSignificant line = true ↔ Significant line.text := by
  unfold isSignificant Significant
  simp only [trimsTo_iff]
  rcases trim line.text with _ | ⟨first, rest⟩
  · exact iff_of_false nofun fun ⟨_, _, equal, _⟩ => by cases equal
  · simp

private theorem numbered_increase (text : List Char) :
    (numbered text).Pairwise (·.number < ·.number) := by
  have counted : (lines text).zipIdx.Pairwise (·.2 < ·.2) := by
    rw [← List.pairwise_map, List.zipIdx_map_snd]
    exact List.pairwise_lt_range'
  exact List.pairwise_map.mpr (counted.imp Nat.succ_lt_succ)

private theorem significant_increase (text : List Char) :
    ((numbered text).filter isSignificant).Pairwise (·.number < ·.number) :=
  (numbered_increase text).filter _

private theorem rows_increase (text : List Char) (skipHeader : Bool) :
    (rows text skipHeader).Pairwise (·.number < ·.number) := by
  unfold rows
  split
  · exact (significant_increase text).drop
  · exact significant_increase text

private theorem mem_drop_one_iff {numbered : List Line}
    (increase : numbered.Pairwise (·.number < ·.number)) :
    line ∈ numbered.drop 1 ↔
      line ∈ numbered ∧ ∃ earlier ∈ numbered, earlier.number < line.number := by
  rcases numbered with _ | ⟨first, others⟩
  · simp
  · have least := (List.pairwise_cons.mp increase).1
    rw [List.drop_one, List.tail_cons]
    constructor
    · intro member
      exact ⟨List.mem_cons_of_mem _ member, first, List.mem_cons_self, least line member⟩
    · rintro ⟨member, earlier, present, before⟩
      rcases List.mem_cons.mp member with rfl | member
      · rcases List.mem_cons.mp present with rfl | present
        · exact absurd before (lt_irrefl _)
        · exact absurd before (least earlier present).asymm
      · exact member

private theorem mem_rows_iff {skipHeader : Bool} :
    line ∈ rows text skipHeader ↔ IsDataRow text skipHeader line := by
  have significant (line : Line) : line ∈ (numbered text).filter isSignificant ↔
      Stands text line ∧ Significant line.text := by
    rw [List.mem_filter, mem_numbered_iff, isSignificant_iff]
  unfold rows
  cases skipHeader with
  | false =>
      rw [if_neg Bool.false_ne_true, significant]
      exact ⟨fun ⟨stands, shown⟩ => ⟨stands, shown, nofun⟩,
        fun row => ⟨row.stands, row.significant⟩⟩
  | true =>
      rw [if_pos rfl, mem_drop_one_iff (significant_increase text), significant]
      constructor
      · rintro ⟨⟨stands, shown⟩, earlier, member, before⟩
        rcases (significant earlier).mp member with ⟨stood, header⟩
        exact ⟨stands, shown, fun _ => ⟨earlier, stood, header, before⟩⟩
      · rintro ⟨stands, shown, headed⟩
        rcases headed rfl with ⟨earlier, stood, header, before⟩
        exact ⟨⟨stands, shown⟩, earlier, (significant earlier).mpr ⟨stood, header⟩, before⟩

/-! ## Fields -/

/-- The first two fields of a row. A row without a comma has no second one. -/
inductive LeadingFields : List Char → Option (List Char × List Char) → Prop
  | one {row : List Char} (plain : ',' ∉ row) : LeadingFields row none
  | two {x y : List Char} (plain : ',' ∉ x) (plainToo : ',' ∉ y) :
      LeadingFields (x ++ ',' :: y) (some (x, y))
  | more {x y others : List Char} (plain : ',' ∉ x) (plainToo : ',' ∉ y) :
      LeadingFields (x ++ ',' :: (y ++ ',' :: others)) (some (x, y))

def leading (row : List Char) : Option (List Char × List Char) :=
  match separated ',' row with
  | x :: y :: _ => some (x, y)
  | _ => none

theorem LeadingFields.leading_eq {fields : Option (List Char × List Char)}
    (leads : LeadingFields row fields) : leading row = fields := by
  unfold leading
  cases leads with
  | one plain => rw [separated_of_not_mem plain]
  | two plain plainToo => rw [separated_append_cons plain, separated_of_not_mem plainToo]
  | more plain plainToo => rw [separated_append_cons plain, separated_append_cons plainToo]

private theorem leadingFields_leading (row : List Char) : LeadingFields row (leading row) := by
  rcases exists_first_separator ',' row with plain | ⟨x, behind, rfl, plain⟩
  · have leads := LeadingFields.one plain
    rwa [leads.leading_eq]
  · rcases exists_first_separator ',' behind with plainToo | ⟨y, others, rfl, plainToo⟩
    · have leads := LeadingFields.two plain plainToo
      rwa [leads.leading_eq]
    · have leads : LeadingFields (x ++ ',' :: (y ++ ',' :: others)) (some (x, y)) :=
        .more plain plainToo
      rwa [leads.leading_eq]

private theorem leadingFields_iff {fields : Option (List Char × List Char)} :
    LeadingFields row fields ↔ leading row = fields :=
  ⟨LeadingFields.leading_eq, fun equal => equal ▸ leadingFields_leading row⟩

/-- A field is the literal of a finite number, with white space around it. -/
def ReadsAs (field : List Char) (value : Float) : Prop :=
  ∃ literal, TrimsTo field literal ∧ Numeral.IsLiteral literal ∧
    Numeral.read literal = some value ∧ value.isFinite = true

/-- What is wrong with a field: it is no literal, or the number is not finite. -/
inductive Spoils (number : Nat) (field : List Char) : LoadError → Prop
  | invalidNumber {core : List Char} (trims : TrimsTo field core)
      (odd : ¬Numeral.IsLiteral core) :
      Spoils number field (.invalidNumber number (String.ofList core))
  | nonFinite {literal : List Char} {value : Float} (trims : TrimsTo field literal)
      (proper : Numeral.IsLiteral literal) (reads : Numeral.read literal = some value)
      (infinite : value.isFinite = false) : Spoils number field (.nonFinite number value)

private theorem not_isLiteral_iff : Numeral.read text = none ↔ ¬Numeral.IsLiteral text := by
  rw [← Numeral.read_isSome_iff, Option.not_isSome_iff_eq_none]

private theorem readField_eq_ok_iff {number : Nat} {value : Float} :
    readField number field = .ok value ↔ ReadsAs field value := by
  unfold readField ReadsAs
  simp only [trimsTo_iff, ← Numeral.read_isSome_iff, exists_eq_left']
  rcases Numeral.read (trim field) with _ | found
  · exact iff_of_false nofun nofun
  · dsimp only
    split
    · rename_i finite
      constructor
      · rintro ⟨⟩
        exact ⟨rfl, rfl, finite⟩
      · rintro ⟨-, equal, -⟩
        rw [Option.some.inj equal]
    · rename_i infinite
      refine iff_of_false nofun ?_
      rintro ⟨-, equal, finite⟩
      exact infinite (Option.some.inj equal ▸ finite)

private theorem readField_eq_error_iff {number : Nat} {cause : LoadError} :
    readField number field = .error cause ↔ Spoils number field cause := by
  unfold readField
  constructor
  · intro fails
    dsimp only at fails
    split at fails
    · rename_i odd
      cases fails
      exact .invalidNumber (trimsTo_trim field) (not_isLiteral_iff.mp odd)
    · rename_i value reads
      split at fails
      · cases fails
      · rename_i infinite
        cases fails
        have proper := Numeral.read_isSome_iff.mp (Option.isSome_iff_exists.mpr ⟨value, reads⟩)
        exact .nonFinite (trimsTo_trim field) proper reads (Bool.eq_false_iff.mpr infinite)
  · intro spoils
    cases spoils with
    | invalidNumber trims odd =>
        rw [trims.trim_eq]
        dsimp only
        rw [not_isLiteral_iff.mpr odd]
    | nonFinite trims proper reads infinite =>
        rw [trims.trim_eq]
        dsimp only
        rw [reads]
        exact if_neg (Bool.eq_false_iff.mp infinite)

def readFields (number : Nat) : Option (List Char × List Char) → Except LoadError (DataPoint Float)
  | some (x, y) => do
      let x ← readField number x
      let y ← readField number y
      return ⟨x, y⟩
  | none => .error (.missingField number)

/-- Nothing behind the second field is read. -/
theorem readRow_eq (row : Line) : readRow row = readFields row.number (leading row.text) := by
  unfold readRow leading
  rcases separated ',' row.text with _ | ⟨x, _ | ⟨y, others⟩⟩
  · rfl
  · rfl
  · rfl

def Gives (row : Line) (point : DataPoint Float) : Prop :=
  ∃ x y, LeadingFields row.text (some (x, y)) ∧ ReadsAs x point.x ∧ ReadsAs y point.y

/-- What is wrong with a row. The second field is looked at if the first one is good. -/
inductive Blames (row : Line) : LoadError → Prop
  | missingField (single : LeadingFields row.text none) : Blames row (.missingField row.number)
  | first {x y : List Char} {cause : LoadError} (leads : LeadingFields row.text (some (x, y)))
      (bad : Spoils row.number x cause) : Blames row cause
  | second {x y : List Char} {value : Float} {cause : LoadError}
      (leads : LeadingFields row.text (some (x, y))) (good : ReadsAs x value)
      (bad : Spoils row.number y cause) : Blames row cause

private theorem readFields_of_spoilt_first {number : Nat} {cause : LoadError}
    (bad : Spoils number xField cause) :
    readFields number (some (xField, yField)) = .error cause := by
  rw [readFields, readField_eq_error_iff.mpr bad]
  rfl

private theorem readFields_of_first {number : Nat} {x : Float} (good : ReadsAs xField x) :
    readFields number (some (xField, yField)) = (readField number yField).map (⟨x, ·⟩) := by
  rw [readFields, readField_eq_ok_iff.mpr good]
  cases readField number yField <;> rfl

private theorem readField_cases (number : Nat) (field : List Char) :
    (∃ value, ReadsAs field value) ∨ ∃ cause, Spoils number field cause := by
  rcases read : readField number field with cause | value
  · exact .inr ⟨cause, readField_eq_error_iff.mp read⟩
  · exact .inl ⟨value, readField_eq_ok_iff.mp read⟩

private theorem Gives.readRow_eq {row : Line} {point : DataPoint Float} (gives : Gives row point) :
    readRow row = .ok point := by
  rcases gives with ⟨x, y, leads, readsX, readsY⟩
  rw [DataFile.readRow_eq, leads.leading_eq, readFields_of_first readsX,
    readField_eq_ok_iff.mpr readsY]
  rfl

private theorem Blames.readRow_eq {row : Line} {cause : LoadError} (blames : Blames row cause) :
    readRow row = .error cause := by
  rw [DataFile.readRow_eq]
  cases blames with
  | missingField single => rw [single.leading_eq, readFields]
  | first leads bad => rw [leads.leading_eq, readFields_of_spoilt_first bad]
  | second leads good bad =>
      rw [leads.leading_eq, readFields_of_first good, readField_eq_error_iff.mpr bad]
      rfl

private theorem gives_or_blames (row : Line) :
    (∃ point, Gives row point) ∨ ∃ cause, Blames row cause := by
  rcases fields : leading row.text with _ | ⟨x, y⟩
  · exact .inr ⟨_, .missingField (leadingFields_iff.mpr fields)⟩
  · have leads := leadingFields_iff.mpr fields
    rcases readField_cases row.number x with ⟨xValue, readsX⟩ | ⟨cause, bad⟩
    · rcases readField_cases row.number y with ⟨yValue, readsY⟩ | ⟨cause, bad⟩
      · exact .inl ⟨⟨xValue, yValue⟩, x, y, leads, readsX, readsY⟩
      · exact .inr ⟨cause, .second leads readsX bad⟩
    · exact .inr ⟨cause, .first leads bad⟩

private theorem readRow_eq_ok_iff {row : Line} {point : DataPoint Float} :
    readRow row = .ok point ↔ Gives row point := by
  refine ⟨fun read => ?_, Gives.readRow_eq⟩
  rcases gives_or_blames row with ⟨other, gives⟩ | ⟨cause, blames⟩
  · cases gives.readRow_eq.symm.trans read
    exact gives
  · cases blames.readRow_eq.symm.trans read

private theorem readRow_eq_error_iff {row : Line} {cause : LoadError} :
    readRow row = .error cause ↔ Blames row cause := by
  refine ⟨fun read => ?_, Blames.readRow_eq⟩
  rcases gives_or_blames row with ⟨point, gives⟩ | ⟨other, blames⟩
  · cases gives.readRow_eq.symm.trans read
  · cases blames.readRow_eq.symm.trans read
    exact blames

/-! ## Whole files -/

/-- A text has a row with data under a number, and the row begins with two given fields or has
no second one. -/
def HasRow (text : List Char) (skipHeader : Bool) (number : Nat)
    (fields : Option (List Char × List Char)) : Prop :=
  ∃ row, IsDataRow text skipHeader ⟨number, row⟩ ∧ LeadingFields row fields

private def leadingRows (text : List Char) (skipHeader : Bool) :
    List (Nat × Option (List Char × List Char)) :=
  (rows text skipHeader).map fun row => (row.number, leading row.text)

private theorem hasRow_iff {skipHeader : Bool} {number : Nat}
    {fields : Option (List Char × List Char)} :
    HasRow text skipHeader number fields ↔ (number, fields) ∈ leadingRows text skipHeader := by
  unfold HasRow leadingRows
  simp only [List.mem_map, Prod.mk.injEq, ← mem_rows_iff, leadingFields_iff]
  constructor
  · rintro ⟨row, member, leads⟩
    exact ⟨⟨number, row⟩, member, rfl, leads⟩
  · rintro ⟨⟨_, row⟩, member, rfl, leads⟩
    exact ⟨row, member, leads⟩

private theorem parse_eq (text : List Char) (skipHeader : Bool) :
    parse text skipHeader = (leadingRows text skipHeader).mapM fun (number, fields) =>
      readFields number fields := by
  rw [parse, leadingRows, List.mapM_map]
  exact congrArg (List.mapM · _) (funext readRow_eq)

private theorem leadingRows_increase (text : List Char) (skipHeader : Bool) :
    (leadingRows text skipHeader).Pairwise (·.1 < ·.1) :=
  List.pairwise_map.mpr (rows_increase text skipHeader)

private theorem leadingRows_eq {other : List Char} {skipHeader otherSkip : Bool}
    (same : ∀ number fields, HasRow text skipHeader number fields ↔
      HasRow other otherSkip number fields) :
    leadingRows text skipHeader = leadingRows other otherSkip := by
  -- The numbers grow along both lists, so the same members stand in the same order.
  let before (row next : Nat × Option (List Char × List Char)) : Prop := row.1 < next.1
  have : Std.Irrefl before := ⟨fun row => lt_irrefl row.1⟩
  have : Std.Antisymm before := ⟨fun _ _ first second => absurd first second.asymm⟩
  refine List.Pairwise.eq_of_mem_iff (r := before) (leadingRows_increase text skipHeader)
    (leadingRows_increase other otherSkip) fun (number, fields) => ?_
  rw [← hasRow_iff, ← hasRow_iff, same]

section

variable {skipHeader : Bool}

private theorem parse_eq_ok_iff {points : List (DataPoint Float)} :
    parse text skipHeader = .ok points ↔ List.Forall₂ Gives (rows text skipHeader) points := by
  simp only [parse, mapM_eq_ok_iff, readRow_eq_ok_iff]

private theorem exists_parse_eq_ok_iff :
    (∃ points, parse text skipHeader = .ok points) ↔
      ∀ row, IsDataRow text skipHeader row → ∃ point, Gives row point := by
  simp only [parse, exists_mapM_eq_ok_iff, readRow_eq_ok_iff, mem_rows_iff]

private theorem mem_earlier_iff {earlier later : List Line} {row : Line}
    (increase : (earlier ++ row :: later).Pairwise (·.number < ·.number)) :
    line ∈ earlier ↔ line ∈ earlier ++ row :: later ∧ line.number < row.number := by
  rcases List.pairwise_append.mp increase with ⟨-, behind, across⟩
  constructor
  · intro member
    exact ⟨List.mem_append_left _ member, across line member row List.mem_cons_self⟩
  · rintro ⟨member, before⟩
    rcases List.mem_append.mp member with member | member
    · exact member
    · rcases List.mem_cons.mp member with rfl | member
      · exact absurd before (lt_irrefl _)
      · exact absurd before ((List.pairwise_cons.mp behind).1 line member).asymm

private theorem parse_eq_error_iff {cause : LoadError} : parse text skipHeader = .error cause ↔
    ∃ row, IsDataRow text skipHeader row ∧ Blames row cause ∧
      ∀ earlier, IsDataRow text skipHeader earlier → earlier.number < row.number →
        ∃ point, Gives earlier point := by
  have increase := rows_increase text skipHeader
  simp only [parse, mapM_eq_error_iff, readRow_eq_ok_iff, readRow_eq_error_iff, ← mem_rows_iff]
  constructor
  · rintro ⟨earlier, row, later, whole, good, blames⟩
    rw [whole] at increase ⊢
    refine ⟨row, List.mem_append_right _ List.mem_cons_self, blames, fun line member before => ?_⟩
    exact good line ((mem_earlier_iff increase).mpr ⟨member, before⟩)
  · rintro ⟨row, member, blames, good⟩
    rcases List.append_of_mem member with ⟨earlier, later, whole⟩
    rw [whole] at increase good
    refine ⟨earlier, row, later, whole, fun line member => ?_, blames⟩
    rcases (mem_earlier_iff increase).mp member with ⟨present, before⟩
    exact good line present before

private theorem parse_congr {other : List Char} {otherSkip : Bool}
    (same : ∀ number fields, HasRow text skipHeader number fields ↔
      HasRow other otherSkip number fields) :
    parse other otherSkip = parse text skipHeader := by
  rw [parse_eq, parse_eq, leadingRows_eq same]

end

/-- The samples of a text are what its rows with data give, one by one and in order. If one of
the rows gives no sample, the first such row is blamed. Only the first two fields of the rows
and their numbers matter. -/
theorem parse_decided_by_rows (text : List Char) (skipHeader : Bool) :
    (∃ rows : List Line, rows.Pairwise (·.number < ·.number) ∧
      (∀ row, row ∈ rows ↔ IsDataRow text skipHeader row) ∧
      ∀ points, parse text skipHeader = .ok points ↔ List.Forall₂ Gives rows points) ∧
    ((∃ points, parse text skipHeader = .ok points) ↔
      ∀ row, IsDataRow text skipHeader row → ∃ point, Gives row point) ∧
    (∀ cause, parse text skipHeader = .error cause ↔
      ∃ row, IsDataRow text skipHeader row ∧ Blames row cause ∧
        ∀ earlier, IsDataRow text skipHeader earlier → earlier.number < row.number →
          ∃ point, Gives earlier point) ∧
    ∀ other otherSkip, (∀ number fields, HasRow text skipHeader number fields ↔
        HasRow other otherSkip number fields) →
      parse other otherSkip = parse text skipHeader := by
  refine ⟨⟨rows text skipHeader, rows_increase text skipHeader, fun _ => mem_rows_iff,
    fun _ => parse_eq_ok_iff⟩, exists_parse_eq_ok_iff, fun _ => parse_eq_error_iff, ?_⟩
  intro other otherSkip same
  exact parse_congr same

/-- A header, a comment, a blank line and a third field are as if they were not there. -/
theorem parse_decided_by_leading_fields :
    (∀ number fields, HasRow "x,y\n1, 2,3\n#\n".toList true number fields ↔
      HasRow "\n1, 2\n \t".toList false number fields) ∧
    parse "\n1, 2\n \t".toList false = parse "x,y\n1, 2,3\n#\n".toList true := by
  have same (number fields) : HasRow "x,y\n1, 2,3\n#\n".toList true number fields ↔
      HasRow "\n1, 2\n \t".toList false number fields := by
    have equal : leadingRows "x,y\n1, 2,3\n#\n".toList true =
        leadingRows "\n1, 2\n \t".toList false := by decide +kernel
    rw [hasRow_iff, hasRow_iff, equal]
  exact ⟨same, (parse_decided_by_rows _ true).2.2.2 _ false same⟩

end DataFile

end CurveFitting
