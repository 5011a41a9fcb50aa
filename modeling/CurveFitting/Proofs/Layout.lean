import CurveFitting.Proofs.DataRows
import CurveFitting.Proofs.Text.LineEnds

/-! # The layout of a data file

Lines without data, the two ways to end a line and the last line end do not change what is
loaded. Errors follow the line that they are about. A header can be made a comment, and texts
can be loaded one after another.
-/

namespace CurveFitting

/-! ## Errors about other lines -/

def LoadError.mapLine (move : Nat → Nat) : LoadError → LoadError
  | .unreadable path failure => .unreadable path failure
  | .missingField line => .missingField (move line)
  | .invalidNumber line field => .invalidNumber (move line) field
  | .nonFinite line value => .nonFinite (move line) value

namespace DataFile

open Text

variable {text line before : List Char} {above : Nat}

private def Line.renumber (move : Nat → Nat) (line : Line) : Line :=
  { line with number := move line.number }

private theorem readField_move (move : Nat → Nat) (number : Nat) (field : List Char) :
    readField (move number) field = (readField number field).mapError (·.mapLine move) := by
  unfold readField
  dsimp only
  split
  · rfl
  · split <;> rfl

private theorem readFields_move (move : Nat → Nat) (number : Nat)
    (fields : Option (List Char × List Char)) :
    readFields (move number) fields =
      (readFields number fields).mapError (·.mapLine move) := by
  rcases fields with _ | ⟨x, y⟩
  · rfl
  · rw [readFields, readFields, readField_move, readField_move]
    rcases readField number x with _ | x
    · rfl
    · rcases readField number y with _ | y
      · rfl
      · rfl

private theorem readRow_renumber (move : Nat → Nat) (row : Line) :
    readRow (row.renumber move) = (readRow row).mapError (·.mapLine move) := by
  rw [readRow_eq, readRow_eq, ← readFields_move]
  rfl

/-! ## Carriage returns -/

private theorem isBlank_carriageReturn : isBlank '\r' = true := by decide

private theorem trim_bare (line : List Char) : trim (bare line) = trim line :=
  bare_invariant trim (trim_concat_blank isBlank_carriageReturn) line

private theorem significant_bare : Significant (bare line) ↔ Significant line := by
  simp only [Significant, trimsTo_iff, trim_bare]

private theorem readField_concat (number : Nat) (field : List Char) :
    readField number (field ++ ['\r']) = readField number field := by
  rw [readField, trim_concat_blank isBlank_carriageReturn, readField]

private theorem readRow_concat (number : Nat) (row : List Char) :
    readRow ⟨number, row ++ ['\r']⟩ = readRow ⟨number, row⟩ := by
  rw [readRow_eq, readRow_eq]
  dsimp only
  -- The carriage return comes to the only field, to the second one or behind it.
  rcases exists_first_separator ',' row with plain | ⟨x, behind, rfl, plain⟩
  · have longer : ',' ∉ row ++ ['\r'] := by simpa using plain
    rw [(LeadingFields.one plain).leading_eq, (LeadingFields.one longer).leading_eq]
  · rw [List.append_assoc, List.cons_append]
    rcases exists_first_separator ',' behind with plainToo | ⟨y, others, rfl, plainToo⟩
    · have longer : ',' ∉ behind ++ ['\r'] := by simpa using plainToo
      rw [(LeadingFields.two plain plainToo).leading_eq,
        (LeadingFields.two plain longer).leading_eq, readFields, readFields, readField_concat]
    · rw [List.append_assoc, List.cons_append, (LeadingFields.more plain plainToo).leading_eq,
        (LeadingFields.more plain plainToo).leading_eq]

private theorem readRow_bare (number : Nat) (row : List Char) :
    readRow ⟨number, bare row⟩ = readRow ⟨number, row⟩ :=
  bare_invariant (fun row => readRow ⟨number, row⟩) (readRow_concat number) row

/-! ## Lines without data -/

/-- White space and a `#`, then anything. -/
def IsComment (line : List Char) : Prop :=
  ∃ blanks others, line = blanks ++ '#' :: others ∧ ∀ character ∈ blanks, isBlank character = true

def IsIdle (line : List Char) : Prop :=
  (∀ character ∈ line, isBlank character = true) ∨ IsComment line

private theorem IsIdle.not_significant (idle : IsIdle line) : ¬Significant line := by
  rintro ⟨first, others, trims, shown⟩
  have head := head?_trim line
  rw [trims.trim_eq] at head
  rcases idle with blank | ⟨blanks, others, rfl, blank⟩
  · rw [List.dropWhile_eq_nil_iff.mpr blank] at head
    cases head
  · have hash : ∀ character ∈ ('#' :: others).head?, isBlank character = false := by
      rintro character ⟨⟩
      decide
    rw [dropWhile_isBlank_append blank hash] at head
    exact shown (Option.some.inj head)

private theorem isIdle_nil : IsIdle [] := .inl fun _ member => absurd member List.not_mem_nil

/-! ## Numbered rows -/

/-- The significant ones of the lines that stand behind others. -/
def placed (above : Nat) (lines : List (List Char)) : List Line :=
  ((lines.zipIdx above).map fun (line, index) => ⟨index + 1, line⟩).filter isSignificant

section

variable {lines : List (List Char)}

private theorem placed_cons_of_significant (shown : Significant line) :
    placed above (line :: lines) = ⟨above + 1, line⟩ :: placed (above + 1) lines :=
  List.filter_cons_of_pos (isSignificant_iff.mpr shown)

private theorem placed_cons_of_idle (idle : ¬Significant line) :
    placed above (line :: lines) = placed (above + 1) lines :=
  List.filter_cons_of_neg (isSignificant_iff.not.mpr idle)

private theorem placed_append (above : Nat) (lines others : List (List Char)) :
    placed above (lines ++ others) =
      placed above lines ++ placed (above + lines.length) others := by
  unfold placed
  rw [List.zipIdx_append, List.map_append, List.filter_append]

private theorem placed_of_idle (idle : ∀ line ∈ lines, ¬Significant line) (above : Nat) :
    placed above lines = [] := by
  induction lines generalizing above with
  | nil => rfl
  | cons line lines induction =>
      rcases List.forall_mem_cons.mp idle with ⟨first, others⟩
      rw [placed_cons_of_idle first, induction others]

private theorem placed_bound {row : Line} (member : row ∈ placed above lines) :
    above < row.number ∧ row.number ≤ above + lines.length := by
  rcases List.mem_map.mp (List.mem_of_mem_filter member) with ⟨⟨line, index⟩, present, rfl⟩
  rcases List.mem_zipIdx present with ⟨lower, upper, -⟩
  exact ⟨Nat.lt_succ_of_le lower, upper⟩

private theorem placed_shift (above shift : Nat) (lines : List (List Char)) :
    placed (above + shift) lines =
      (placed above lines).map (Line.renumber (· + shift)) := by
  induction lines generalizing above with
  | nil => rfl
  | cons line lines induction =>
      have next := induction (above + 1)
      rw [Nat.add_right_comm] at next
      by_cases shown : Significant line
      · rw [placed_cons_of_significant shown, placed_cons_of_significant shown, next,
          List.map_cons, Line.renumber, Nat.add_right_comm]
      · rw [placed_cons_of_idle shown, placed_cons_of_idle shown, next]

private theorem placed_bare (above : Nat) (lines : List (List Char)) :
    placed above (lines.map bare) =
      (placed above lines).map fun row => { row with text := bare row.text } := by
  induction lines generalizing above with
  | nil => rfl
  | cons line lines induction =>
      rw [List.map_cons]
      by_cases shown : Significant line
      · rw [placed_cons_of_significant shown,
          placed_cons_of_significant (significant_bare.mpr shown), induction, List.map_cons]
      · rw [placed_cons_of_idle shown,
          placed_cons_of_idle (significant_bare.not.mpr shown), induction]

end

def readRows (rows : List Line) (skipHeader : Bool) :
    Except LoadError (List (DataPoint Float)) :=
  (if skipHeader then rows.drop 1 else rows).mapM readRow

private theorem parse_eq_readRows (text : List Char) (skipHeader : Bool) :
    parse text skipHeader = readRows (placed 0 (lines text)) skipHeader := rfl

private theorem readRows_map (change : Line → Line) (rows : List Line) (skipHeader : Bool) :
    readRows (rows.map change) skipHeader =
      (if skipHeader then rows.drop 1 else rows).mapM (readRow ∘ change) := by
  rw [readRows, ← List.mapM_map]
  cases skipHeader with
  | false => rfl
  | true => rw [if_pos rfl, if_pos rfl, List.map_drop]

private theorem readRows_renumber (move : Nat → Nat) (rows : List Line) (skipHeader : Bool) :
    readRows (rows.map (Line.renumber move)) skipHeader =
      (readRows rows skipHeader).mapError (·.mapLine move) := by
  rw [readRows_map, readRows, ← mapM_mapError]
  exact congrArg (List.mapM · _) (funext (readRow_renumber move))

private theorem placed_bareLines (text : List Char) :
    placed 0 (bareLines text) = placed 0 ((lines text).map bare) := by
  by_cases closed : Closed text
  · rw [bareLines_of_closed closed, placed_append,
      placed_cons_of_idle isIdle_nil.not_significant]
    exact List.append_nil _
  · rw [bareLines_of_not_closed closed]

/-- Carriage returns at the ends of lines are not read. -/
theorem parse_eq_bare (text : List Char) (skipHeader : Bool) :
    parse text skipHeader = readRows (placed 0 (bareLines text)) skipHeader := by
  rw [placed_bareLines, placed_bare, readRows_map, parse_eq_readRows, readRows]
  exact congrArg (List.mapM · _) (funext fun row => (readRow_bare row.number row.text).symm)

/-! ## Inserted lines -/

/-- A text with one more line behind the lines above. A line that is put behind an unended last
line needs a line end before it. -/
inductive Inserted (line : List Char) : Nat → List Char → List Char → Prop
  | between {before ending after : List Char} (closed : Closed before) (ends : IsLineEnd ending) :
      Inserted line (lines before).length (before ++ after)
        (before ++ (line ++ (ending ++ after)))
  | last {before : List Char} (closed : Closed before) :
      Inserted line (lines before).length before (before ++ line)
  | behind {before start ending : List Char} (continued : ¬Closed before)
      (starts : IsLineEnd start) (ends : ending = [] ∨ IsLineEnd ending) :
      Inserted line (lines before).length before (before ++ (start ++ (line ++ ending)))

private theorem placed_last {ending : List Char} (unbroken : '\n' ∉ line)
    (ends : ending = [] ∨ IsLineEnd ending) (above : Nat) :
    placed above (bareLines (line ++ ending)) = placed above [bare line] := by
  rcases ends with rfl | ends
  · rw [List.append_nil, bareLines_of_unbroken unbroken]
  · have split := ends.bareLines_append line []
    rw [List.append_nil] at split
    rw [split, bareLines_of_unbroken unbroken, placed_append]
    exact List.append_nil _

private theorem placed_behind (closed : Closed before) (other : List Char) :
    placed 0 (bareLines (before ++ other)) =
      placed 0 ((lines before).map bare) ++ placed (lines before).length (bareLines other) := by
  rw [bareLines_append closed, placed_append, List.length_map, Nat.zero_add]

private theorem Inserted.splits {other : List Char} (inserted : Inserted line above text other)
    (unbroken : '\n' ∉ line) (idle : IsIdle line) :
    ∃ first others : List (List Char), first.length = above ∧
      placed 0 (bareLines text) = placed 0 first ++ placed above others ∧
      placed 0 (bareLines other) = placed 0 first ++ placed (above + 1) others := by
  have nothing (above : Nat) (others : List (List Char)) :
      placed above (bare line :: others) = placed (above + 1) others :=
    placed_cons_of_idle (significant_bare.not.mpr idle.not_significant)
  -- Lines stand behind the new one only where it has been put between others.
  cases inserted with
  | @between before ending after closed ends =>
      refine ⟨(lines before).map bare, bareLines after, List.length_map _,
        placed_behind closed after, ?_⟩
      rw [placed_behind closed, ends.bareLines_append, bareLines_of_unbroken unbroken,
        List.singleton_append, nothing]
  | last closed =>
      refine ⟨(lines text).map bare, [], List.length_map _, ?_, ?_⟩
      · rw [placed_bareLines]
        exact (List.append_nil _).symm
      · rw [placed_behind closed, bareLines_of_unbroken unbroken, nothing]
  | @behind _ start ending continued starts ends =>
      refine ⟨(lines text).map bare, [], List.length_map _, ?_, ?_⟩
      · rw [placed_bareLines]
        exact (List.append_nil _).symm
      · rw [starts.bareLines_append, placed_append, placed_bareLines, placed_last unbroken ends,
          nothing]
        rfl

/-- The number that a line has after one more line has been put behind the lines above. -/
private def numberAfter (above number : Nat) : Nat := if above < number then number + 1 else number

private theorem placed_insert {first others : List (List Char)} (counted : first.length = above) :
    placed 0 first ++ placed (above + 1) others =
      (placed 0 first ++ placed above others).map (Line.renumber (numberAfter above)) := by
  have kept : (placed 0 first).map (Line.renumber (numberAfter above)) = placed 0 first := by
    refine List.map_congr_left (fun row member => ?_) |>.trans (List.map_id _)
    have bound := (placed_bound member).2
    rw [Line.renumber, numberAfter, if_neg (by omega)]
    rfl
  have moved : (placed above others).map (Line.renumber (numberAfter above)) =
      (placed above others).map (Line.renumber (· + 1)) :=
    List.map_congr_left fun row member => by
      rw [Line.renumber, numberAfter, if_pos (placed_bound member).1, Line.renumber]
  rw [List.map_append, kept, moved, placed_shift]

private theorem parse_of_inserted {other : List Char} (inserted : Inserted line above text other)
    (unbroken : '\n' ∉ line) (idle : IsIdle line) (skipHeader : Bool) :
    parse other skipHeader = (parse text skipHeader).mapError (·.mapLine (numberAfter above)) := by
  rcases inserted.splits unbroken idle with ⟨first, others, counted, placedText, placedOther⟩
  rw [parse_eq_bare, parse_eq_bare, placedText, placedOther, placed_insert counted,
    readRows_renumber]

/-! ## Line ends -/

/-- Two texts with the same lines, whatever ends them, and the last one with or without a line
end. -/
inductive SameLines : List Char → List Char → Prop
  | last {line ending otherEnding : List Char} (unbroken : '\n' ∉ line)
      (ends : ending = [] ∨ IsLineEnd ending)
      (endsToo : otherEnding = [] ∨ IsLineEnd otherEnding) :
      SameLines (line ++ ending) (line ++ otherEnding)
  | next {line ending otherEnding text other : List Char} (unbroken : '\n' ∉ line)
      (ends : IsLineEnd ending) (endsToo : IsLineEnd otherEnding) (same : SameLines text other) :
      SameLines (line ++ (ending ++ text)) (line ++ (otherEnding ++ other))

private theorem SameLines.placed_eq {other : List Char} (same : SameLines text other)
    (above : Nat) :
    placed above (bareLines text) = placed above (bareLines other) := by
  induction same generalizing above with
  | last unbroken ends endsToo => rw [placed_last unbroken ends, placed_last unbroken endsToo]
  | next unbroken ends endsToo _ induction =>
      rw [ends.bareLines_append, endsToo.bareLines_append, placed_append, placed_append, induction]

private theorem parse_of_sameLines {other : List Char} (same : SameLines text other)
    (skipHeader : Bool) : parse other skipHeader = parse text skipHeader := by
  rw [parse_eq_bare, parse_eq_bare, same.placed_eq]

/-! ## Headers -/

/-- A text and the same text with its first significant line made a comment. -/
inductive HeaderCommented : List Char → List Char → Prop
  | absent {text : List Char} (idle : ∀ line ∈ lines text, ¬Significant line) :
      HeaderCommented text text
  | present {before header comment after : List Char} (closed : Closed before)
      (idle : ∀ line ∈ lines before, ¬Significant line) (shown : Significant header)
      (unbroken : '\n' ∉ header) (commented : IsComment comment) (unbrokenToo : '\n' ∉ comment)
      (ended : after = [] ∨ ∃ ending rest, IsLineEnd ending ∧ after = ending ++ rest) :
      HeaderCommented (before ++ (header ++ after)) (before ++ (comment ++ after))

private theorem bareLines_ended {after : List Char}
    (ended : after = [] ∨ ∃ ending rest, IsLineEnd ending ∧ after = ending ++ rest) :
    ∃ others, ∀ line, '\n' ∉ line → bareLines (line ++ after) = bare line :: others := by
  rcases ended with rfl | ⟨ending, rest, ends, rfl⟩
  · refine ⟨[], fun line unbroken => ?_⟩
    rw [List.append_nil, bareLines_of_unbroken unbroken]
  · refine ⟨bareLines rest, fun line unbroken => ?_⟩
    rw [ends.bareLines_append, bareLines_of_unbroken unbroken, List.singleton_append]

private theorem bare_idle {lines : List (List Char)} (idle : ∀ line ∈ lines, ¬Significant line) :
    ∀ line ∈ lines.map bare, ¬Significant line :=
  List.forall_mem_map.mpr fun line member => significant_bare.not.mpr (idle line member)

private theorem IsComment.not_significant (commented : IsComment line) : ¬Significant line :=
  IsIdle.not_significant (.inr commented)

private theorem parse_of_headerCommented {other : List Char}
    (commented : HeaderCommented text other) :
    parse other false = parse text true := by
  rw [parse_eq_bare, parse_eq_bare]
  cases commented with
  | absent idle =>
      rw [placed_bareLines, placed_of_idle (bare_idle idle)]
      rfl
  | present closed idle shown unbroken commented unbrokenToo ended =>
      rcases bareLines_ended ended with ⟨others, cut⟩
      rw [placed_behind closed, placed_behind closed, cut _ unbroken, cut _ unbrokenToo,
        placed_of_idle (bare_idle idle), List.nil_append, List.nil_append,
        placed_cons_of_significant (significant_bare.mpr shown),
        placed_cons_of_idle (significant_bare.not.mpr commented.not_significant)]
      rfl

private theorem isComment_hash (line : List Char) : IsComment ('#' :: line) :=
  ⟨[], line, rfl, fun _ member => absurd member List.not_mem_nil⟩

private theorem significant_dropCarriageReturn :
    Significant (dropCarriageReturn line) ↔ Significant line := by
  rw [← significant_bare, bare_dropCarriageReturn, significant_bare]

private theorem exists_headerCommented (text : List Char) :
    ∃ other, HeaderCommented text other := by
  have closed : Closed [] := .inl rfl
  have nothing : ∀ line ∈ lines [], ¬Significant line := fun _ member =>
    absurd member List.not_mem_nil
  -- A significant first line is the header, otherwise the header is that of the rest.
  induction text using line_induction with
  | last line unbroken =>
      by_cases shown : Significant line
      · have commented := HeaderCommented.present closed nothing shown unbroken
          (isComment_hash line) (by simpa using unbroken) (.inl rfl)
        rw [List.append_nil] at commented
        exact ⟨_, commented⟩
      · refine ⟨line, .absent ?_⟩
        by_cases empty : line = []
        · exact empty ▸ nothing
        · rw [lines_of_unbroken unbroken empty]
          exact List.forall_mem_singleton.mpr shown
  | next line rest unbroken induction =>
      by_cases shown : Significant line
      · exact ⟨_, .present closed nothing shown unbroken (isComment_hash line)
          (by simpa using unbroken) (.inr ⟨['\n'], rest, .lineFeed, rfl⟩)⟩
      · have idle := significant_dropCarriageReturn.not.mpr shown
        rcases induction with ⟨other, commented⟩
        cases commented with
        | absent others =>
            refine ⟨line ++ '\n' :: rest, .absent ?_⟩
            rw [lines_append_cons unbroken]
            exact List.forall_mem_cons.mpr ⟨idle, others⟩
        | @present before header comment after closed others shown plain commented plainToo ended =>
            have longer : ∀ next ∈ lines (line ++ '\n' :: before), ¬Significant next := by
              rw [lines_append_cons unbroken]
              exact List.forall_mem_cons.mpr ⟨idle, others⟩
            have behind := HeaderCommented.present (closed.cons line) longer shown plain commented
              plainToo ended
            rw [List.append_assoc] at behind
            exact ⟨_, behind⟩

/-! ## Texts one after another -/

private theorem parse_append {points : List (DataPoint Float)} (closed : Closed text)
    (loaded : parse text false = .ok points) (other : List Char) :
    parse (text ++ other) false =
      ((parse other false).mapError (·.mapLine (· + (lines text).length))).map (points ++ ·) := by
  rw [parse_eq_bare, placed_bareLines] at loaded
  have first : (placed 0 ((lines text).map bare)).mapM readRow = .ok points := loaded
  have shifted := placed_shift 0 (lines text).length (bareLines other)
  rw [Nat.zero_add] at shifted
  rw [parse_eq_bare, parse_eq_bare, placed_behind closed, ← readRows_renumber, ← shifted]
  exact mapM_append_of_ok first

/-- The layout of a text does not matter. A blank line or a comment moves the lines behind it,
the line ends may be of both kinds, a header may be a comment, and texts are loaded one after
another. -/
theorem parse_layout (text : List Char) (skipHeader : Bool) :
    (∀ line above other, '\n' ∉ line → IsIdle line → Inserted line above text other →
      (∀ points, parse text skipHeader = .ok points → parse other skipHeader = .ok points) ∧
      ∀ cause, parse text skipHeader = .error cause →
        parse other skipHeader = .error
          (cause.mapLine fun number => if above < number then number + 1 else number)) ∧
    (∀ other, SameLines text other → parse other skipHeader = parse text skipHeader) ∧
    ((∃ other, HeaderCommented text other) ∧
      ∀ other, HeaderCommented text other → parse text true = parse other false) ∧
    ∀ points, Closed text → parse text false = .ok points → ∀ other,
      (∀ more, parse other false = .ok more → parse (text ++ other) false = .ok (points ++ more)) ∧
      ∀ cause, parse other false = .error cause →
        parse (text ++ other) false =
          .error (cause.mapLine fun number => number + (lines text).length) := by
  refine ⟨fun line above other unbroken idle inserted => ?_,
    fun other same => parse_of_sameLines same skipHeader,
    ⟨exists_headerCommented text, fun other commented => (parse_of_headerCommented commented).symm⟩,
    fun points closed loaded other => ?_⟩
  · rw [parse_of_inserted inserted unbroken idle]
    constructor
    · intro points loaded
      rw [loaded]
      rfl
    · intro cause failed
      rw [failed]
      rfl
  · rw [parse_append closed loaded]
    constructor
    · intro more loadedToo
      rw [loadedToo]
      rfl
    · intro cause failed
      rw [failed]
      rfl

/-- A comment above a row, another line end, a header and another row. -/
theorem parse_layout_of_row :
    (∃ points, parse ['1', ',', '2', '\n'] false = .ok points ∧
      parse ['#', '\n', '1', ',', '2', '\n'] false = .ok points ∧
      parse ['1', ',', '2', '\r', '\n'] false = .ok points ∧
      parse ['1', ',', '2', '\n', '1', ',', '2', '\r', '\n'] false = .ok (points ++ points) ∧
      parse ['1', ',', '2', '\n', '1', '\n'] false = .error (.missingField 2)) ∧
    parse ['1', '\n'] false = .error (.missingField 1) ∧
    parse ['#', '\n', '1', '\n'] false = .error (.missingField 2) ∧
    parse ['1', '\n'] true = parse ['#', '\n'] false := by
  have comment : IsComment ['#'] := isComment_hash []
  have idle : IsIdle ['#'] := .inr comment
  have start : Closed [] := .inl rfl
  have nothing : ∀ line ∈ lines [], ¬Significant line := fun _ member =>
    absurd member List.not_mem_nil
  have inserted (after : List Char) : Inserted ['#'] (lines []).length ([] ++ after)
      ([] ++ (['#'] ++ (['\n'] ++ after))) := .between start .lineFeed
  have ended : SameLines (['1', ',', '2'] ++ ['\n']) (['1', ',', '2'] ++ ['\r', '\n']) :=
    .last (by decide) (.inr .lineFeed) (.inr .carriageReturn)
  have significant : Significant ['1'] :=
    ⟨'1', [], trimsTo_iff.mpr (by decide +kernel), by decide⟩
  have headed : HeaderCommented ([] ++ (['1'] ++ ['\n'])) ([] ++ (['#'] ++ ['\n'])) :=
    .present start nothing significant (by decide) comment (by decide)
      (.inr ⟨['\n'], [], .lineFeed, rfl⟩)
  have fails : parse ['1', '\n'] false = .error (.missingField 1) := rfl
  have loads : (parse ['1', ',', '2', '\n'] false).toOption.isSome = true := by decide +kernel
  rcases loaded : parse ['1', ',', '2', '\n'] false with cause | points
  · rw [loaded] at loads
    cases loads
  · have layout := parse_layout ['1', ',', '2', '\n'] false
    have short := parse_layout ['1', '\n'] false
    have behind := layout.2.2.2 points (.inr rfl) loaded
    have again := layout.2.1 _ ended
    refine ⟨⟨points, rfl, (layout.1 ['#'] 0 _ (by decide) idle (inserted _)).1 points loaded,
      again.trans loaded, (behind _).1 points (again.trans loaded), (behind _).2 _ fails⟩, fails,
      (short.1 ['#'] 0 _ (by decide) idle (inserted _)).2 _ fails, short.2.2.1.2 _ headed⟩

end DataFile

end CurveFitting
