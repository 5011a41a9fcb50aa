import Mathlib.Data.List.TakeDrop
import Mathlib.Data.List.TakeWhile
import CurveFitting.Numeral.Literal

/-! # The grammar of numbers

The texts that are read as numbers are those of a grammar: an optional sign, then a name or
digits with an optional point and an optional exponent. No digit may be missing altogether,
neither around the point nor in the exponent.
-/

namespace CurveFitting.Numeral

variable {text sign digits rest : List Char}

/-! ## The grammar -/

inductive IsSign : List Char → Prop
  | none : IsSign []
  | plus : IsSign ['+']
  | minus : IsSign ['-']

def AreDigits (digits : List Char) : Prop := ∀ digit ∈ digits, digit.isDigit = true

/-- No exponent, or a mark with digits behind it, which may have a sign. -/
inductive IsExponent : List Char → Prop
  | none : IsExponent []
  | marked {mark : Char} {sign digits : List Char} (marked : mark = 'e' ∨ mark = 'E')
      (signed : IsSign sign) (some : digits ≠ []) (digital : AreDigits digits) :
      IsExponent (mark :: (sign ++ digits))

/-- Digits with an optional point between them or at their side, then the exponent. -/
inductive IsDecimal : List Char → Prop
  | whole {digits exponent : List Char} (some : digits ≠ []) (digital : AreDigits digits)
      (scaled : IsExponent exponent) : IsDecimal (digits ++ exponent)
  | pointed {whole fraction exponent : List Char} (some : whole ≠ [] ∨ fraction ≠ [])
      (digital : AreDigits whole) (digitalToo : AreDigits fraction)
      (scaled : IsExponent exponent) : IsDecimal (whole ++ '.' :: (fraction ++ exponent))

/-- A name of infinity or of the missing number, in any case. -/
def IsName (text : List Char) : Prop :=
  text.map Char.toLower = "inf".toList ∨ text.map Char.toLower = "infinity".toList ∨
    text.map Char.toLower = "nan".toList

/-- A text that stands for a number. -/
inductive IsLiteral : List Char → Prop
  | name {sign name : List Char} (signed : IsSign sign) (named : IsName name) :
      IsLiteral (sign ++ name)
  | decimal {sign digits : List Char} (signed : IsSign sign) (decimal : IsDecimal digits) :
      IsLiteral (sign ++ digits)

/-! ## Signs and digits -/

private def Unsigned (text : List Char) : Prop := ∀ first ∈ text.head?, first ≠ '+' ∧ first ≠ '-'

private theorem exists_sign (text : List Char) :
    ∃ sign, IsSign sign ∧ text = sign ++ (spanSign text).2 := by
  unfold spanSign
  split
  · exact ⟨_, .minus, rfl⟩
  · exact ⟨_, .plus, rfl⟩
  · exact ⟨_, .none, rfl⟩

private theorem spanSign_append (signed : IsSign sign) (unsigned : Unsigned rest) :
    (spanSign (sign ++ rest)).2 = rest := by
  cases signed with
  | plus => rfl
  | minus => rfl
  | none =>
      rw [List.nil_append]
      unfold spanSign
      split
      · exact absurd rfl (unsigned '-' rfl).2
      · exact absurd rfl (unsigned '+' rfl).1
      · rfl

private theorem AreDigits.unsigned (digital : AreDigits digits) : Unsigned digits := by
  intro first member
  have digit := digital first (List.mem_of_mem_head? member)
  constructor
  · rintro rfl
    cases digit
  · rintro rfl
    cases digit

private theorem spanDigits_eq (text : List Char) :
    spanDigits text = (text.takeWhile Char.isDigit, text.dropWhile Char.isDigit) :=
  List.span_eq_takeWhile_dropWhile Char.isDigit text

private theorem spanDigits_append (digital : AreDigits digits)
    (ended : ∀ first ∈ rest.head?, first.isDigit = false) :
    spanDigits (digits ++ rest) = (digits, rest) := by
  rw [spanDigits_eq, List.takeWhile_append_of_pos digital, List.dropWhile_append_of_pos digital]
  cases rest with
  | nil => simp
  | cons first rest => simp [ended first rfl]

private theorem exists_digits (text : List Char) :
    ∃ digits rest, spanDigits text = (digits, rest) ∧ text = digits ++ rest ∧ AreDigits digits :=
  ⟨_, _, spanDigits_eq text, (List.takeWhile_append_dropWhile ..).symm,
    fun _ => List.mem_takeWhile_imp⟩

private theorem areDigits_iff : AreDigits digits ↔ digits.all Char.isDigit = true :=
  List.all_eq_true.symm

/-! ## Exponents -/

private theorem readExponent_isSome_iff : (readExponent text).isSome = true ↔ IsExponent text := by
  rcases text with _ | ⟨mark, rest⟩
  · exact iff_of_true rfl .none
  · have reads : (readExponent (mark :: rest)).isSome = true ↔ (mark = 'e' ∨ mark = 'E') ∧
        (spanSign rest).2 ≠ [] ∧ AreDigits (spanSign rest).2 := by
      rw [areDigits_iff, readExponent]
      by_cases marked : mark = 'e' ∨ mark = 'E'
      · rw [if_pos marked]
        rcases spanSign rest with ⟨negative, unsigned⟩
        dsimp only
        by_cases digital : unsigned ≠ [] ∧ unsigned.all Char.isDigit = true
        · rw [if_neg (by simpa using digital)]
          exact iff_of_true (by split <;> rfl) ⟨marked, digital⟩
        · rw [if_pos (by simpa [or_iff_not_imp_left] using digital)]
          exact iff_of_false nofun fun reads => digital reads.2
      · rw [if_neg marked]
        exact iff_of_false nofun fun reads => marked reads.1
    rw [reads]
    constructor
    · rintro ⟨marked, some, digital⟩
      rcases exists_sign rest with ⟨sign, signed, whole⟩
      rw [whole]
      exact .marked marked signed some digital
    · intro scaled
      cases scaled with
      | marked marked signed some digital =>
          rw [spanSign_append signed digital.unsigned]
          exact ⟨marked, some, digital⟩

private theorem IsExponent.ended (scaled : IsExponent text) :
    ∀ first ∈ text.head?, first.isDigit = false ∧ first ≠ '.' := by
  intro first member
  cases scaled with
  | none => cases member
  | marked marked =>
      cases member
      rcases marked with rfl | rfl
      · exact ⟨rfl, by decide⟩
      · exact ⟨rfl, by decide⟩

/-! ## Decimals -/

private theorem readDecimal_unpointed {whole behind : List Char}
    (spanned : spanDigits text = (whole, behind)) (bare : ∀ rest, behind ≠ '.' :: rest) :
    (readDecimal text).isSome = true ↔ whole ≠ [] ∧ IsExponent behind := by
  unfold readDecimal
  rw [spanned, ← readExponent_isSome_iff]
  dsimp only
  split
  · exact absurd rfl (bare _)
  · by_cases empty : whole = [] <;> simp [empty]

private theorem readDecimal_pointed {whole behind fraction exponent : List Char}
    (spanned : spanDigits text = (whole, '.' :: behind))
    (spannedToo : spanDigits behind = (fraction, exponent)) :
    (readDecimal text).isSome = true ↔
      (whole ≠ [] ∨ fraction ≠ []) ∧ IsExponent exponent := by
  unfold readDecimal
  rw [← readExponent_isSome_iff]
  simp only [spanned, spannedToo]
  by_cases empty : whole = [] <;> by_cases emptyToo : fraction = [] <;> simp [empty, emptyToo]

private theorem readDecimal_isSome_iff : (readDecimal text).isSome = true ↔ IsDecimal text := by
  constructor
  · intro reads
    rcases exists_digits text with ⟨whole, behind, spanned, rfl, digital⟩
    by_cases bare : ∀ rest, behind ≠ '.' :: rest
    · rcases (readDecimal_unpointed spanned bare).mp reads with ⟨some, scaled⟩
      exact .whole some digital scaled
    · simp only [not_forall, not_not] at bare
      rcases bare with ⟨pointed, rfl⟩
      rcases exists_digits pointed with ⟨fraction, exponent, spannedToo, rfl, digitalToo⟩
      rcases (readDecimal_pointed spanned spannedToo).mp reads with ⟨some, scaled⟩
      exact .pointed some digital digitalToo scaled
  · intro decimal
    cases decimal with
    | whole some digital scaled =>
        have spanned := spanDigits_append digital fun first member => (scaled.ended first member).1
        refine (readDecimal_unpointed spanned ?_).mpr ⟨some, scaled⟩
        rintro rest rfl
        exact (scaled.ended '.' rfl).2 rfl
    | @pointed whole fraction exponent some digital digitalToo scaled =>
        have point : ∀ first ∈ ('.' :: (fraction ++ exponent)).head?, first.isDigit = false := by
          rintro first ⟨⟩
          rfl
        have spannedToo := spanDigits_append digitalToo fun first member =>
          (scaled.ended first member).1
        exact (readDecimal_pointed (spanDigits_append digital point) spannedToo).mpr ⟨some, scaled⟩

/-! ## Literals -/

private theorem IsName.unsigned (named : IsName text) : Unsigned text := by
  intro first member
  rcases text with _ | ⟨head, tail⟩
  · cases member
  · cases member
    constructor
    · rintro rfl
      rcases named with named | named | named
      all_goals cases (List.cons.inj named).1
    · rintro rfl
      rcases named with named | named | named
      all_goals cases (List.cons.inj named).1

private theorem IsDecimal.unsigned (decimal : IsDecimal text) : Unsigned text := by
  have begun {digits : List Char} (rest : List Char) (some : digits ≠ [])
      (digital : AreDigits digits) : Unsigned (digits ++ rest) := by
    rcases digits with _ | ⟨head, tail⟩
    · exact absurd rfl some
    · exact digital.unsigned
  cases decimal with
  | whole some digital => exact begun _ some digital
  | @pointed whole fraction exponent some digital =>
      by_cases empty : whole = []
      · rw [empty]
        rintro first ⟨⟩
        decide
      · exact begun _ empty digital

private theorem isName_iff : IsName text ↔
    (String.ofList (text.map Char.toLower) = "inf" ∨
      String.ofList (text.map Char.toLower) = "infinity") ∨
    String.ofList (text.map Char.toLower) = "nan" := by
  have named (name : String) : String.ofList (text.map Char.toLower) = name ↔
      text.map Char.toLower = name.toList := by
    rw [← String.toList_inj, String.toList_ofList]
  rw [named, named, named, IsName, or_assoc]

private theorem readUnsigned_isSome_iff :
    (readUnsigned text).isSome = true ↔ IsName text ∨ IsDecimal text := by
  unfold readUnsigned
  dsimp only
  rw [isName_iff, ← readDecimal_isSome_iff]
  split
  · rename_i infinite
    exact iff_of_true rfl (.inl (.inl infinite))
  · rename_i finite
    split
    · rename_i missing
      exact iff_of_true rfl (.inl (.inr missing))
    · rename_i present
      exact ⟨.inr, fun either => either.resolve_left (not_or.mpr ⟨finite, present⟩)⟩

theorem read_isSome_iff : (read text).isSome = true ↔ IsLiteral text := by
  have reads : (read text).isSome = true ↔
      IsName (spanSign text).2 ∨ IsDecimal (spanSign text).2 := by
    rw [← readUnsigned_isSome_iff, read, Option.isSome_map]
  rw [reads]
  constructor
  · intro unsigned
    rcases exists_sign text with ⟨sign, signed, whole⟩
    rw [whole]
    exact unsigned.elim (.name signed) (.decimal signed)
  · intro literal
    cases literal with
    | name signed named =>
        rw [spanSign_append signed named.unsigned]
        exact .inl named
    | decimal signed decimal =>
        rw [spanSign_append signed decimal.unsigned]
        exact .inr decimal

end CurveFitting.Numeral
