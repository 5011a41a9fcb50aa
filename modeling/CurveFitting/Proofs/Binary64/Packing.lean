import CurveFitting.Proofs.Binary64.Rounding

/-! # Stored numbers

A binary64 number is stored as a sign, a field of eleven digits for its exponent and all
digits of its mantissa but the leading one. Storing keeps every number that fits, unless its
exponent is too large. Such a number becomes infinite.
-/

namespace CurveFitting.Binary64

open Float.Model Float.Model.UnpackedFloat

/-- The numbers that storing keeps. -/
def IsStored : UnpackedFloat → Prop
  | .finite _ mantissa exponent _ => Fits mantissa exponent ∧ exponent ≤ 971
  | _ => True

/-! ## The fields of a stored number -/

def decode (sign : Sign) (field digits : Nat) : UnpackedFloat :=
  if field = 2047 then
    if digits = 0 then .infinity sign else .notANumber
  else if field = 0 then
    if nothing : digits = 0 then .zero sign
    else .finite sign digits (-1074) (Nat.pos_of_ne_zero nothing)
  else .finite sign (2 ^ 52 + digits) (field - 1075) (Nat.add_pos_left (by decide) digits)

theorem finite_congr {sign : Sign} {mantissa other : Nat} {exponent scale : Int}
    {positive : 0 < mantissa} {alsoPositive : 0 < other} (sameMantissa : mantissa = other)
    (sameExponent : exponent = scale) :
    UnpackedFloat.finite sign mantissa exponent positive =
      .finite sign other scale alsoPositive := by
  subst sameMantissa sameExponent
  rfl

private theorem toNat_normal (digits : BitVec 52) :
    (1#1 ++ digits).toNat = 2 ^ 52 + digits.toNat := by
  rw [BitVec.toNat_append, ← Nat.shiftLeft_add_eq_or_of_lt digits.isLt]
  rfl

private theorem unpack_eq (bits : BitVec Format.binary64.numBits) :
    UnpackedFloat.unpack .binary64 bits =
      decode (Sign.ofBitVec (unpackSign bits)) (unpackExponent bits).toNat
        (unpackMantissa bits).toNat := by
  unfold UnpackedFloat.unpack decode
  dsimp only
  have ones : unpackExponent bits = -1#11 ↔ (unpackExponent bits).toNat = 2047 :=
    BitVec.toNat_inj.symm
  have zeros : unpackExponent bits = 0#11 ↔ (unpackExponent bits).toNat = 0 :=
    BitVec.toNat_inj.symm
  have nothing : unpackMantissa bits = 0#52 ↔ (unpackMantissa bits).toNat = 0 :=
    BitVec.toNat_inj.symm
  refine if_congr ones (if_congr nothing rfl rfl) ?_
  by_cases subnormal : unpackExponent bits = 0#11
  · rw [if_pos subnormal, if_pos (zeros.mp subnormal)]
    by_cases none : unpackMantissa bits = 0#52
    · rw [dif_pos none, dif_pos (nothing.mp none)]
    · rw [dif_neg none, dif_neg (mt nothing.mpr none)]
      exact finite_congr rfl (by rw [subnormal]; rfl)
  · rw [if_neg subnormal, if_neg (mt zeros.mpr subnormal)]
    exact finite_congr (toNat_normal _) rfl

theorem decode_cases (sign : Sign) (field digits : Nat) :
    field = 2047 ∧ (decode sign field digits = .infinity sign ∨
        decode sign field digits = .notANumber) ∨
      field ≠ 2047 ∧ (decode sign field digits = .zero sign ∨
        ∃ mantissa exponent positive,
          decode sign field digits = .finite sign mantissa exponent positive ∧
            (field < 2048 → digits < 2 ^ 52 → Fits mantissa exponent ∧ exponent ≤ 971)) := by
  unfold decode
  by_cases special : field = 2047
  · rw [if_pos special]
    refine .inl ⟨special, ?_⟩
    by_cases none : digits = 0
    · exact .inl (if_pos none)
    · exact .inr (if_neg none)
  · rw [if_neg special]
    refine .inr ⟨special, ?_⟩
    by_cases subnormal : field = 0
    · rw [if_pos subnormal]
      by_cases none : digits = 0
      · exact .inl (dif_pos none)
      · refine .inr ⟨digits, -1074, _, dif_neg none, fun _ short => ?_⟩
        exact ⟨⟨by omega, by decide, .inr rfl⟩, by decide⟩
    · rw [if_neg subnormal]
      refine .inr ⟨2 ^ 52 + digits, field - 1075, _, rfl, fun range short => ?_⟩
      exact ⟨⟨by omega, by omega, .inl (by omega)⟩, by omega⟩

private theorem stored_decode {sign : Sign} {field digits : Nat} (range : field < 2048)
    (short : digits < 2 ^ 52) : IsStored (decode sign field digits) := by
  rcases decode_cases sign field digits with
    ⟨_, equal | equal⟩ | ⟨_, equal | ⟨_, _, _, equal, stored⟩⟩
  · rw [equal]
    trivial
  · rw [equal]
    trivial
  · rw [equal]
    trivial
  · rw [equal]
    exact stored range short

theorem stored_unpack (bits : BitVec Format.binary64.numBits) :
    IsStored (UnpackedFloat.unpack .binary64 bits) := by
  rw [unpack_eq]
  exact stored_decode (unpackExponent bits).isLt (unpackMantissa bits).isLt

/-! ## Storing a number -/

/-- A number that has been stored and read again. -/
def restored (number : UnpackedFloat) : UnpackedFloat :=
  UnpackedFloat.unpack .binary64 (UnpackedFloat.pack .binary64 number)

section

variable (sign : Sign) (field : BitVec 11) (digits : BitVec 52)

private theorem getLsbD_packed (i : Nat) :
    (packComponents .binary64 sign field digits).getLsbD i =
      if i < 52 then digits.getLsbD i
      else if i - 52 < 11 then field.getLsbD (i - 52)
      else sign.toBitVec.getLsbD (i - 52 - 11) := by
  change (sign.toBitVec ++ field ++ digits).getLsbD i = _
  rw [BitVec.getLsbD_append, BitVec.getLsbD_append]

private theorem digits_packed :
    unpackMantissa (packComponents .binary64 sign field digits) = digits := by
  ext i within
  change i < 52 at within
  simp [unpackMantissa, getLsbD_packed, within]

private theorem field_packed :
    unpackExponent (packComponents .binary64 sign field digits) = field := by
  ext i within
  change i < 11 at within
  simp [unpackExponent, getLsbD_packed, within]

private theorem sign_packed :
    Sign.ofBitVec (unpackSign (packComponents .binary64 sign field digits)) = sign := by
  have bit : unpackSign (packComponents .binary64 sign field digits) = sign.toBitVec := by
    ext i within
    have first : i = 0 := by omega
    change (BitVec.cast _ (BitVec.extractLsb 63 63 _))[i] = _
    simp [getLsbD_packed, first]
  rw [bit]
  cases sign <;> rfl

theorem unpack_packed :
    UnpackedFloat.unpack .binary64 (packComponents .binary64 sign field digits) =
      decode sign field.toNat digits.toNat := by
  rw [unpack_eq, sign_packed, field_packed, digits_packed]

end

variable {sign : Sign} {mantissa : Nat} {exponent : Int} {positive : 0 < mantissa}

theorem pack_finite :
    UnpackedFloat.pack .binary64 (.finite sign mantissa exponent positive) =
      if 2048 ≤ (exponent + 1075).toNat + 1 then packedInfinity .binary64 sign
      else if mantissa.log2 = 52 then
        packComponents .binary64 sign (BitVec.ofNat 11 (exponent + 1075).toNat)
          (BitVec.ofNat 52 mantissa)
      else packComponents .binary64 sign 0#11 (BitVec.ofNat 52 mantissa) := by
  have biased : exponent + (1023 : Int) + (52 : Nat) = exponent + 1075 :=
    Int.add_assoc exponent 1023 52
  have normal : mantissa.log2 + 1 = 53 ↔ mantissa.log2 = 52 := Nat.add_right_cancel_iff
  rw [← biased]
  exact if_congr Iff.rfl rfl (if_congr normal rfl rfl)

theorem restored_infinity : restored (.infinity sign) = .infinity sign :=
  (unpack_packed sign (-1#11) 0#52).trans rfl

private theorem restored_zero : restored (.zero sign) = .zero sign :=
  (unpack_packed sign 0#11 0#52).trans rfl

theorem restored_large (large : 971 < exponent) :
    restored (.finite sign mantissa exponent positive) = .infinity sign := by
  rw [restored, pack_finite, if_pos (by omega)]
  exact restored_infinity

theorem restored_finite (fits : Fits mantissa exponent) (small : exponent ≤ 971) :
    restored (.finite sign mantissa exponent positive) =
      .finite sign mantissa exponent positive := by
  have nonzero := Nat.ne_of_gt positive
  have short := fits.short
  have least := fits.least
  rw [restored, pack_finite, if_neg (by omega)]
  rcases Nat.lt_or_ge mantissa (2 ^ 52) with subnormal | normal
  · have digits := (Nat.log2_lt nonzero).mpr subnormal
    have lowest : exponent = -1074 := fits.full.resolve_left (by omega)
    rw [if_neg (by omega), unpack_packed, BitVec.toNat_ofNat, BitVec.toNat_ofNat,
      Nat.mod_eq_of_lt subnormal, decode, if_neg (by decide), if_pos (by decide), dif_neg nonzero]
    exact finite_congr rfl lowest.symm
  · have digits : mantissa.log2 = 52 := (Nat.log2_eq_iff nonzero).mpr ⟨normal, short⟩
    have field : (exponent + 1075).toNat % 2 ^ 11 = (exponent + 1075).toNat :=
      Nat.mod_eq_of_lt (by omega)
    rw [if_pos digits, unpack_packed, BitVec.toNat_ofNat, BitVec.toNat_ofNat, field,
      decode, if_neg (by omega), if_neg (by omega)]
    exact finite_congr (by omega) (by omega)

theorem IsStored.restored_eq {number : UnpackedFloat} (stored : IsStored number) :
    restored number = number := by
  cases number with
  | notANumber => rfl
  | infinity sign => exact restored_infinity
  | zero sign => exact restored_zero
  | finite sign mantissa exponent positive => exact restored_finite stored.1 stored.2

end CurveFitting.Binary64
