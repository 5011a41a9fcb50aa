import CurveFitting.Proofs.Binary64.Signs

/-! # Finite binary64 numbers

Sums and products are finite only if their operands are. How far a number is from zero,
counted in units, bounds how far a sum is.
-/

namespace CurveFitting.Binary64

open Float.Model Float.Model.UnpackedFloat

variable {sign : Sign} {number left right : UnpackedFloat} {mantissa bound low high : Nat}
  {exponent scale : Int}

/-! ## Operands of finite results -/

private theorem isFinite_of_restored (finite : (restored number).isFinite = true) :
    number.isFinite = true := by
  cases number with
  | notANumber => cases finite
  | infinity sign =>
      rw [restored_infinity] at finite
      cases finite
  | zero => rfl
  | finite => rfl

theorem isFinite_of_add {left right : Float} (finite : Scalar.isFinite (left + right) = true) :
    Scalar.isFinite left = true ∧ Scalar.isFinite right = true := by
  have unrounded : (UnpackedFloat.add .binary64 left.toModel.unpack
    right.toModel.unpack).isFinite = true := isFinite_of_restored finite
  change left.toModel.unpack.isFinite = true ∧ right.toModel.unpack.isFinite = true
  generalize left.toModel.unpack = left, right.toModel.unpack = right at unrounded
  cases left with
  | notANumber => cases right <;> cases unrounded
  | infinity sign =>
      cases right with
      | infinity other => cases sign <;> cases other <;> cases unrounded
      | _ => cases unrounded
  | _ =>
      cases right with
      | notANumber => cases unrounded
      | infinity => cases unrounded
      | _ => exact ⟨rfl, rfl⟩

theorem isFinite_of_mul {left right : Float} (finite : Scalar.isFinite (left * right) = true) :
    Scalar.isFinite left = true ∧ Scalar.isFinite right = true := by
  have unrounded : (UnpackedFloat.mul .binary64 left.toModel.unpack
    right.toModel.unpack).isFinite = true := isFinite_of_restored finite
  change left.toModel.unpack.isFinite = true ∧ right.toModel.unpack.isFinite = true
  generalize left.toModel.unpack = left, right.toModel.unpack = right at unrounded
  cases left with
  | notANumber => cases right <;> cases unrounded
  | infinity => cases right <;> cases unrounded
  | _ =>
      cases right with
      | notANumber => cases unrounded
      | infinity => cases unrounded
      | _ => exact ⟨rfl, rfl⟩

theorem present_of_isFinite {value : Float} (finite : Scalar.isFinite value = true) :
    Scalar.isNaN value = false := by
  change value.toModel.unpack.isFinite = true at finite
  change value.toModel.unpack.isNaN = false
  generalize value.toModel.unpack = number at finite ⊢
  cases number with
  | notANumber => cases finite
  | _ => rfl

/-! ## Distances from zero -/

/-- A number that is there and at most so many units from zero. -/
def Within (bound : Nat) (number : UnpackedFloat) : Prop :=
  ∃ amount, level number = some amount ∧ amount.natAbs ≤ bound

/-- A number that is there and at least so many units above zero. -/
def AtLeast (bound : Nat) (number : UnpackedFloat) : Prop :=
  ∃ amount : Int, level number = some amount ∧ bound ≤ amount

theorem natAbs_apply (sign : Sign) (amount : Nat) : (sign.apply amount).natAbs = amount := by
  cases sign with
  | negative => exact Int.natAbs_neg _
  | positive => rfl

theorem present_of_level {amount : Int} (stands : level number = some amount) :
    number.isNaN = false := by
  cases number with
  | notANumber => cases stands
  | _ => rfl

theorem Within.isFinite (within : Within bound number) (small : bound < top) :
    number.isFinite = true := by
  rcases within with ⟨amount, stands, near⟩
  cases number with
  | notANumber => cases stands
  | infinity sign =>
      cases stands
      rw [natAbs_apply] at near
      omega
  | zero => rfl
  | finite => rfl

private theorem within_of_isFinite (stored : IsStored number) (finite : number.isFinite = true) :
    ∃ amount, level number = some amount ∧ amount.natAbs < top := by
  cases number with
  | notANumber => cases finite
  | infinity => cases finite
  | zero => exact ⟨0, rfl, top_pos⟩
  | finite sign mantissa exponent =>
      refine ⟨_, rfl, ?_⟩
      rw [natAbs_apply]
      exact stored.1.units_lt_top stored.2

theorem isFinite_of_between {low middle high : Float} (below : low ≤ middle)
    (above : middle ≤ high) (lowFinite : Scalar.isFinite low = true)
    (highFinite : Scalar.isFinite high = true) : Scalar.isFinite middle = true := by
  rcases le_iff.mp below with ⟨first, second, lowFirst, middleSecond, less⟩
  rcases le_iff.mp above with ⟨third, fourth, middleThird, highFourth, more⟩
  rcases within_of_isFinite (isStored low) lowFinite with ⟨_, lowLevel, near⟩
  rcases within_of_isFinite (isStored high) highFinite with ⟨_, highLevel, alsoNear⟩
  cases middleSecond.symm.trans middleThird
  cases lowFirst.symm.trans lowLevel
  cases highFourth.symm.trans highLevel
  have within : Within (top - 1) middle.toModel.unpack := ⟨second, middleSecond, by omega⟩
  exact within.isFinite (Nat.sub_one_lt (Nat.ne_of_gt top_pos))

private theorem level_neg (number : UnpackedFloat) :
    level number.neg = (level number).map (-·) := by
  have opposite (sign : Sign) (amount : Int) : (-sign).apply amount = -sign.apply amount := by
    cases sign with
    | negative => exact (Int.neg_neg amount).symm
    | positive => rfl
  cases number with
  | notANumber => rfl
  | infinity => exact congrArg some (opposite ..)
  | zero => rfl
  | finite => exact congrArg some (opposite ..)

theorem Within.neg (within : Within bound number) : Within bound number.neg := by
  rcases within with ⟨amount, stands, near⟩
  refine ⟨-amount, ?_, ?_⟩
  · rw [level_neg, stands]
    rfl
  · rwa [Int.natAbs_neg]

theorem IsStored.neg (stored : IsStored number) : IsStored number.neg := by
  cases number with
  | finite => exact stored
  | _ => trivial

theorem AtLeast.finite_or_infinite (atLeast : AtLeast bound number) :
    number.isFinite = true ∨ number = .infinity .positive := by
  rcases atLeast with ⟨amount, stands, above⟩
  cases number with
  | notANumber => cases stands
  | infinity sign =>
      cases stands
      cases sign with
      | negative =>
          have negative := negative_neg top_pos
          omega
      | positive => exact .inr rfl
  | zero => exact .inl rfl
  | finite => exact .inl rfl

theorem AtLeast.le_units {positive : 0 < mantissa}
    (atLeast : AtLeast bound (.finite sign mantissa exponent positive)) :
    bound ≤ units mantissa exponent := by
  rcases atLeast with ⟨_, stands, above⟩
  cases stands
  cases sign <;> simp only [Sign.apply] at above <;> omega

theorem AtLeast.sign_eq {positive : 0 < mantissa} (some : 0 < bound)
    (atLeast : AtLeast bound (.finite sign mantissa exponent positive)) : sign = .positive := by
  rcases atLeast with ⟨_, stands, above⟩
  cases stands
  cases sign with
  | negative =>
      simp only [Sign.apply] at above
      omega
  | positive => rfl

theorem AtLeast.not_zero (some : 0 < bound) : ¬AtLeast bound (.zero sign) := by
  intro atLeast
  rcases atLeast with ⟨_, stands, above⟩
  cases stands
  omega

theorem atLeast_infinity (small : bound ≤ top) :
    AtLeast bound (restored (.infinity .positive)) := by
  rw [restored_infinity]
  exact ⟨top, rfl, Int.ofNat_le.mpr small⟩

/-! ## Sums -/

private theorem normalize_cases (total : Int) (least : -1074 ≤ scale) :
    total = 0 ∧ UnpackedFloat.normalize .binary64 total scale .positive = .zero .positive ∨
      ∃ sign rounded place pos, 0 < total.natAbs ∧ total = sign.apply total.natAbs ∧
        UnpackedFloat.normalize .binary64 total scale .positive =
          .finite sign rounded place pos ∧
        Rounds (units total.natAbs scale) rounded place := by
  rcases Int.lt_trichotomy total 0 with falls | rfl | rises
  · rw [normalize_of_neg _ _ falls]
    have magnitude : (-total).toNat = total.natAbs := by omega
    rcases rounds_round .negative (by omega : 0 < (-total).toNat) least with
      ⟨rounded, place, pos, equal, rounds⟩
    rw [magnitude] at rounds
    refine .inr ⟨.negative, rounded, place, pos, by omega, ?_, equal, rounds⟩
    simp only [Sign.apply]
    omega
  · exact .inl ⟨rfl, rfl⟩
  · rw [normalize_of_pos _ _ rises]
    have magnitude : total.toNat = total.natAbs := by omega
    rcases rounds_round .positive (by omega : 0 < total.toNat) least with
      ⟨rounded, place, pos, equal, rounds⟩
    rw [magnitude] at rounds
    refine .inr ⟨.positive, rounded, place, pos, by omega, ?_, equal, rounds⟩
    simp only [Sign.apply]
    omega

private theorem add_cases {first second : Int} (stored : IsStored left)
    (alsoStored : IsStored right) (finite : left.isFinite = true)
    (alsoFinite : right.isFinite = true)
    (stands : level left = some first) (alsoStands : level right = some second) :
    level (restored (UnpackedFloat.add .binary64 left right)) = some (first + second) ∨
      ∃ total scale, -1074 ≤ scale ∧ UnpackedFloat.add .binary64 left right =
          UnpackedFloat.normalize .binary64 total scale .positive ∧
        total * (2 ^ (scale + 1074).toNat : Nat) = first + second := by
  cases left with
  | notANumber => cases finite
  | infinity => cases finite
  | zero sign =>
      cases stands
      rw [Int.zero_add, ← alsoStands]
      cases right with
      | notANumber => cases alsoFinite
      | infinity => cases alsoFinite
      | zero other => cases sign <;> cases other <;> exact .inl rfl
      | finite => exact .inl (congrArg level alsoStored.restored_eq)
  | finite sign mantissa exponent =>
      cases right with
      | notANumber => cases alsoFinite
      | infinity => cases alsoFinite
      | zero =>
          cases alsoStands
          rw [Int.add_zero, ← stands]
          exact .inl (congrArg level stored.restored_eq)
      | finite other second scale =>
          cases stands
          cases alsoStands
          have least : -1074 ≤ min exponent scale :=
            Int.le_min.mpr ⟨stored.1.least, alsoStored.1.least⟩
          exact .inr ⟨_, _, least, rfl,
            sum_eq sign other least (Int.min_le_left ..) (Int.min_le_right ..)⟩

section

variable (fits : Fits mantissa exponent)

include fits

/-- Rounding does not lead further from zero than a stored number. -/
theorem restored_normalize_within {total : Int} (least : -1074 ≤ scale)
    (near : (total * (2 ^ (scale + 1074).toNat : Nat)).natAbs ≤ units mantissa exponent) :
    Within (units mantissa exponent)
      (restored (UnpackedFloat.normalize .binary64 total scale .positive)) := by
  rcases normalize_cases total least with
    ⟨_, equal⟩ | ⟨sign, rounded, place, pos, _, _, equal, rounds⟩
  · rw [equal]
    exact ⟨0, rfl, Nat.zero_le _⟩
  · rw [Int.natAbs_mul, Int.natAbs_natCast] at near
    have below := rounds.units_le fits near
    rw [equal, Within, level_restored rounds.fits]
    refine ⟨_, rfl, ?_⟩
    rw [natAbs_apply]
    exact Nat.le_trans (Nat.min_le_left ..) below

private theorem restored_normalize_atLeast (small : exponent ≤ 971) {total : Int}
    (least : -1074 ≤ scale)
    (above : (units mantissa exponent : Int) ≤ total * (2 ^ (scale + 1074).toNat : Nat)) :
    AtLeast (units mantissa exponent)
      (restored (UnpackedFloat.normalize .binary64 total scale .positive)) := by
  have range := fits.units_lt_top small
  rcases normalize_cases total least with
    ⟨zero, equal⟩ | ⟨sign, rounded, place, pos, nonzero, signed, equal, rounds⟩
  · rw [zero, Int.zero_mul] at above
    rw [equal]
    exact ⟨0, rfl, above⟩
  · have magnitude : total * (2 ^ (scale + 1074).toNat : Nat) =
        sign.apply (units total.natAbs scale) := by
      rw [units, Int.natCast_mul, apply_mul, ← signed]
    have some := units_pos nonzero scale
    rw [magnitude] at above
    rw [equal, AtLeast, level_restored rounds.fits]
    refine ⟨_, rfl, ?_⟩
    cases sign with
    | negative =>
        simp only [Sign.apply] at above ⊢
        omega
    | positive =>
        simp only [Sign.apply] at above ⊢
        have lower := rounds.le_units fits (by omega)
        omega

theorem Within.add (first : Within low left) (second : Within high right) (stored : IsStored left)
    (alsoStored : IsStored right) (small : exponent ≤ 971)
    (together : low + high ≤ units mantissa exponent) :
    Within (units mantissa exponent) (restored (UnpackedFloat.add .binary64 left right)) := by
  have range := fits.units_lt_top small
  have finite := first.isFinite (by omega)
  have alsoFinite := second.isFinite (by omega)
  rcases first with ⟨lowAmount, lowLevel, near⟩
  rcases second with ⟨highAmount, highLevel, alsoNear⟩
  rcases add_cases stored alsoStored finite alsoFinite lowLevel highLevel with
    exact | ⟨total, scale, least, rounded, sum⟩
  · exact ⟨_, exact, by omega⟩
  · rw [rounded]
    apply restored_normalize_within fits least
    rw [sum]
    omega

/-- A sum of two numbers that are not negative reaches every stored number that they reach
together. -/
theorem AtLeast.add (first : AtLeast low left) (second : AtLeast high right)
    (stored : IsStored left) (alsoStored : IsStored right) (small : exponent ≤ 971)
    (together : units mantissa exponent ≤ low + high) :
    AtLeast (units mantissa exponent) (restored (UnpackedFloat.add .binary64 left right)) := by
  have infinite := atLeast_infinity (Nat.le_of_lt (fits.units_lt_top small))
  rcases first.finite_or_infinite with finite | rfl
  · rcases second.finite_or_infinite with alsoFinite | rfl
    · rcases first with ⟨lowAmount, lowLevel, above⟩
      rcases second with ⟨highAmount, highLevel, alsoAbove⟩
      rcases add_cases stored alsoStored finite alsoFinite lowLevel highLevel with
        exact | ⟨total, scale, least, rounded, sum⟩
      · exact ⟨_, exact, by omega⟩
      · rw [rounded]
        apply restored_normalize_atLeast fits small least
        rw [sum]
        omega
    · cases left with
      | notANumber => cases finite
      | infinity => cases finite
      | zero => exact infinite
      | finite => exact infinite
  · rcases second.finite_or_infinite with alsoFinite | rfl
    · cases right with
      | notANumber => cases alsoFinite
      | infinity => cases alsoFinite
      | zero => exact infinite
      | finite => exact infinite
    · exact infinite

end

theorem add_present {left right : Float} (present : Scalar.isNaN left = false)
    (finite : Scalar.isFinite right = true) : Scalar.isNaN (left + right) = false := by
  change (restored (UnpackedFloat.add .binary64 left.toModel.unpack
    right.toModel.unpack)).isNaN = false
  change left.toModel.unpack.isNaN = false at present
  change right.toModel.unpack.isFinite = true at finite
  have stored := isStored left
  have alsoStored := isStored right
  generalize left.toModel.unpack = left, right.toModel.unpack = right at *
  -- An infinite number stays infinite, and the sum of two finite ones may only become so.
  cases alsoFinite : left.isFinite with
  | false =>
      cases left with
      | notANumber => cases present
      | infinity sign =>
          have infinite : (restored (.infinity sign)).isNaN = false := by
            rw [restored_infinity]
            rfl
          cases right with
          | notANumber => cases finite
          | infinity => cases finite
          | zero => exact infinite
          | finite => exact infinite
      | zero => cases alsoFinite
      | finite => cases alsoFinite
  | true =>
      rcases within_of_isFinite stored alsoFinite with ⟨first, stands, _⟩
      rcases within_of_isFinite alsoStored finite with ⟨second, alsoStands, _⟩
      rcases add_cases stored alsoStored alsoFinite finite stands alsoStands with
        exact | ⟨total, scale, least, rounded, _⟩
      · exact present_of_level exact
      · rw [rounded]
        rcases normalize_cases total least with
          ⟨_, equal⟩ | ⟨sign, rounded, place, pos, _, _, equal, rounds⟩
        · rw [equal]
          rfl
        · rw [equal]
          exact present_of_level (level_restored rounds.fits)

theorem sub_eq_add_neg (left right : UnpackedFloat) :
    UnpackedFloat.sub .binary64 left right = UnpackedFloat.add .binary64 left right.neg := by
  cases left with
  | notANumber => cases right <;> rfl
  | infinity => cases right <;> rfl
  | zero => cases right <;> rfl
  | finite sign =>
      cases right with
      | finite other =>
          cases other with
          | negative =>
              exact congrArg (fun total => UnpackedFloat.normalize .binary64 total _ .positive)
                (Int.sub_neg ..)
          | positive => rfl
      | _ => rfl

end CurveFitting.Binary64
