import LiveGrid.Number.Double

/-!
Contract: doubles of whole numbers that fit into a word are finite.

Owns:
- numbers that are not infinite and have no exponent above a bound;
- packing into bits, rounding and changing the sign keep such a bound, or raise it by little;
- no whole number of up to sixty-four binary digits becomes an infinite double.

Does not own: how far a double is from its whole number.
-/

namespace LiveGrid.Number.Double

open Float.Model Float.Model.UnpackedFloat

/-- Numbers that are not infinite, and whose exponent is not above a bound. -/
inductive ExponentAtMost (bound : Int) : UnpackedFloat → Prop where
  | notANumber : ExponentAtMost bound .notANumber
  | zero {sign : Sign} : ExponentAtMost bound (.zero sign)
  | finite {sign : Sign} {mantissa : Nat} {exponent : Int} {positive : 0 < mantissa}
      (atMost : exponent ≤ bound) : ExponentAtMost bound (.finite sign mantissa exponent positive)

variable {number : UnpackedFloat} {bound : Int}

theorem ExponentAtMost.isInf (atMost : ExponentAtMost bound number) : number.isInf = false := by
  cases atMost <;> rfl

theorem ExponentAtMost.neg (atMost : ExponentAtMost bound number) :
    ExponentAtMost bound number.neg := by
  cases atMost with
  | notANumber => exact .notANumber
  | zero => exact .zero
  | finite atMost => exact .finite atMost

/-! ## Bits -/

section Bits

variable {bits : BitVec Format.binary64.numBits}

/-- What is unpacked has the exponent that its bits tell, or the least one. -/
theorem exponentAtMost_unpack (notFull : unpackExponent bits ≠ -1#_) (least : -1074 ≤ bound)
    (told : ((unpackExponent bits).toNat : Int) - 1075 ≤ bound) :
    ExponentAtMost bound (UnpackedFloat.unpack .binary64 bits) := by
  unfold UnpackedFloat.unpack
  dsimp only
  rw [if_neg notFull]
  by_cases isZero : unpackExponent bits = 0#_
  · rw [if_pos isZero]
    by_cases isEmpty : unpackMantissa bits = 0#_
    · rw [dif_pos isEmpty]
      exact .zero
    · rw [dif_neg isEmpty, isZero]
      exact .finite least
  · rw [if_neg isZero]
    exact .finite told

/-- Finite doubles have exponents up to 971. -/
theorem exponentAtMost_of_isInf_eq_false
    (finite : (UnpackedFloat.unpack .binary64 bits).isInf = false) :
    ExponentAtMost 971 (UnpackedFloat.unpack .binary64 bits) := by
  by_cases full : unpackExponent bits = -1#_
  · unfold UnpackedFloat.unpack at finite ⊢
    dsimp only at finite ⊢
    rw [if_pos full] at finite ⊢
    by_cases isEmpty : unpackMantissa bits = 0#_
    · rw [if_pos isEmpty] at finite
      cases finite
    · rw [if_neg isEmpty]
      exact .notANumber
  · have notLargest : (unpackExponent bits).toNat ≠ 2047 :=
      fun same => full (BitVec.eq_of_toNat_eq same)
    have below : (unpackExponent bits).toNat < 2048 := (unpackExponent bits).isLt
    exact exponentAtMost_unpack full (by decide) (by omega)

/-- The mantissa of a double has at most fifty-three binary digits. -/
theorem mantissa_lt_of_unpack {sign : Sign} {mantissa : Nat} {exponent : Int}
    {positive : 0 < mantissa}
    (unpacked : UnpackedFloat.unpack .binary64 bits = .finite sign mantissa exponent positive) :
    mantissa < twoTo 53 := by
  unfold UnpackedFloat.unpack at unpacked
  dsimp only at unpacked
  by_cases full : unpackExponent bits = -1#_
  · rw [if_pos full] at unpacked
    by_cases isEmpty : unpackMantissa bits = 0#_
    · rw [if_pos isEmpty] at unpacked
      cases unpacked
    · rw [if_neg isEmpty] at unpacked
      cases unpacked
  · rw [if_neg full] at unpacked
    by_cases isZero : unpackExponent bits = 0#_
    · rw [if_pos isZero] at unpacked
      by_cases isEmpty : unpackMantissa bits = 0#_
      · rw [dif_pos isEmpty] at unpacked
        cases unpacked
      · rw [dif_neg isEmpty] at unpacked
        cases unpacked
        exact Nat.lt_trans (unpackMantissa bits).isLt (by decide)
    · rw [if_neg isZero] at unpacked
      cases unpacked
      exact BitVec.isLt _

end Bits

/-- Packing keeps a bound on the exponent, as long as it is one of doubles. -/
theorem ExponentAtMost.pack (atMost : ExponentAtMost bound number) (least : -1074 ≤ bound)
    (most : bound ≤ 971) : ExponentAtMost bound (Float.Model.pack number).unpack := by
  change ExponentAtMost bound (UnpackedFloat.unpack .binary64 (UnpackedFloat.pack .binary64 number))
  cases atMost with
  | notANumber => exact .notANumber
  | @zero sign => cases sign <;> exact .zero
  | @finite sign mantissa exponent positive atMost =>
      -- the exponent as the bits tell it
      obtain ⟨biased, isBiased⟩ : ∃ biased, biased = (exponent + (1023 : Nat) + (52 : Nat)).toNat :=
        ⟨_, rfl⟩
      have fits : ¬ 2048 ≤ biased + 1 := by omega
      have told : (BitVec.ofNat 11 biased).toNat = biased :=
        (BitVec.toNat_ofNat biased 11).trans (Nat.mod_eq_of_lt (by omega))
      have packed : UnpackedFloat.pack .binary64 (.finite sign mantissa exponent positive) =
          if mantissa.log2 + 1 = 53 then
            packComponents .binary64 sign (BitVec.ofNat 11 biased) (BitVec.ofNat 52 mantissa)
          else packComponents .binary64 sign 0#11 (BitVec.ofNat 52 mantissa) := by
        rw [isBiased] at fits ⊢
        exact if_neg fits
      rw [packed]
      split
      · refine exponentAtMost_unpack ?_ least ?_
        · rw [unpackExponent_packComponents]
          intro full
          have same : (BitVec.ofNat 11 biased).toNat = 2047 := congrArg BitVec.toNat full
          omega
        · rw [unpackExponent_packComponents, told]
          omega
      · refine exponentAtMost_unpack ?_ least ?_
        · rw [unpackExponent_packComponents]
          decide
        · rw [unpackExponent_packComponents]
          change ((0 : Nat) : Int) - 1075 ≤ bound
          omega

/-! ## Rounding -/

theorem mantissa_shiftRight_le (mantissa : ExtendedMantissa) (amount : Nat) :
    (mantissa >>> amount).mantissa ≤ mantissa.mantissa := by
  change (Nat.repeat ExtendedMantissa.shiftRightOne amount mantissa).mantissa ≤ _
  induction amount with
  | zero => exact Nat.le_refl _
  | succ amount inductionHypothesis =>
      rw [Nat.repeat]
      exact Nat.le_trans (Nat.div_le_self _ 2) inductionHypothesis

theorem roundedMantissa_le (mantissa : ExtendedMantissa) :
    mantissa.roundedMantissa ≤ mantissa.mantissa + 1 := by
  rcases mantissa with ⟨mantissa, round | round, sticky | sticky⟩ <;>
    simp [ExtendedMantissa.roundedMantissa, ExtendedMantissa.accuracy, Accuracy.roundToNearestEven]
  omega

/-- Shifting to the exponent that doubles want raises an exponent by at most the number of binary
digits of the mantissa. -/
theorem shiftToTargetExponent_le {mantissa digits : Nat} {exponent : Int}
    (short : mantissa < twoTo (digits + 1)) (atMost : exponent ≤ bound) (least : -1074 ≤ bound) :
    (shiftToTargetExponent .binary64 mantissa exponent .exact).1.mantissa ≤ mantissa ∧
      (shiftToTargetExponent .binary64 mantissa exponent .exact).2 ≤ bound + digits := by
  have log2 : mantissa.log2 ≤ digits := by
    by_cases isZero : mantissa = 0
    · simp [isZero]
    · exact Nat.le_of_lt_succ ((Nat.log2_lt isZero).2 short)
  constructor
  · exact mantissa_shiftRight_le _ _
  · have target : Format.binary64.targetExponent (totalExponent mantissa exponent) =
        max (mantissa.log2 + 1 + exponent - 53) (-1074) := rfl
    simp only [shiftToTargetExponent, shiftToExponent, target]
    omega

/-- Rounding shifts twice, so it raises an exponent by at most twice the number of binary digits of
the mantissa. -/
theorem exponentAtMost_roundWithAccuracy {sign : Sign} {mantissa : Nat} {exponent raised : Int}
    (digits : Nat) (short : mantissa < twoTo digits) (atMost : exponent ≤ bound)
    (least : -1074 ≤ bound) (enough : bound + digits + digits ≤ raised) :
    ExponentAtMost raised (roundWithAccuracy .binary64 sign mantissa exponent .exact) := by
  have doubled : twoTo (digits + 1) = 2 * twoTo digits := Nat.pow_succ'
  have shortFirst : mantissa < twoTo (digits + 1) := by omega
  obtain ⟨mantissaLe, exponentLe⟩ := shiftToTargetExponent_le shortFirst atMost least
  rw [roundWithAccuracy]
  generalize shiftToTargetExponent .binary64 mantissa exponent .exact = first at *
  have rounded := roundedMantissa_le first.1
  have shortSecond : first.1.roundedMantissa < twoTo (digits + 1) := by omega
  obtain ⟨-, finalLe⟩ := shiftToTargetExponent_le shortSecond exponentLe (by omega)
  dsimp only
  generalize shiftToTargetExponent .binary64 first.1.roundedMantissa first.2 .exact = final at *
  by_cases vanishes : final.1.mantissa = 0
  · rw [dif_pos vanishes]
    exact .zero
  · rw [dif_neg vanishes]
    exact .finite (Int.le_trans finalLe enough)

theorem exponentAtMost_mul {left right : Sign} {first second : Nat} {firstExponent : Int}
    {secondExponent raised : Int} {firstPositive : 0 < first} {secondPositive : 0 < second}
    (digits : Nat) (short : first * second < twoTo digits)
    (atMost : firstExponent + secondExponent ≤ bound) (least : -1074 ≤ bound)
    (enough : bound + digits + digits ≤ raised) :
    ExponentAtMost raised (UnpackedFloat.mul .binary64
      (.finite left first firstExponent firstPositive)
      (.finite right second secondExponent secondPositive)) := by
  have product : UnpackedFloat.mul .binary64 (.finite left first firstExponent firstPositive)
      (.finite right second secondExponent secondPositive) =
        roundWithAccuracy .binary64 (left * right) (first * second)
          (firstExponent + secondExponent) .exact := rfl
  rw [product]
  exact exponentAtMost_roundWithAccuracy digits short atMost least enough

/-! ## Whole numbers -/

variable {value : Nat}

theorem exponentAtMost_ofUInt64 {word : UInt64} :
    ExponentAtMost 256 (UnpackedFloat.ofUInt64 .binary64 word) := by
  have fits : word.toNat < 2 ^ 64 := word.toNat_lt
  rw [UnpackedFloat.ofUInt64, UnpackedFloat.ofNat, UnpackedFloat.ofInt, UnpackedFloat.normalize]
  split
  · rename_i negative
    exact absurd (Int.compare_eq_lt.1 negative) (by omega)
  · exact .zero
  · rw [Int.toNat_natCast, UnpackedFloat.round]
    have target : Format.binary64.targetExponent (totalExponent word.toNat 0) =
        max ((word.toNat.log2 : Int) + 1 + 0 - 53) (-1074) := rfl
    rw [target, decreaseExponent]
    dsimp only
    have few : (0 - max ((word.toNat.log2 : Int) + 1 + 0 - 53) (-1074)).toNat ≤ 64 := by omega
    generalize (0 - max ((word.toNat.log2 : Int) + 1 + 0 - 53) (-1074)).toNat = amount at few ⊢
    have short : word.toNat <<< amount < 2 ^ 128 := by
      rw [Nat.shiftLeft_eq]
      calc word.toNat * 2 ^ amount
          ≤ word.toNat * 2 ^ 64 := Nat.mul_le_mul_left _ (Nat.pow_le_pow_right (by decide) few)
        _ < 2 ^ 128 := by omega
    have atMost : (0 : Int) - amount ≤ 0 := by omega
    exact exponentAtMost_roundWithAccuracy 128 short atMost (by decide) (by decide)

theorem exponentAtMost_ofScientific (fits : value < twoTo 64) :
    ExponentAtMost 256 (UnpackedFloat.ofScientific .binary64 value 0) := by
  have short : value <<< Format.binary64.mantissaBits * 10 ^ (0 : Int).toNat < 2 ^ 117 := by
    have digits : Format.binary64.mantissaBits = 53 := rfl
    have fewDigits : value < 2 ^ 64 := fits
    rw [digits, Nat.shiftLeft_eq, Int.toNat_zero]
    omega
  rw [UnpackedFloat.ofScientific]
  by_cases isZero : value = 0
  · rw [dif_pos isZero]
    exact .zero
  · have notTiny : ¬ (0 : Int) < -(2 ^ Format.binary64.exponentBits + (value.log2 : Int)) := by
      change ¬ (0 : Int) < -(2048 + (value.log2 : Int))
      omega
    rw [dif_neg isZero, if_neg (by decide), if_neg notTiny, if_pos (Int.le_refl 0)]
    have atMost : -(Format.binary64.mantissaBits : Int) + 0 ≤ 0 := by decide
    exact exponentAtMost_mul 117 short atMost (by decide) (by decide)

/-- A product with one, as it is made of the digits of a short whole number. -/
theorem isInf_mul_one {factor : Float} (atMost : ExponentAtMost 256 factor.toModel.unpack) :
    (factor * Float.ofBits 0x3ff0000000000000).isInf = false := by
  have one : (Float.ofBits 0x3ff0000000000000).toModel.unpack =
      .finite .positive (2 ^ 52) (-52) (by decide) := rfl
  have product : ExponentAtMost 512 (UnpackedFloat.mul .binary64 factor.toModel.unpack
      (Float.ofBits 0x3ff0000000000000).toModel.unpack) := by
    rw [one]
    cases unpacked : factor.toModel.unpack with
    | infinity sign =>
        rw [unpacked] at atMost
        cases atMost
    | notANumber => exact .notANumber
    | zero sign => exact .zero
    | finite sign mantissa exponent positive =>
        rw [unpacked] at atMost
        cases atMost with
        | finite atMost =>
            have short : mantissa < 2 ^ 53 := mantissa_lt_of_unpack unpacked
            have shortProduct : mantissa * 2 ^ 52 < 2 ^ 105 := by omega
            have sumLe : exponent + -52 ≤ 204 := by omega
            exact exponentAtMost_mul 105 shortProduct sumLe (by decide) (by decide)
  exact (product.pack (by decide) (by decide)).isInf

/-- The double of a natural number of up to sixty-four binary digits is finite. -/
theorem isInf_ofNat (fits : value < twoTo 64) : (Float.ofNat value).isInf = false := by
  change (Float.ofScientific value false 0).isInf = false
  rw [Float.ofScientific]
  split
  · exact isInf_mul_one (exponentAtMost_ofUInt64.pack (by decide) (by decide))
  · exact ((exponentAtMost_ofScientific fits).pack (by decide) (by decide)).isInf

theorem isInf_neg {finite : Float} (isFinite : finite.isInf = false) :
    (-finite).isInf = false :=
  ((exponentAtMost_of_isInf_eq_false isFinite).neg.pack (by decide) (by decide)).isInf

/-- The double of a whole number of up to sixty-four binary digits is finite. -/
theorem isInf_ofWhole {whole : Int} (fits : whole.natAbs < twoTo 64) :
    (ofWhole whole).isInf = false := by
  cases whole with
  | ofNat number => exact isInf_ofNat fits
  | negSucc number => exact isInf_neg (isInf_ofNat fits)

end LiveGrid.Number.Double
