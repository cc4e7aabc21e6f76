import LiveGrid.Proofs.Number.Finite
import Mathlib.Algebra.Group.Nat.Defs

/-!
Contract: which whole numbers are too large for a double.

Owns:
- shifting a mantissa, with the last bit that is shifted out;
- rounding a whole number with more binary digits than a mantissa has;
- the double of a whole number is infinite exactly from `2 ^ 1024 - 2 ^ 970` on, half a step above
  the largest finite double.

The largest double is `2 ^ 1024 - 2 ^ 971`, with an odd mantissa. The half step above it goes to the
even neighbour, which is beyond the range, so the bound itself overflows.

Does not own: how far a finite double is from its whole number.
-/

namespace LiveGrid.Number.Double

open Float.Model Float.Model.UnpackedFloat

/-! ## Shifting and rounding a mantissa -/

theorem shiftRight_succ (extended : ExtendedMantissa) (amount : Nat) :
    extended >>> (amount + 1) = (extended >>> amount).shiftRightOne := rfl

theorem mantissa_shiftRight (extended : ExtendedMantissa) (amount : Nat) :
    (extended >>> amount).mantissa = extended.mantissa / 2 ^ amount := by
  induction amount with
  | zero => exact (Nat.div_one _).symm
  | succ amount inductionHypothesis =>
      rw [shiftRight_succ, Nat.pow_succ, ← Nat.div_div_eq_div_mul, ← inductionHypothesis]
      rfl

/-- The round bit is the last one that is shifted out. -/
theorem roundBit_shiftRight (extended : ExtendedMantissa) (amount : Nat) :
    (extended >>> (amount + 1)).roundBit = (extended.mantissa / 2 ^ amount % 2 != 0) := by
  rw [shiftRight_succ, ← mantissa_shiftRight]
  rfl

theorem le_roundedMantissa (extended : ExtendedMantissa) :
    extended.mantissa ≤ extended.roundedMantissa := by
  rcases extended with ⟨mantissa, round | round, sticky | sticky⟩ <;>
    simp [ExtendedMantissa.roundedMantissa, ExtendedMantissa.accuracy, Accuracy.roundToNearestEven]

/-- Below one half a mantissa stays as it is. -/
theorem roundedMantissa_of_roundBit_eq_false {extended : ExtendedMantissa}
    (below : extended.roundBit = false) : extended.roundedMantissa = extended.mantissa := by
  rcases extended with ⟨mantissa, round | round, sticky | sticky⟩
  · rfl
  · rfl
  · cases below
  · cases below

/-- From one half on an odd mantissa goes up. -/
theorem roundedMantissa_of_roundBit {extended : ExtendedMantissa}
    (reached : extended.roundBit = true) (isOdd : extended.mantissa % 2 = 1) :
    extended.roundedMantissa = extended.mantissa + 1 := by
  rcases extended with ⟨mantissa, round | round, sticky | sticky⟩
  · cases reached
  · cases reached
  · show mantissa + mantissa % 2 = mantissa + 1
    rw [show mantissa % 2 = 1 from isOdd]
  · rfl

/-- Shifting to the exponent that doubles want, from an exponent of doubles. -/
theorem shiftToTargetExponent_eq {mantissa : Nat} {exponent : Int} (least : -1074 ≤ exponent) :
    shiftToTargetExponent .binary64 mantissa exponent .exact =
      ((⟨mantissa, false, false⟩ : ExtendedMantissa) >>> (mantissa.log2 - 52),
        exponent + (mantissa.log2 - 52 : Nat)) := by
  have target : Format.binary64.targetExponent (totalExponent mantissa exponent) =
      max (mantissa.log2 + 1 + exponent - 53) (-1074) := rfl
  have amount : (max ((mantissa.log2 : Int) + 1 + exponent - 53) (-1074) - exponent).toNat =
      mantissa.log2 - 52 := by omega
  simp only [shiftToTargetExponent, shiftToExponent, target, amount]
  rfl

/-! ## Rounding long whole numbers -/

section Long

variable {value : Nat}

theorem log2_mul_two_pow (positive : value ≠ 0) (amount : Nat) :
    (value * 2 ^ amount).log2 = value.log2 + amount := by
  have power : 0 < 2 ^ amount := Nat.pow_pos (by decide)
  rw [Nat.log2_eq_iff (Nat.mul_ne_zero positive (Nat.ne_of_gt power))]
  constructor
  · rw [Nat.pow_add]
    exact Nat.mul_le_mul_right _ (Nat.log2_self_le positive)
  · rw [Nat.add_right_comm, Nat.pow_add]
    exact Nat.mul_lt_mul_of_pos_right Nat.lt_log2_self power

/-- A whole number with more than fifty-three binary digits, with the digits of a mantissa and the
next one. -/
theorem shiftToTargetExponent_long (long : 53 ≤ value.log2) :
    let first := shiftToTargetExponent .binary64 (value * 2 ^ 53) (-53) .exact
    first.2 = value.log2 - 52 ∧ first.1.mantissa = value / 2 ^ (value.log2 - 52) ∧
      first.1.roundBit = (value / 2 ^ (value.log2 - 53) % 2 != 0) := by
  intro first
  have positive : value ≠ 0 := by
    rintro rfl
    simp at long
  have shifted : first = ((⟨value * 2 ^ 53, false, false⟩ : ExtendedMantissa) >>>
      (value.log2 + 53 - 52), (-53 : Int) + (value.log2 + 53 - 52 : Nat)) := by
    rw [← log2_mul_two_pow positive 53]
    exact shiftToTargetExponent_eq (by decide : (-1074 : Int) ≤ -53)
  have cut (amount : Nat) : value * 2 ^ 53 / 2 ^ (amount + 53) = value / 2 ^ amount := by
    rw [Nat.pow_add, Nat.mul_div_mul_right _ _ (by decide)]
  rw [shifted]
  refine ⟨by omega, ?_, ?_⟩
  · have amount : value.log2 + 53 - 52 = value.log2 - 52 + 53 := by omega
    rw [mantissa_shiftRight, amount]
    exact cut (value.log2 - 52)
  · have amount : value.log2 + 53 - 52 = value.log2 - 53 + 53 + 1 := by omega
    rw [amount, roundBit_shiftRight, cut]

/-- The leading fifty-three binary digits. -/
theorem leading_digits (long : 53 ≤ value.log2) :
    2 ^ 52 ≤ value / 2 ^ (value.log2 - 52) ∧ value / 2 ^ (value.log2 - 52) < 2 ^ 53 := by
  have positive : value ≠ 0 := by
    rintro rfl
    simp at long
  have power : 0 < 2 ^ (value.log2 - 52) := Nat.pow_pos (by decide)
  constructor
  · rw [Nat.le_div_iff_mul_le power, ← Nat.pow_add, Nat.add_sub_cancel' (by omega)]
    exact Nat.log2_self_le positive
  · rw [Nat.div_lt_iff_lt_mul power, ← Nat.pow_add]
    have digits : 53 + (value.log2 - 52) = value.log2 + 1 := by omega
    rw [digits]
    exact Nat.lt_log2_self

/-- What rounding a long whole number comes to: its leading digits, or one more, and an exponent that
is raised if there is a digit more. -/
theorem exists_roundWithAccuracy_eq (long : 53 ≤ value.log2) :
    ∃ rounded mantissa positive,
      roundWithAccuracy .binary64 .positive (value * 2 ^ 53) (-53) .exact =
        .finite .positive mantissa (value.log2 - 52 + (rounded.log2 - 52 : Nat)) positive ∧
      rounded ≤ value / 2 ^ (value.log2 - 52) + 1 ∧
      (value / 2 ^ (value.log2 - 53) % 2 = 0 → rounded = value / 2 ^ (value.log2 - 52)) ∧
      (value / 2 ^ (value.log2 - 53) % 2 = 1 → value / 2 ^ (value.log2 - 52) % 2 = 1 →
        rounded = value / 2 ^ (value.log2 - 52) + 1) := by
  obtain ⟨exponent, leading, next⟩ := shiftToTargetExponent_long long
  obtain ⟨atLeast, atMost⟩ := leading_digits long
  rw [roundWithAccuracy]
  generalize shiftToTargetExponent .binary64 (value * 2 ^ 53) (-53) .exact = first at *
  obtain ⟨extended, firstExponent⟩ := first
  dsimp only at exponent leading next ⊢
  have grows := le_roundedMantissa extended
  have growsLittle := roundedMantissa_le extended
  have notZero : extended.roundedMantissa ≠ 0 := by omega
  rw [shiftToTargetExponent_eq (by omega), exponent]
  have remains : ((⟨extended.roundedMantissa, false, false⟩ : ExtendedMantissa) >>>
      (extended.roundedMantissa.log2 - 52)).mantissa ≠ 0 := by
    rw [mantissa_shiftRight]
    have power : 2 ^ (extended.roundedMantissa.log2 - 52) ≤ extended.roundedMantissa :=
      Nat.le_trans (Nat.pow_le_pow_right (by decide) (Nat.sub_le _ _)) (Nat.log2_self_le notZero)
    exact Nat.ne_of_gt (Nat.div_pos power (Nat.pow_pos (by decide)))
  rw [dif_neg remains]
  refine ⟨extended.roundedMantissa, _, _, rfl, by omega, fun isZero => ?_, fun isOne isOdd => ?_⟩
  · rw [roundedMantissa_of_roundBit_eq_false (by rw [next, isZero]; rfl), leading]
  · rw [roundedMantissa_of_roundBit (by rw [next, isOne]; rfl) (by rw [leading, isOdd]), leading]

end Long

/-! ## The bound -/

/-- From this bound on a whole number is rounded to a power of two beyond the range of doubles. -/
def overflowBound : Nat := twoTo 1024 - twoTo 970

theorem isInf_of_exponent {sign : Sign} {mantissa : Nat} {exponent : Int}
    {positive : 0 < mantissa} (large : 972 ≤ exponent) :
    (Float.Model.pack (.finite sign mantissa exponent positive)).unpack.isInf = true := by
  have full : 2048 ≤ (exponent + (1023 : Nat) + (52 : Nat)).toNat + 1 := by omega
  have packed : UnpackedFloat.pack .binary64 (.finite sign mantissa exponent positive) =
      packedInfinity .binary64 sign := if_pos full
  change (UnpackedFloat.unpack .binary64
    (UnpackedFloat.pack .binary64 (.finite sign mantissa exponent positive))).isInf = true
  rw [packed]
  cases sign <;> rfl

theorem isInf_neg_eq (value : Float) : (-value).isInf = value.isInf := by
  cases infinite : value.isInf with
  | false => exact isInf_neg infinite
  | true =>
      have unpacked : ∃ sign, value.toModel.unpack = .infinity sign := by
        change value.toModel.unpack.isInf = true at infinite
        cases same : value.toModel.unpack with
        | infinity sign => exact ⟨sign, rfl⟩
        | _ =>
            rw [same] at infinite
            cases infinite
      obtain ⟨sign, unpacked⟩ := unpacked
      change (Float.Model.pack value.toModel.unpack.neg).unpack.isInf = true
      rw [unpacked]
      cases sign <;> rfl

theorem overflowBound_eq : overflowBound = (2 ^ 54 - 1) * twoTo (1023 - 53) := by decide +kernel

theorem log2_lt_iff {value : Nat} (positive : value ≠ 0) (digits : Nat) :
    value.log2 < digits ↔ value < twoTo digits := Nat.log2_lt positive

/-- A long whole number is infinite as a double if rounding it raises the exponent too far. -/
theorem isInf_ofNat_iff_exponent {value : Nat} (long : 53 ≤ value.log2) :
    ∃ rounded, ((Float.ofNat value).isInf = true ↔
        (972 : Int) ≤ value.log2 - 52 + (rounded.log2 - 52 : Nat)) ∧
      rounded ≤ value / 2 ^ (value.log2 - 52) + 1 ∧
      (value / 2 ^ (value.log2 - 53) % 2 = 0 → rounded = value / 2 ^ (value.log2 - 52)) ∧
      (value / 2 ^ (value.log2 - 53) % 2 = 1 → value / 2 ^ (value.log2 - 52) % 2 = 1 →
        rounded = value / 2 ^ (value.log2 - 52) + 1) := by
  have positive : value ≠ 0 := by
    rintro rfl
    simp at long
  have large : ¬ (value < 2 ^ 53 ∧ 0 ≤ 22) := by
    rintro ⟨small, -⟩
    exact absurd ((Nat.log2_lt positive).2 small) (by omega)
  have modelled : (Float.ofNat value).isInf =
      (Float.Model.pack (UnpackedFloat.ofScientific .binary64 value 0)).unpack.isInf := by
    change (Float.ofScientific value false 0).isInf = _
    rw [Float.ofScientific, dif_neg large]
    rfl
  have notTiny : ¬ (0 : Int) < -(2 ^ Format.binary64.exponentBits + (value.log2 : Int)) := by
    change ¬ (0 : Int) < -(2048 + (value.log2 : Int))
    omega
  have scientific : UnpackedFloat.ofScientific .binary64 value 0 =
      roundWithAccuracy .binary64 .positive (value * 2 ^ 53) (-53) .exact := by
    rw [UnpackedFloat.ofScientific, dif_neg positive, if_neg (by decide), if_neg notTiny,
      if_pos (Int.le_refl 0)]
    change roundWithAccuracy .binary64 .positive (value <<< 53 * 1) (-53) .exact = _
    rw [Nat.shiftLeft_eq, Nat.mul_one]
  obtain ⟨rounded, mantissa, isPositive, isRounded, rest⟩ := exists_roundWithAccuracy_eq long
  refine ⟨rounded, ?_, rest⟩
  rw [modelled, scientific, isRounded]
  constructor
  · intro infinite
    refine Int.not_lt.1 fun small => ?_
    have atMost : ExponentAtMost 971 (.finite .positive mantissa
        (value.log2 - 52 + (rounded.log2 - 52 : Nat)) isPositive) := .finite (by omega)
    rw [(atMost.pack (by decide) (by decide)).isInf] at infinite
    cases infinite
  · exact isInf_of_exponent

/-- In a binary order only the last half step is rounded up to its end. -/
theorem log2_rounded_iff {value rounded : Nat} (long : 53 ≤ value.log2)
    (growsLittle : rounded ≤ value / 2 ^ (value.log2 - 52) + 1)
    (below : value / 2 ^ (value.log2 - 53) % 2 = 0 → rounded = value / 2 ^ (value.log2 - 52))
    (reached : value / 2 ^ (value.log2 - 53) % 2 = 1 → value / 2 ^ (value.log2 - 52) % 2 = 1 →
      rounded = value / 2 ^ (value.log2 - 52) + 1) :
    53 ≤ rounded.log2 ↔ (2 ^ 54 - 1) * twoTo (value.log2 - 53) ≤ value := by
  have power : 0 < 2 ^ (value.log2 - 53) := Nat.pow_pos (by decide)
  have halved : value / 2 ^ (value.log2 - 52) = value / 2 ^ (value.log2 - 53) / 2 := by
    have next : value.log2 - 52 = value.log2 - 53 + 1 := by omega
    rw [next, Nat.div_div_eq_div_mul, Nat.pow_succ]
  have short : value / 2 ^ (value.log2 - 53) < 2 ^ 54 := by
    have digits : 54 + (value.log2 - 53) = value.log2 + 1 := by omega
    rw [Nat.div_lt_iff_lt_mul power, ← Nat.pow_add, digits]
    exact Nat.lt_log2_self
  have isLong : 53 ≤ rounded.log2 ↔ 2 ^ 53 ≤ rounded := by
    by_cases isZero : rounded = 0
    · simp [isZero]
    · exact Nat.le_log2 isZero
  have isLast : (2 ^ 54 - 1) * twoTo (value.log2 - 53) ≤ value ↔
      2 ^ 54 - 1 ≤ value / 2 ^ (value.log2 - 53) := (Nat.le_div_iff_mul_le power).symm
  rw [isLong, isLast]
  rw [halved] at growsLittle below reached
  generalize value / 2 ^ (value.log2 - 53) = digits at *
  omega

/-- A natural number is too large for a double exactly from the bound on. -/
theorem isInf_ofNat_iff {value : Nat} :
    (Float.ofNat value).isInf = true ↔ overflowBound ≤ value := by
  rcases Nat.lt_or_ge value (2 ^ 64) with small | large
  · have finite : (Float.ofNat value).isInf = false := isInf_ofNat small
    have bounded : 2 ^ 64 ≤ overflowBound := by decide +kernel
    rw [finite]
    simp only [Bool.false_eq_true, false_iff]
    omega
  · have positive : value ≠ 0 := by omega
    have long : 64 ≤ value.log2 := (Nat.le_log2 positive).2 large
    obtain ⟨rounded, isInfinite, growsLittle, below, reached⟩ :=
      isInf_ofNat_iff_exponent (Nat.le_trans (by decide) long)
    rw [isInfinite]
    rcases Nat.lt_trichotomy value.log2 1023 with smaller | last | larger
    · have atMost : rounded ≤ 2 ^ 53 := by
        have digits := (leading_digits (Nat.le_trans (by decide) long)).2
        omega
      have few : rounded.log2 < 54 := by
        by_cases isZero : rounded = 0
        · simp [isZero]
        · exact (Nat.log2_lt isZero).2 (by omega)
      have bounded : value < overflowBound :=
        calc value < twoTo 1023 := (log2_lt_iff positive 1023).1 smaller
          _ ≤ overflowBound := by decide +kernel
      omega
    · have isBound : 53 ≤ rounded.log2 ↔ overflowBound ≤ value := by
        rw [overflowBound_eq, ← last]
        exact log2_rounded_iff (by omega) growsLittle below reached
      omega
    · have bounded : overflowBound ≤ value :=
        calc overflowBound ≤ twoTo 1024 := Nat.sub_le _ _
          _ ≤ value := Nat.not_lt.1 fun small =>
              absurd ((log2_lt_iff positive 1024).2 small) (by omega)
      omega

/-- A whole number is too large for a double exactly if its size reaches the bound. -/
theorem isInf_ofWhole_iff {whole : Int} :
    (ofWhole whole).isInf = true ↔ overflowBound ≤ whole.natAbs := by
  cases whole with
  | ofNat number => exact isInf_ofNat_iff
  | negSucc number =>
      rw [ofWhole, isInf_neg_eq]
      exact isInf_ofNat_iff

end LiveGrid.Number.Double
