import LiveGrid.Proofs.Number.Exact

/-!
Contract: exact multiples and whole parts of doubles.

Owns:
- rounding changes nothing of a mantissa that only has more digits than doubles have because zeros
  follow it;
- eight times a double of at most one is exact, subnormal doubles included;
- the whole part of a double that is not negative is the floor of its rational.

Does not own: rounding of results that are not exact.
-/

namespace LiveGrid.Number.Double

open Float.Model Float.Model.UnpackedFloat

variable {value : Float} {sign : Sign} {mantissa : Nat} {exponent : Int}

/-! ## Products with eight -/

theorem targetExponent_shifted (canonical : IsCanonical mantissa exponent)
    (positive : 0 < mantissa) (amount : Nat) :
    Format.binary64.targetExponent
      (totalExponent (mantissa * 2 ^ amount) (exponent - amount)) = exponent := by
  obtain ⟨short, least, most, full⟩ := canonical
  have target : Format.binary64.targetExponent
      (totalExponent (mantissa * 2 ^ amount) (exponent - amount)) =
        max (((mantissa * 2 ^ amount).log2 : Int) + 1 + (exponent - amount) - 53) (-1074) := rfl
  have digits : mantissa.log2 < 53 := (Nat.log2_lt (by omega)).2 short
  rw [target, log2_mul_two_pow (by omega)]
  rcases full with isLeast | long
  · omega
  · have log2 : mantissa.log2 = 52 := (Nat.log2_eq_iff (by omega)).2 ⟨long, short⟩
    omega

theorem shiftToTargetExponent_shifted (canonical : IsCanonical mantissa exponent)
    (positive : 0 < mantissa) (amount : Nat) :
    shiftToTargetExponent .binary64 (mantissa * 2 ^ amount) (exponent - amount) .exact =
      ((⟨mantissa * 2 ^ amount, false, false⟩ : ExtendedMantissa) >>> amount, exponent) := by
  have shift : (exponent - (exponent - (amount : Int))).toNat = amount := by omega
  have back : exponent - (amount : Int) + amount = exponent := by omega
  rw [shiftToTargetExponent, targetExponent_shifted canonical positive]
  simp only [shiftToExponent, shift, back]
  rfl

/-- The zeros that are shifted out of a mantissa leave no trace. -/
theorem roundedMantissa_shifted (mantissa amount : Nat) :
    ((⟨mantissa * 2 ^ amount, false, false⟩ : ExtendedMantissa) >>> amount).roundedMantissa =
      mantissa := by
  have kept : mantissa * 2 ^ amount / 2 ^ amount = mantissa :=
    Nat.mul_div_cancel _ (Nat.pow_pos (by decide))
  rw [roundedMantissa_of_roundBit_eq_false, mantissa_shiftRight, kept]
  cases amount with
  | zero => rfl
  | succ amount =>
      have lastDigit : mantissa * 2 ^ (amount + 1) / 2 ^ amount = mantissa * 2 := by
        rw [Nat.pow_succ', ← Nat.mul_assoc, Nat.mul_div_cancel _ (Nat.pow_pos (by decide))]
      rw [roundBit_shiftRight, lastDigit, Nat.mul_mod_left]
      rfl

/-- A mantissa that is written with more digits than doubles have, all of them zero, is rounded to
itself. -/
theorem roundWithAccuracy_shifted (canonical : IsCanonical mantissa exponent)
    (positive : 0 < mantissa) (amount : Nat) :
    roundWithAccuracy .binary64 sign (mantissa * 2 ^ amount) (exponent - amount) .exact =
      .finite sign mantissa exponent positive := by
  have second : shiftToTargetExponent .binary64 mantissa exponent .exact =
      (⟨mantissa, false, false⟩, exponent) := by
    have shifted := shiftToTargetExponent_shifted canonical positive 0
    simp only [Nat.pow_zero, Nat.mul_one, Int.natCast_zero, Int.sub_zero] at shifted
    exact shifted
  rw [roundWithAccuracy, shiftToTargetExponent_shifted canonical positive]
  simp only [roundedMantissa_shifted, second]
  rw [dif_neg (Nat.ne_of_gt positive)]

/-- Eight times a double, as long as that stays in range. -/
theorem exists_mul_eight (sign : Sign) (canonical : IsCanonical mantissa exponent)
    (positive : 0 < mantissa) (inRange : exponent ≤ 968) :
    ∃ scaled raised, ∃ scaledPositive : 0 < scaled,
      IsCanonical scaled raised ∧ (scaled : ℚ) * 2 ^ raised = mantissa * 2 ^ exponent * 8 ∧
      UnpackedFloat.mul .binary64 (.finite sign mantissa exponent positive)
        (.finite .positive (2 ^ 52) (-49) (by decide)) =
          .finite sign scaled raised scaledPositive := by
  obtain ⟨short, least, most, full⟩ := canonical
  have digits : mantissa.log2 < 53 := (Nat.log2_lt (by omega)).2 short
  -- as many of the three digits as there is room for
  obtain ⟨gained, isGained⟩ : ∃ gained, gained = min 3 (52 - mantissa.log2) := ⟨_, rfl⟩
  have gainedPositive : 0 < mantissa * 2 ^ gained := Nat.mul_pos positive (Nat.pow_pos (by decide))
  have log2 : (mantissa * 2 ^ gained).log2 = mantissa.log2 + gained :=
    log2_mul_two_pow (by omega) gained
  have canonicalScaled : IsCanonical (mantissa * 2 ^ gained) (exponent + 3 - gained) := by
    refine ⟨(Nat.log2_lt (by omega)).1 (by omega), ?_, by omega, ?_⟩
    · rcases full with isLeast | long
      · omega
      · omega
    · rcases full with isLeast | long
      · by_cases room : gained = 3
        · exact .inl (by omega)
        · refine .inr ((Nat.le_log2 (by omega)).1 (by omega))
      · refine .inr ((Nat.le_log2 (by omega)).1 ?_)
        have := (Nat.le_log2 (by omega)).2 long
        omega
  refine ⟨_, _, gainedPositive, canonicalScaled, ?_, ?_⟩
  · have power : (2 : ℚ) ^ gained * 2 ^ (exponent + 3 - gained) = 2 ^ exponent * 8 := by
      rw [← zpow_natCast, ← zpow_add₀ (by norm_num)]
      have sum : (gained : Int) + (exponent + 3 - gained) = exponent + (3 : Nat) := by omega
      rw [sum, zpow_add₀ (by norm_num), zpow_natCast]
      norm_num
    rw [Nat.cast_mul, Nat.cast_pow, Nat.cast_ofNat, mul_assoc, power, mul_assoc]
  · have product : UnpackedFloat.mul .binary64 (.finite sign mantissa exponent positive)
        (.finite .positive (2 ^ 52) (-49) (by decide)) =
          roundWithAccuracy .binary64 (sign * .positive) (mantissa * 2 ^ 52) (exponent + -49)
            .exact := rfl
    have sameSign : sign * Sign.positive = sign := by cases sign <;> rfl
    have sameMantissa : mantissa * 2 ^ 52 = mantissa * 2 ^ gained * 2 ^ (52 - gained) := by
      rw [Nat.mul_assoc, ← Nat.pow_add, Nat.add_sub_cancel' (by omega)]
    have sameExponent : exponent + -49 = exponent + 3 - gained - (52 - gained : Nat) := by omega
    rw [product, sameSign, sameMantissa, sameExponent]
    exact roundWithAccuracy_shifted canonicalScaled gainedPositive _

theorem unpack_mul_eight (value : Float) : (value * 8).toModel.unpack =
    (Float.Model.pack (UnpackedFloat.mul .binary64 value.toModel.unpack
      (.finite .positive (2 ^ 52) (-49) (by decide)))).unpack := rfl

/-- Eight times a double of at most one is exact. -/
theorem rational?_mul_eight {exact : ℚ} (isExact : rational? value = some exact)
    (small : |exact| ≤ 1) : rational? (value * 8) = some (exact * 8) := by
  rw [rational?_eq] at isExact
  rw [rational?_eq, unpack_mul_eight]
  have isDouble := isDouble_unpack value
  generalize value.toModel.unpack = number at isExact isDouble
  cases isDouble with
  | notANumber | infinity sign => cases isExact
  | zero sign =>
      cases isExact
      cases sign <;> exact congrArg some (zero_mul 8).symm
  | @finite mantissa exponent sign positive canonical =>
      have inRange : exponent ≤ 968 := by
        by_contra large
        have power : (2 : ℚ) ^ (1 : Int) ≤ 2 ^ exponent :=
          zpow_le_zpow_right₀ (by norm_num) (by omega)
        have one : (1 : ℚ) ≤ mantissa := by exact_mod_cast positive
        have two : (1 : ℚ) * 2 ^ (1 : Int) ≤ mantissa * 2 ^ exponent :=
          mul_le_mul one power (by norm_num) (Nat.cast_nonneg _)
        rw [size_of_unpackedRational? isExact] at small
        norm_num at two
        linarith
      obtain ⟨scaled, raised, scaledPositive, scaledCanonical, same, product⟩ :=
        exists_mul_eight sign canonical positive inRange
      rw [product, unpack_pack_finite scaledCanonical]
      cases sign with
      | positive =>
          cases isExact
          exact congrArg some same
      | negative =>
          cases isExact
          exact congrArg some ((congrArg Neg.neg same).trans (neg_mul _ _).symm)

/-! ## The whole part -/

theorem floor_size (mantissa : Nat) (exponent : Int) : ⌊(mantissa : ℚ) * 2 ^ exponent⌋ =
    ((if 0 ≤ exponent then mantissa <<< exponent.toNat
      else mantissa >>> (-exponent).toNat : Nat) : Int) := by
  by_cases whole : 0 ≤ exponent
  · obtain ⟨amount, rfl⟩ := Int.eq_ofNat_of_zero_le whole
    have size : (mantissa : ℚ) * 2 ^ (amount : Int) = ((mantissa * 2 ^ amount : Nat) : ℚ) := by
      push_cast
      rw [zpow_natCast]
    rw [if_pos whole, size, Int.floor_natCast, Nat.shiftLeft_eq, Int.toNat_natCast]
  · obtain ⟨amount, isAmount⟩ := Int.eq_ofNat_of_zero_le (by omega : 0 ≤ -exponent)
    have size :
        (mantissa : ℚ) * 2 ^ exponent = ((mantissa : Int) : ℚ) / ((2 ^ amount : Nat) : ℚ) := by
      rw [← neg_neg exponent, isAmount, zpow_neg, zpow_natCast]
      push_cast
      rfl
    rw [if_neg whole, size, Rat.floor_intCast_div_natCast, isAmount, Nat.shiftRight_eq_div_pow]
    rfl

/-- The whole part of a double that is not negative is the floor of its rational. -/
theorem toWhole_of_rational? {exact : ℚ} (isExact : rational? value = some exact)
    (notNegative : 0 ≤ exact) : toWhole value = ⌊exact⌋ := by
  rw [rational?] at isExact
  rw [toWhole]
  cases told : magnitude value with
  | notANumber | infinite =>
      rw [told] at isExact
      cases isExact
  | finite mantissa exponent =>
      rw [told] at isExact
      cases isExact
      have floor := floor_size mantissa exponent
      cases negative : isNegative value with
      | false => exact floor.symm
      | true =>
          rw [negative, if_pos rfl] at notNegative
          have size : (0 : ℚ) ≤ mantissa * 2 ^ exponent :=
            mul_nonneg (Nat.cast_nonneg _) (zpow_pos (by norm_num) _).le
          have isZero : (mantissa : ℚ) * 2 ^ exponent = 0 := by linarith
          rw [isZero, Int.floor_zero] at floor
          dsimp only
          rw [if_pos rfl, if_pos rfl, isZero, neg_zero, Int.floor_zero]
          exact Int.neg_eq_zero.2 floor.symm

end LiveGrid.Number.Double
