import LiveGrid.Grid.Shade
import LiveGrid.Proofs.Number.Scaling

/-!
Contract: levels and color classes follow the exact values.

Owns:
- the level of a double is the floor of eight times the magnitude of its rational, at most seven;
- the level by scaling: gaps filled, magnitudes above one cut to one, then eight times that without
  its fraction; it is the level by thresholds;
- the color class of a double is the sign of its rational;
- a canvas is blank exactly if every cell has the class of zero.

The thresholds are eighths, and eight times a double of at most one is exact, so neither way of
finding a level rounds.

Does not own: the glyphs of the levels and the colors of the classes.
-/

namespace LiveGrid.Grid

open Number Number.Double Float.Model Float.Model.UnpackedFloat

variable {value other : Float} {exact otherExact : ℚ}

/-! ## Levels of rationals -/

/-- The thresholds of the levels. -/
def thresholds : List Float := [0.125, 0.25, 0.375, 0.5, 0.625, 0.75, 0.875]

theorem level_eq (value : Float) : level value = thresholds.countP (· ≤ value.abs) := rfl

/-- The thresholds stand for eighths. -/
theorem map_rational?_thresholds :
    thresholds.map rational? =
      [1, 2, 3, 4, 5, 6, 7].map fun count : Nat => some ((count : ℚ) / 8) := by
  decide +kernel

theorem countP_le (bound : Nat) : [1, 2, 3, 4, 5, 6, 7].countP (· ≤ bound) = min bound 7 := by
  rcases Nat.lt_or_ge bound 7 with below | above
  · interval_cases bound <;> rfl
  · rw [List.countP_eq_length.2, Nat.min_eq_right above]
    · rfl
    · intro count member
      have most : ∀ count ∈ [1, 2, 3, 4, 5, 6, 7], count ≤ 7 := by decide
      exact decide_eq_true ((most count member).trans above)

/-- The level of a double that stands for a rational. -/
theorem level_of_rational? (isExact : rational? value = some exact) :
    level value = min ⌊|exact| * 8⌋₊ 7 := by
  have isSize : rational? value.abs = some |exact| := by
    rw [rational?_abs, isExact]
    rfl
  have nonneg : 0 ≤ |exact| * 8 := mul_nonneg (abs_nonneg exact) (by norm_num)
  have reached (count : Nat) : (count : ℚ) / 8 ≤ |exact| ↔ count ≤ ⌊|exact| * 8⌋₊ := by
    rw [Nat.le_floor_iff nonneg, div_le_iff₀ (by norm_num)]
  have exactThresholds : ∀ threshold ∈ thresholds, ∃ bound, rational? threshold = some bound := by
    intro threshold member
    have mapped : rational? threshold ∈ thresholds.map rational? := List.mem_map_of_mem member
    rw [map_rational?_thresholds] at mapped
    obtain ⟨count, -, same⟩ := List.mem_map.1 mapped
    exact ⟨_, same.symm⟩
  calc level value
      = (thresholds.map rational?).countP (·.any (· ≤ |exact|)) := by
        rw [level_eq, List.countP_map]
        refine List.countP_congr fun threshold member => ?_
        obtain ⟨bound, isBound⟩ := exactThresholds threshold member
        simp [isBound, le_iff isBound isSize]
    _ = [1, 2, 3, 4, 5, 6, 7].countP (· ≤ ⌊|exact| * 8⌋₊) := by
        rw [map_rational?_thresholds, List.countP_map]
        exact List.countP_congr fun count _ => by simp [reached]
    _ = min ⌊|exact| * 8⌋₊ 7 := countP_le _

/-! ## Levels of the other doubles -/

/-- Infinities reach every threshold. -/
theorem level_of_infinite {sign : Sign} (unpacked : value.toModel.unpack = .infinity sign) :
    level value = 7 := by
  have size : value.abs.toModel.unpack = .infinity .positive := by
    rw [unpack_abs, unpacked]
    rfl
  have reached : ∀ threshold ∈ thresholds, threshold ≤ value.abs := by
    simp only [le_iff_compare, size]
    decide
  rw [level_eq, List.countP_eq_length.2 fun threshold member => decide_eq_true (reached _ member)]
  rfl

/-- What is no number reaches no threshold. -/
theorem level_of_notANumber (unpacked : value.toModel.unpack = .notANumber) : level value = 0 := by
  have size : value.abs.toModel.unpack = .notANumber := by
    rw [unpack_abs, unpacked]
    rfl
  have missed : ∀ threshold ∈ thresholds, ¬ threshold ≤ value.abs := by
    simp only [le_iff_compare, size]
    decide
  rw [level_eq, List.countP_eq_zero.2 fun threshold member => by simp [missed _ member]]

theorem level_le (value : Float) : level value ≤ 7 := List.countP_le_length

/-- A level below the last one is an interval of an eighth, and the first one has what is no number
besides. -/
theorem level_eq_iff {count : Nat} (notLast : count < 7) : level value = count ↔
    (count = 0 ∧ value.isNaN = true) ∨
      ∃ exact, rational? value = some exact ∧
        (count : ℚ) / 8 ≤ |exact| ∧ |exact| < (count + 1) / 8 := by
  rcases kind value with unpacked | unpacked | @⟨exact, isExact⟩
  · have isNaN : value.isNaN = true := congrArg UnpackedFloat.isNaN unpacked
    rw [level_of_notANumber unpacked, isNaN, rational?_of_notANumber unpacked]
    simp [eq_comm]
  · have notNaN : value.isNaN = false := congrArg UnpackedFloat.isNaN unpacked
    rw [level_of_infinite unpacked, notNaN, rational?_of_infinite unpacked]
    simp [notLast.ne']
  · have nonneg : 0 ≤ |exact| * 8 := mul_nonneg (abs_nonneg exact) (by norm_num)
    have cut : min ⌊|exact| * 8⌋₊ 7 = count ↔ ⌊|exact| * 8⌋₊ = count := by omega
    rw [level_of_rational? isExact, cut, Nat.floor_eq_iff nonneg,
      ← div_le_iff₀ (by norm_num), ← lt_div_iff₀ (by norm_num)]
    rw [isNaN_eq_false isExact]
    simp [isExact]

/-- The last level has no upper end. -/
theorem level_eq_seven_iff : level value = 7 ↔
    value.isInf = true ∨ ∃ exact, rational? value = some exact ∧ 7 / 8 ≤ |exact| := by
  rcases kind value with unpacked | unpacked | @⟨exact, isExact⟩
  · have notInf : value.isInf = false := congrArg UnpackedFloat.isInf unpacked
    simp [level_of_notANumber unpacked, notInf, rational?_of_notANumber unpacked]
  · have isInf : value.isInf = true := congrArg UnpackedFloat.isInf unpacked
    simp [level_of_infinite unpacked, isInf]
  · have nonneg : 0 ≤ |exact| * 8 := mul_nonneg (abs_nonneg exact) (by norm_num)
    have cut : min ⌊|exact| * 8⌋₊ 7 = 7 ↔ 7 ≤ ⌊|exact| * 8⌋₊ := by omega
    rw [level_of_rational? isExact, cut, Nat.le_floor_iff nonneg, ← div_le_iff₀ (by norm_num)]
    simp [isInf_eq_false isExact, isExact]

/-- The sign does not count. -/
theorem level_neg (value : Float) : level (-value) = level value := by
  have size : (-value).abs = value.abs := by
    have unsigned : (-value).toModel.unpack.abs = value.toModel.unpack.abs := by
      rw [unpack_neg]
      cases value.toModel.unpack <;> rfl
    exact congrArg (fun number => Float.ofModel (Float.Model.pack number)) unsigned
  rw [level_eq, level_eq, size]

/-- Levels grow with the magnitude. -/
theorem level_mono (atMost : value.abs ≤ other.abs) : level value ≤ level other := by
  rcases kind value with unpacked | unpacked | @⟨exact, isExact⟩
  · rw [level_of_notANumber unpacked]
    exact Nat.zero_le _
  · -- nothing but an infinity is at least an infinity
    have isInf : other.isInf = true := by
      rw [le_iff_compare, unpack_abs, unpack_abs, unpacked] at atMost
      change other.toModel.unpack.isInf = true
      cases same : other.toModel.unpack with
      | infinity => rfl
      | _ =>
          rw [same] at atMost
          cases atMost
    rw [level_eq_seven_iff.2 (.inl isInf)]
    exact level_le value
  · rcases kind other with otherUnpacked | otherUnpacked | @⟨otherExact, isOther⟩
    · rw [le_iff_compare, unpack_abs, unpack_abs, otherUnpacked] at atMost
      cases same : value.toModel.unpack <;>
        · rw [same] at atMost
          cases atMost
    · rw [level_of_infinite otherUnpacked]
      exact level_le value
    · have size : rational? value.abs = some |exact| := by
        rw [rational?_abs, isExact]
        rfl
      have otherSize : rational? other.abs = some |otherExact| := by
        rw [rational?_abs, isOther]
        rfl
      have sizeLe : |exact| ≤ |otherExact| := (le_iff size otherSize).1 atMost
      rw [level_of_rational? isExact, level_of_rational? isOther]
      exact min_le_min_right 7 (Nat.floor_mono (mul_le_mul_of_nonneg_right sizeLe (by norm_num)))

/-! ## Levels by scaling -/

/-- The largest finite double. -/
def largest : Float := Float.ofBits 0x7fefffffffffffff

/-- A value without gaps: what is no number becomes zero, and infinities the largest doubles. -/
def withoutGaps (value : Float) : Float :=
  if value.isNaN then 0
  else if value.isInf then if value < 0 then -largest else largest
  else value

/-- The level by scaling: magnitudes are cut to one, multiplied with eight, and lose their
fraction. -/
def scaledLevel (value : Float) : Nat :=
  min (Double.toWhole (min (withoutGaps value).abs 1 * 8)).toNat 7

theorem scaledLevel_of_notANumber (unpacked : value.toModel.unpack = .notANumber) :
    scaledLevel value = 0 := by
  have isNaN : value.isNaN = true := congrArg UnpackedFloat.isNaN unpacked
  have filled : withoutGaps value = 0 := if_pos isNaN
  rw [scaledLevel, filled]
  rfl

theorem scaledLevel_of_infinite {sign : Sign} (unpacked : value.toModel.unpack = .infinity sign) :
    scaledLevel value = 7 := by
  have notNaN : value.isNaN = false := congrArg UnpackedFloat.isNaN unpacked
  have isInf : value.isInf = true := congrArg UnpackedFloat.isInf unpacked
  have filled : withoutGaps value = if value < 0 then -largest else largest := by
    rw [withoutGaps, notNaN, isInf]
    rfl
  rw [scaledLevel, filled]
  by_cases negative : value < 0
  · rw [if_pos negative]
    rfl
  · rw [if_neg negative]
    rfl

theorem scaledLevel_of_rational? (isExact : rational? value = some exact) :
    scaledLevel value = min ⌊|exact| * 8⌋₊ 7 := by
  have kept : withoutGaps value = value := by
    rw [withoutGaps, isNaN_eq_false isExact, isInf_eq_false isExact]
    rfl
  have isSize : rational? value.abs = some |exact| := by
    rw [rational?_abs, isExact]
    rfl
  have isOne : rational? 1 = some 1 := by decide +kernel
  have isCut : rational? (min value.abs 1) = some (min |exact| 1) := by
    have cut : min value.abs 1 = if value.abs ≤ 1 then value.abs else 1 := rfl
    rw [cut]
    by_cases small : |exact| ≤ 1
    · rw [if_pos ((le_iff isSize isOne).2 small), min_eq_left small, isSize]
    · rw [if_neg fun atMost => small ((le_iff isSize isOne).1 atMost),
        min_eq_right (le_of_not_ge small), isOne]
  have cutNonneg : 0 ≤ min |exact| 1 := le_min (abs_nonneg exact) zero_le_one
  have cutLe : |min |exact| 1| ≤ 1 := by
    rw [abs_of_nonneg cutNonneg]
    exact min_le_right _ _
  have isScaled := rational?_mul_eight isCut cutLe
  rw [scaledLevel, kept, toWhole_of_rational? isScaled (mul_nonneg cutNonneg (by norm_num)),
    Int.floor_toNat]
  rcases le_total |exact| 1 with small | large
  · rw [min_eq_left small]
  · have reached : 7 ≤ ⌊|exact| * 8⌋₊ := Nat.le_floor (by push_cast; linarith)
    rw [min_eq_right large, min_eq_right reached, one_mul]
    norm_num

/-- Scaling finds the same levels as the thresholds. -/
theorem level_eq_scaledLevel (value : Float) : level value = scaledLevel value := by
  rcases kind value with unpacked | unpacked | @⟨exact, isExact⟩
  · rw [level_of_notANumber unpacked, scaledLevel_of_notANumber unpacked]
  · rw [level_of_infinite unpacked, scaledLevel_of_infinite unpacked]
  · rw [level_of_rational? isExact, scaledLevel_of_rational? isExact]

/-! ## Color classes -/

theorem rational?_zero : rational? 0 = some 0 := by decide +kernel

theorem colorClass_of_rational? (isExact : rational? value = some exact) :
    colorClass value = if exact = 0 then .zero else if 0 < exact then .positive else .negative := by
  have isZero : (value == 0) = decide (exact = 0) :=
    Bool.eq_iff_iff.2 ((beq_iff isExact rational?_zero).trans decide_eq_true_iff.symm)
  have isPositive : value > 0 ↔ 0 < exact := lt_iff rational?_zero isExact
  simp only [colorClass, isZero, decide_eq_true_iff, isPositive]

theorem colorClass_of_infinite (unpacked : value.toModel.unpack = .infinity (signOf value)) :
    colorClass value = if isNegative value then .negative else .positive := by
  have zero : (0 : Float).toModel.unpack = .zero .positive := rfl
  have notZero : (value == 0) = false := by
    rw [beq_eq_compare, unpacked, zero]
    cases signOf value <;> rfl
  have isPositive : value > 0 ↔ isNegative value = false := by
    show (0 : Float) < value ↔ _
    rw [lt_iff_compare, unpacked, zero, signOf]
    cases isNegative value <;> decide
  simp only [colorClass, notZero, isPositive]
  cases isNegative value <;> rfl

theorem colorClass_of_notANumber (unpacked : value.toModel.unpack = .notANumber) :
    colorClass value = .negative := by
  have zero : (0 : Float).toModel.unpack = .zero .positive := rfl
  have notZero : (value == 0) = false := by
    rw [beq_eq_compare, unpacked, zero]
    rfl
  have notPositive : ¬ value > 0 := by
    show ¬ (0 : Float) < value
    rw [lt_iff_compare, unpacked, zero]
    decide
  rw [colorClass, notZero, if_neg Bool.false_ne_true, if_neg notPositive]

/-- Only the two zeros have the class of zero. -/
theorem colorClass_eq_zero_iff : colorClass value = .zero ↔ value = 0.0 ∨ value = -0.0 := by
  rw [← rational?_eq_some_zero_iff]
  rcases kind value with unpacked | unpacked | @⟨exact, isExact⟩
  · simp [colorClass_of_notANumber unpacked, rational?_of_notANumber unpacked]
  · rw [colorClass_of_infinite unpacked, rational?_of_infinite unpacked]
    cases isNegative value <;> simp
  · rw [colorClass_of_rational? isExact, isExact, Option.some.injEq]
    split_ifs <;> simp [*]

theorem colorClass_eq_positive_iff : colorClass value = .positive ↔
    (value.isInf = true ∧ isNegative value = false) ∨
      ∃ exact, rational? value = some exact ∧ 0 < exact := by
  rcases kind value with unpacked | unpacked | @⟨exact, isExact⟩
  · have notInf : value.isInf = false := congrArg UnpackedFloat.isInf unpacked
    simp [colorClass_of_notANumber unpacked, notInf, rational?_of_notANumber unpacked]
  · have isInf : value.isInf = true := congrArg UnpackedFloat.isInf unpacked
    rw [colorClass_of_infinite unpacked, rational?_of_infinite unpacked]
    cases isNegative value <;> simp [isInf]
  · rw [colorClass_of_rational? isExact]
    simp only [isInf_eq_false isExact, isExact, Option.some.injEq, exists_eq_left']
    split_ifs with isZero isPositive
    · simp [isZero]
    · simp [isPositive]
    · simp [isPositive]

theorem colorClass_eq_negative_iff : colorClass value = .negative ↔
    value.isNaN = true ∨ (value.isInf = true ∧ isNegative value = true) ∨
      ∃ exact, rational? value = some exact ∧ exact < 0 := by
  rcases kind value with unpacked | unpacked | @⟨exact, isExact⟩
  · have isNaN : value.isNaN = true := congrArg UnpackedFloat.isNaN unpacked
    rw [colorClass_of_notANumber unpacked, isNaN]
    simp
  · have notNaN : value.isNaN = false := congrArg UnpackedFloat.isNaN unpacked
    have isInf : value.isInf = true := congrArg UnpackedFloat.isInf unpacked
    rw [colorClass_of_infinite unpacked, rational?_of_infinite unpacked, isInf, notNaN]
    cases isNegative value <;> simp
  · rw [colorClass_of_rational? isExact]
    simp only [isNaN_eq_false isExact, isInf_eq_false isExact, isExact, Option.some.injEq,
      exists_eq_left']
    split_ifs with isZero isPositive
    · simp [isZero]
    · simp [isPositive.le]
    · simpa using lt_of_le_of_ne (not_lt.1 isPositive) isZero

/-! ## Blank canvases -/

theorem beq_zero_iff : (value == 0) = true ↔ colorClass value = .zero := by
  rw [colorClass]
  split_ifs <;> simp [*]

theorem isBlank_iff (canvas : Canvas) :
    canvas.isBlank = true ↔ ∀ value ∈ canvas.values, colorClass value = .zero := by
  simp only [Canvas.isBlank, List.all_eq_true, beq_zero_iff]

theorem level_of_colorClass_eq_zero (isZero : colorClass value = .zero) : level value = 0 := by
  rcases colorClass_eq_zero_iff.1 isZero with rfl | rfl
  · decide +kernel
  · decide +kernel

/-- How full and of which color a double is shown follows its exact value.

A level below the last one tells in which interval of an eighth the magnitude lies, and the last one
that it is at least seven eighths or infinite; what is no number has the first level. So levels do
not depend on the sign and grow with the magnitude. They are the levels by scaling. The class tells
the sign of the value; what is no number has the class of negative values. A canvas is blank exactly
if all its cells have the class of zero, and then all of them have the first level. -/
theorem level_and_colorClass_follow_value :
    (∀ value : Float,
      level value = scaledLevel value ∧ level value ≤ 7 ∧
      (∀ count < 7, level value = count ↔ (count = 0 ∧ value.isNaN = true) ∨
        ∃ exact, rational? value = some exact ∧
          (count : ℚ) / 8 ≤ |exact| ∧ |exact| < (count + 1) / 8) ∧
      (level value = 7 ↔
        value.isInf = true ∨ ∃ exact, rational? value = some exact ∧ 7 / 8 ≤ |exact|) ∧
      level (-value) = level value ∧
      (∀ other : Float, value.abs ≤ other.abs → level value ≤ level other) ∧
      (colorClass value = .zero ↔ value = 0.0 ∨ value = -0.0) ∧
      (colorClass value = .positive ↔ (value.isInf = true ∧ isNegative value = false) ∨
        ∃ exact, rational? value = some exact ∧ 0 < exact) ∧
      (colorClass value = .negative ↔
        value.isNaN = true ∨ (value.isInf = true ∧ isNegative value = true) ∨
          ∃ exact, rational? value = some exact ∧ exact < 0)) ∧
    ∀ canvas : Canvas,
      (canvas.isBlank = true ↔ ∀ value ∈ canvas.values, colorClass value = .zero) ∧
      (canvas.isBlank = true → ∀ value ∈ canvas.values, level value = 0) := by
  refine ⟨fun value => ⟨level_eq_scaledLevel value, level_le value, fun count => level_eq_iff,
    level_eq_seven_iff, level_neg value, fun other => level_mono, colorClass_eq_zero_iff,
    colorClass_eq_positive_iff, colorClass_eq_negative_iff⟩, fun canvas => ⟨isBlank_iff canvas, ?_⟩⟩
  intro isBlank value member
  exact level_of_colorClass_eq_zero ((isBlank_iff canvas).1 isBlank value member)

end LiveGrid.Grid
