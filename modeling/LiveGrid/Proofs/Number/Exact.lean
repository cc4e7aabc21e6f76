import LiveGrid.Proofs.Number.Overflow
import Mathlib

/-!
Contract: the exact values of doubles.

Owns:
- the rational that a finite double stands for, read off its bits;
- the form of unpacked doubles, in which every value has one mantissa and one exponent, and which
  packing keeps;
- finite doubles compare as their rationals do, and their magnitudes stand for those of these;
- the two zeros are the doubles that stand for zero.

Does not own: arithmetic.
-/

namespace LiveGrid.Number.Double

open Float.Model Float.Model.UnpackedFloat

/-- The rational that a finite double stands for; none for the others. -/
def rational? (value : Float) : Option ℚ :=
  match magnitude value with
  | .finite mantissa exponent =>
      let size : ℚ := mantissa * 2 ^ exponent
      some (if isNegative value then -size else size)
  | _ => none

/-- The rational that an unpacked number stands for. -/
def unpackedRational? : UnpackedFloat → Option ℚ
  | .finite .positive mantissa exponent _ => some (mantissa * 2 ^ exponent)
  | .finite .negative mantissa exponent _ => some (-(mantissa * 2 ^ exponent))
  | .zero _ => some 0
  | _ => none

/-- The one mantissa and the one exponent that doubles have for a value. -/
structure IsCanonical (mantissa : Nat) (exponent : Int) : Prop where
  short : mantissa < 2 ^ 53
  least : -1074 ≤ exponent
  most : exponent ≤ 971
  full : exponent = -1074 ∨ 2 ^ 52 ≤ mantissa

/-- Unpacked doubles. -/
inductive IsDouble : UnpackedFloat → Prop where
  | notANumber : IsDouble .notANumber
  | infinity (sign : Sign) : IsDouble (.infinity sign)
  | zero (sign : Sign) : IsDouble (.zero sign)
  | finite {mantissa : Nat} {exponent : Int} (sign : Sign) (positive : 0 < mantissa)
      (canonical : IsCanonical mantissa exponent) :
      IsDouble (.finite sign mantissa exponent positive)

/-- The sign that the sign bit tells. -/
def signOf (value : Float) : Sign := if isNegative value then .negative else .positive

variable {value : Float} {sign : Sign} {mantissa : Nat} {exponent : Int}

/-! ## Bits -/

theorem eq_of_toBits {other : Float} (same : value.toBits = other.toBits) : value = other := by
  obtain ⟨⟨bits, valid⟩⟩ := value
  obtain ⟨⟨otherBits, otherValid⟩⟩ := other
  obtain rfl : bits = otherBits := same
  rfl

theorem toNat_exponentField (value : Float) :
    (exponentField value).toNat = value.toBits.toNat / 2 ^ 52 % 2 ^ 11 := by
  have mask : (0x7ff : UInt64).toNat = 2 ^ 11 - 1 := rfl
  rw [exponentField, UInt64.toNat_and, UInt64.toNat_shiftRight, mask,
    Nat.and_two_pow_sub_one_eq_mod]
  exact congrArg (· % 2 ^ 11) (Nat.shiftRight_eq_div_pow _ 52)

theorem toNat_fractionField (value : Float) :
    (fractionField value).toNat = value.toBits.toNat % 2 ^ 52 := by
  have mask : (0xfffffffffffff : UInt64).toNat = 2 ^ 52 - 1 := rfl
  rw [fractionField, UInt64.toNat_and, mask, Nat.and_two_pow_sub_one_eq_mod]

/-- The bits of a double, as its model unpacks them. -/
abbrev bits (value : Float) : BitVec Format.binary64.numBits := value.toModel.toBits.toBitVec

theorem toNat_unpackExponent (value : Float) :
    (unpackExponent (bits value)).toNat =
      (exponentField value).toNat := by
  rw [toNat_exponentField, unpackExponent, BitVec.toNat_cast, BitVec.extractLsb_toNat]
  exact congrArg (· % 2 ^ 11) (Nat.shiftRight_eq_div_pow _ 52)

theorem toNat_unpackMantissa (value : Float) :
    (unpackMantissa (bits value)).toNat =
      (fractionField value).toNat := by
  rw [toNat_fractionField, unpackMantissa, BitVec.toNat_cast, BitVec.extractLsb_toNat]
  rfl

theorem signOf_eq (value : Float) :
    signOf value =
      Sign.ofBitVec (unpackSign (bits value)) := by
  have bit : (unpackSign (bits value)).toNat =
      (value.toBits >>> 63).toNat := by
    have below : value.toBits.toNat < 2 ^ 64 := value.toBits.toNat_lt
    have quotient : value.toBits.toNat >>> 63 < 2 := by
      rw [Nat.shiftRight_eq_div_pow]
      omega
    rw [unpackSign, BitVec.toNat_cast, BitVec.extractLsb_toNat, UInt64.toNat_shiftRight]
    exact Nat.mod_eq_of_lt quotient
  have isOne : (value.toBits >>> 63 == 1) =
      ((unpackSign (bits value)).toNat == 1) := by
    rw [bit, Bool.eq_iff_iff, beq_iff_eq, beq_iff_eq, ← UInt64.toNat_inj]
    rfl
  rw [signOf, isNegative, isOne, Sign.ofBitVec]
  generalize unpackSign (bits value) = bit
  rcases (by omega : bit.toNat = 0 ∨ bit.toNat = 1) with isZero | isOne
  · rw [if_neg (by simp [isZero]), if_pos (BitVec.eq_of_toNat_eq isZero)]
  · rw [if_pos (by simp [isOne]), if_neg (by rintro rfl; simp at isOne)]

section Unpacking

variable {bits : BitVec Format.binary64.numBits}

theorem unpack_of_full (full : unpackExponent bits = -1#_) :
    UnpackedFloat.unpack .binary64 bits =
      if unpackMantissa bits = 0#_ then .infinity (Sign.ofBitVec (unpackSign bits))
      else .notANumber := by
  rw [UnpackedFloat.unpack]
  exact if_pos full

/-- Without an exponent the fraction is the mantissa. -/
theorem unpack_of_subnormal (least : unpackExponent bits = 0#_)
    (notEmpty : unpackMantissa bits ≠ 0#_) : ∃ positive, UnpackedFloat.unpack .binary64 bits =
      .finite (Sign.ofBitVec (unpackSign bits)) (unpackMantissa bits).toNat (-1074) positive := by
  refine ⟨Nat.pos_of_ne_zero fun same => notEmpty (BitVec.eq_of_toNat_eq same), ?_⟩
  rw [UnpackedFloat.unpack]
  simp only [least, notEmpty, ↓reduceIte, ↓reduceDIte]
  rfl

theorem unpack_of_zero (least : unpackExponent bits = 0#_) (isEmpty : unpackMantissa bits = 0#_) :
    UnpackedFloat.unpack .binary64 bits = .zero (Sign.ofBitVec (unpackSign bits)) := by
  rw [UnpackedFloat.unpack]
  simp only [least, isEmpty, ↓reduceIte, ↓reduceDIte]
  rfl

/-- With an exponent there is a leading one before the fraction. -/
theorem unpack_of_normal (notFull : unpackExponent bits ≠ -1#_)
    (notLeast : unpackExponent bits ≠ 0#_) : ∃ positive, UnpackedFloat.unpack .binary64 bits =
      .finite (Sign.ofBitVec (unpackSign bits)) ((unpackMantissa bits).toNat + 2 ^ 52)
        ((unpackExponent bits).toNat - 1075) positive := by
  have digits : (1#1 ++ unpackMantissa bits).toNat = (unpackMantissa bits).toNat + 2 ^ 52 := by
    rw [BitVec.toNat_append, ← Nat.shiftLeft_add_eq_or_of_lt (unpackMantissa bits).isLt]
    exact Nat.add_comm _ _
  refine ⟨by omega, ?_⟩
  rw [UnpackedFloat.unpack]
  simp only [notFull, notLeast, ↓reduceIte, digits]
  rfl

end Unpacking

/-- What is unpacked of a double, beside the magnitude that its bits tell. -/
inductive Form (value : Float) : Prop where
  | notANumber (told : magnitude value = .notANumber)
      (unpacked : value.toModel.unpack = .notANumber)
  | infinite (told : magnitude value = .infinite)
      (unpacked : value.toModel.unpack = .infinity (signOf value))
  | zero (told : magnitude value = .finite 0 (-1074))
      (unpacked : value.toModel.unpack = .zero (signOf value))
  | finite {mantissa : Nat} {exponent : Int} (positive : 0 < mantissa)
      (canonical : IsCanonical mantissa exponent)
      (told : magnitude value = .finite mantissa exponent)
      (unpacked : value.toModel.unpack = .finite (signOf value) mantissa exponent positive)

theorem form (value : Float) : Form value := by
  have field := (toNat_unpackExponent value).symm
  have fraction := (toNat_unpackMantissa value).symm
  have sign := signOf_eq value
  have short : (unpackMantissa (bits value)).toNat < 2 ^ 52 := (unpackMantissa (bits value)).isLt
  have narrow : (unpackExponent (bits value)).toNat < 2 ^ 11 := (unpackExponent (bits value)).isLt
  by_cases full : unpackExponent (bits value) = -1#_
  · have isFull : (exponentField value).toNat = 2047 := field.trans (congrArg BitVec.toNat full)
    have unpacked := unpack_of_full full
    rw [← sign] at unpacked
    by_cases isEmpty : unpackMantissa (bits value) = 0#_
    · have isZero : (fractionField value).toNat = 0 :=
        fraction.trans (congrArg BitVec.toNat isEmpty)
      rw [if_pos isEmpty] at unpacked
      refine .infinite ?_ unpacked
      simp only [magnitude, isFull, isZero, ↓reduceIte]
    · have notZero : (fractionField value).toNat ≠ 0 := by
        rw [fraction]
        exact fun same => isEmpty (BitVec.eq_of_toNat_eq same)
      rw [if_neg isEmpty] at unpacked
      refine .notANumber ?_ unpacked
      simp only [magnitude, isFull, notZero, ↓reduceIte]
  by_cases least : unpackExponent (bits value) = 0#_
  · have isLeast : (exponentField value).toNat = 0 := field.trans (congrArg BitVec.toNat least)
    have told : magnitude value = .finite (unpackMantissa (bits value)).toNat (-1074) := by
      rw [magnitude]
      simp only [isLeast, fraction]
      rfl
    by_cases isEmpty : unpackMantissa (bits value) = 0#_
    · have unpacked := unpack_of_zero least isEmpty
      rw [← sign] at unpacked
      rw [isEmpty] at told
      exact .zero told unpacked
    · obtain ⟨positive, unpacked⟩ := unpack_of_subnormal least isEmpty
      rw [← sign] at unpacked
      exact .finite positive ⟨by omega, by decide, by decide, .inl rfl⟩ told unpacked
  · have notFull : (exponentField value).toNat ≠ 2047 := by
      rw [field]
      exact fun same => full (BitVec.eq_of_toNat_eq same)
    have notLeast : (exponentField value).toNat ≠ 0 := by
      rw [field]
      exact fun same => least (BitVec.eq_of_toNat_eq same)
    obtain ⟨positive, unpacked⟩ := unpack_of_normal full least
    rw [← sign] at unpacked
    refine .finite positive ⟨by omega, by omega, by omega, .inr (by omega)⟩ ?_ unpacked
    simp only [magnitude, notFull, notLeast, ↓reduceIte]
    rw [field, fraction]
    rfl

theorem rational?_eq (value : Float) :
    rational? value = unpackedRational? value.toModel.unpack := by
  rcases form value with ⟨told, unpacked⟩ | ⟨told, unpacked⟩ | ⟨told, unpacked⟩ |
    ⟨positive, canonical, told, unpacked⟩
  · rw [rational?, told, unpacked]
    rfl
  · rw [rational?, told, unpacked]
    rfl
  · rw [rational?, told, unpacked]
    simp [unpackedRational?]
  · rw [rational?, told, unpacked, signOf]
    cases isNegative value <;> rfl

/-! ## Packing -/

theorem unpackSign_packComponents {field : BitVec 11} {fraction : BitVec 52} :
    unpackSign (packComponents .binary64 sign field fraction) = sign.toBitVec := by
  apply BitVec.eq_of_toNat_eq
  have below : (field ++ fraction).toNat < 2 ^ 63 := (field ++ fraction).isLt
  have parts : (packComponents .binary64 sign field fraction).toNat =
      sign.toBitVec.toNat <<< 63 + (field ++ fraction).toNat := by
    have grouped : packComponents .binary64 sign field fraction =
        (sign.toBitVec ++ (field ++ fraction)).cast rfl := BitVec.append_assoc
    rw [grouped, BitVec.toNat_cast, BitVec.toNat_append, Nat.shiftLeft_add_eq_or_of_lt below]
  rw [unpackSign, BitVec.toNat_cast, BitVec.extractLsb_toNat, parts]
  simp only [Nat.shiftRight_eq_div_pow, Nat.shiftLeft_eq]
  have bit : sign.toBitVec.toNat < 2 := sign.toBitVec.isLt
  omega

theorem ofBitVec_toBitVec : Sign.ofBitVec sign.toBitVec = sign := by
  cases sign <;> rfl

/-- The fields of a packed number: a full mantissa gets an exponent, and a shorter one gets none. -/
theorem pack_finite {biased : Nat} (isBiased : (biased : Int) = exponent + 1075)
    (fits : biased < 2047) (positive : 0 < mantissa) :
    UnpackedFloat.pack .binary64 (.finite sign mantissa exponent positive) =
      packComponents .binary64 sign
        (if mantissa.log2 + 1 = 53 then BitVec.ofNat 11 biased else 0#11)
        (BitVec.ofNat 52 mantissa) := by
  obtain rfl : biased = (exponent + (1023 : Nat) + (52 : Nat)).toNat := by omega
  have inRange : ¬ 2048 ≤ (exponent + (1023 : Nat) + (52 : Nat)).toNat + 1 := by omega
  rw [apply_ite (fun field => packComponents .binary64 sign field (BitVec.ofNat 52 mantissa))]
  exact if_neg inRange

theorem unpack_pack_normal (least : 2 ^ 52 ≤ mantissa) (short : mantissa < 2 ^ 53)
    (low : -1074 ≤ exponent) (high : exponent ≤ 971) (positive : 0 < mantissa) :
    (Float.Model.pack (.finite sign mantissa exponent positive)).unpack =
      .finite sign mantissa exponent positive := by
  obtain ⟨biased, isBiased⟩ : ∃ biased : Nat, (biased : Int) = exponent + 1075 :=
    ⟨(exponent + 1075).toNat, by omega⟩
  have log2 : mantissa.log2 = 52 := (Nat.log2_eq_iff (by omega)).2 ⟨least, short⟩
  have field : (BitVec.ofNat 11 biased).toNat = biased :=
    (BitVec.toNat_ofNat biased 11).trans (Nat.mod_eq_of_lt (by omega))
  have fraction : (BitVec.ofNat 52 mantissa).toNat = mantissa % 2 ^ 52 := BitVec.toNat_ofNat _ _
  change UnpackedFloat.unpack .binary64 (UnpackedFloat.pack .binary64 _) = _
  rw [pack_finite isBiased (by omega) positive, if_pos (by rw [log2])]
  generalize isBits :
    packComponents .binary64 sign (BitVec.ofNat 11 biased) (BitVec.ofNat 52 mantissa) = bits
  have isField : (unpackExponent bits).toNat = biased := by
    rw [← isBits, unpackExponent_packComponents, field]
  have isFraction : (unpackMantissa bits).toNat = mantissa % 2 ^ 52 := by
    rw [← isBits, unpackMantissa_packComponents, fraction]
  have isSign : Sign.ofBitVec (unpackSign bits) = sign := by
    rw [← isBits, unpackSign_packComponents, ofBitVec_toBitVec]
  have notFull : unpackExponent bits ≠ -1#_ := by
    intro same
    have : biased = 2047 := isField.symm.trans (congrArg BitVec.toNat same)
    omega
  have notLeast : unpackExponent bits ≠ 0#_ := by
    intro same
    have : biased = 0 := isField.symm.trans (congrArg BitVec.toNat same)
    omega
  obtain ⟨_, unpacked⟩ := unpack_of_normal notFull notLeast
  rw [unpacked, UnpackedFloat.finite.injEq, isField, isFraction]
  exact ⟨isSign, by omega, by omega⟩

theorem unpack_pack_subnormal (short : mantissa < 2 ^ 52) (positive : 0 < mantissa) :
    (Float.Model.pack (.finite sign mantissa (-1074) positive)).unpack =
      .finite sign mantissa (-1074) positive := by
  have isBiased : ((1 : Nat) : Int) = -1074 + 1075 := rfl
  have log2 : mantissa.log2 < 52 := (Nat.log2_lt (by omega)).2 short
  have fraction : (BitVec.ofNat 52 mantissa).toNat = mantissa :=
    (BitVec.toNat_ofNat mantissa 52).trans (Nat.mod_eq_of_lt short)
  change UnpackedFloat.unpack .binary64 (UnpackedFloat.pack .binary64 _) = _
  rw [pack_finite isBiased (by decide) positive, if_neg (by omega)]
  generalize isBits : packComponents .binary64 sign 0#11 (BitVec.ofNat 52 mantissa) = bits
  have isLeast : unpackExponent bits = 0#_ := by rw [← isBits, unpackExponent_packComponents]
  have isFraction : (unpackMantissa bits).toNat = mantissa := by
    rw [← isBits, unpackMantissa_packComponents, fraction]
  have isSign : Sign.ofBitVec (unpackSign bits) = sign := by
    rw [← isBits, unpackSign_packComponents, ofBitVec_toBitVec]
  have notEmpty : unpackMantissa bits ≠ 0#_ := by
    intro same
    have : mantissa = 0 := isFraction.symm.trans (congrArg BitVec.toNat same)
    omega
  obtain ⟨_, unpacked⟩ := unpack_of_subnormal isLeast notEmpty
  rw [unpacked, UnpackedFloat.finite.injEq]
  exact ⟨isSign, isFraction, rfl⟩

theorem unpack_pack_finite (canonical : IsCanonical mantissa exponent) (positive : 0 < mantissa) :
    (Float.Model.pack (.finite sign mantissa exponent positive)).unpack =
      .finite sign mantissa exponent positive := by
  obtain ⟨short, low, high, full⟩ := canonical
  by_cases least : 2 ^ 52 ≤ mantissa
  · exact unpack_pack_normal least short low high positive
  · obtain rfl : exponent = -1074 := full.resolve_right least
    exact unpack_pack_subnormal (Nat.lt_of_not_le least) positive

theorem isDouble_unpack (value : Float) : IsDouble value.toModel.unpack := by
  rcases form value with ⟨-, unpacked⟩ | ⟨-, unpacked⟩ | ⟨-, unpacked⟩ |
    ⟨positive, canonical, -, unpacked⟩
  · exact unpacked ▸ .notANumber
  · exact unpacked ▸ .infinity _
  · exact unpacked ▸ .zero _
  · exact unpacked ▸ .finite _ positive canonical

section Packing

variable {number : UnpackedFloat}

/-- Packing loses nothing of what doubles are. -/
theorem IsDouble.unpack_pack (isDouble : IsDouble number) :
    (Float.Model.pack number).unpack = number := by
  cases isDouble with
  | notANumber => rfl
  | infinity sign => cases sign <;> rfl
  | zero sign => cases sign <;> rfl
  | finite sign positive canonical => exact unpack_pack_finite canonical positive

theorem IsDouble.abs (isDouble : IsDouble number) : IsDouble number.abs := by
  cases isDouble with
  | notANumber => exact .notANumber
  | infinity => exact .infinity _
  | zero => exact .zero _
  | finite _ positive canonical => exact .finite _ positive canonical

theorem IsDouble.neg (isDouble : IsDouble number) : IsDouble number.neg := by
  cases isDouble with
  | notANumber => exact .notANumber
  | infinity => exact .infinity _
  | zero => exact .zero _
  | finite _ positive canonical => exact .finite _ positive canonical

end Packing

theorem unpack_abs (value : Float) : value.abs.toModel.unpack = value.toModel.unpack.abs :=
  (isDouble_unpack value).abs.unpack_pack

theorem unpack_neg (value : Float) : (-value).toModel.unpack = value.toModel.unpack.neg :=
  (isDouble_unpack value).neg.unpack_pack

/-! ## Comparisons -/

section Comparisons

variable {firstMantissa secondMantissa : Nat} {firstExponent secondExponent : Int}

theorem lt_of_exponent_lt (first : IsCanonical firstMantissa firstExponent)
    (second : IsCanonical secondMantissa secondExponent) (lower : firstExponent < secondExponent) :
    (firstMantissa : ℚ) * 2 ^ firstExponent < secondMantissa * 2 ^ secondExponent := by
  have full : 2 ^ 52 ≤ secondMantissa := by
    rcases second.full with isLeast | full
    · have := first.least
      omega
    · exact full
  have short : (firstMantissa : ℚ) < 2 ^ 53 := by exact_mod_cast first.short
  have long : (2 : ℚ) ^ 52 ≤ secondMantissa := by exact_mod_cast full
  have positive (exponent : Int) : (0 : ℚ) < 2 ^ exponent := zpow_pos (by norm_num) exponent
  have raised : (2 : ℚ) ^ (firstExponent + 1) ≤ 2 ^ secondExponent :=
    zpow_le_zpow_right₀ (by norm_num) lower
  calc (firstMantissa : ℚ) * 2 ^ firstExponent
      < 2 ^ 53 * 2 ^ firstExponent := mul_lt_mul_of_pos_right short (positive _)
    _ = 2 ^ 52 * 2 ^ (firstExponent + 1) := by
        rw [zpow_add_one₀ (by norm_num)]
        ring
    _ ≤ secondMantissa * 2 ^ secondExponent :=
        mul_le_mul long raised (positive _).le (Nat.cast_nonneg _)

/-- Mantissas only count where the exponents are the same. -/
theorem compare_canonical (first : IsCanonical firstMantissa firstExponent)
    (second : IsCanonical secondMantissa secondExponent) :
    (compare firstExponent secondExponent).then (compare firstMantissa secondMantissa) =
      compare ((firstMantissa : ℚ) * 2 ^ firstExponent) (secondMantissa * 2 ^ secondExponent) := by
  rcases lt_trichotomy firstExponent secondExponent with lower | rfl | higher
  · rw [compare_lt_iff_lt.2 lower, compare_lt_iff_lt.2 (lt_of_exponent_lt first second lower)]
    rfl
  · have positive : (0 : ℚ) < 2 ^ firstExponent := zpow_pos (by norm_num) _
    rw [compare_eq_iff_eq.2 rfl, Ordering.then]
    rcases lt_trichotomy firstMantissa secondMantissa with less | rfl | more
    · have scaled := mul_lt_mul_of_pos_right (Nat.cast_lt.2 less : (firstMantissa : ℚ) < _) positive
      rw [compare_lt_iff_lt.2 less, compare_lt_iff_lt.2 scaled]
    · rw [compare_eq_iff_eq.2 rfl, compare_eq_iff_eq.2 rfl]
    · have scaled :=
        mul_lt_mul_of_pos_right (Nat.cast_lt.2 more : (secondMantissa : ℚ) < _) positive
      rw [compare_gt_iff_gt.2 more, compare_gt_iff_gt.2 scaled]
  · rw [compare_gt_iff_gt.2 higher, compare_gt_iff_gt.2 (lt_of_exponent_lt second first higher)]
    rfl

theorem size_pos {mantissa : Nat} (positive : 0 < mantissa) (exponent : Int) :
    (0 : ℚ) < mantissa * 2 ^ exponent :=
  mul_pos (Nat.cast_pos.2 positive) (zpow_pos (by norm_num) exponent)

theorem size_of_unpackedRational? {exact : ℚ} {positive : 0 < mantissa}
    (isExact : unpackedRational? (.finite sign mantissa exponent positive) = some exact) :
    |exact| = mantissa * 2 ^ exponent := by
  have size := abs_of_pos (size_pos positive exponent)
  cases sign <;> cases isExact
  · exact (abs_neg _).trans size
  · exact size

theorem compare_neg_neg (left right : ℚ) :
    compare (-left) (-right) = (compare left right).swap := by
  rcases lt_trichotomy left right with less | rfl | more
  · rw [compare_lt_iff_lt.2 less, compare_gt_iff_gt.2 (neg_lt_neg less)]
    rfl
  · rw [compare_eq_iff_eq.2 rfl, compare_eq_iff_eq.2 rfl]
    rfl
  · rw [compare_gt_iff_gt.2 more, compare_lt_iff_lt.2 (neg_lt_neg more)]
    rfl

/-- Finite doubles compare as their rationals do. -/
theorem compare_unpacked {first second : UnpackedFloat} {left right : ℚ}
    (isFirst : IsDouble first) (isSecond : IsDouble second)
    (exactFirst : unpackedRational? first = some left)
    (exactSecond : unpackedRational? second = some right) :
    first.compare second = some (compare left right) := by
  cases isFirst with
  | notANumber | infinity sign => cases exactFirst
  | zero sign =>
      cases exactFirst
      cases isSecond with
      | notANumber | infinity sign => cases exactSecond
      | zero sign =>
          cases exactSecond
          exact congrArg some (compare_eq_iff_eq.2 rfl).symm
      | finite sign positive canonical =>
          have size := size_pos positive
          cases sign with
          | positive =>
              cases exactSecond
              exact congrArg some (compare_lt_iff_lt.2 (size _)).symm
          | negative =>
              cases exactSecond
              exact congrArg some (compare_gt_iff_gt.2 (neg_neg_of_pos (size _))).symm
  | finite firstSign firstPositive firstCanonical =>
      have firstSize := size_pos firstPositive
      cases isSecond with
      | notANumber | infinity sign => cases exactSecond
      | zero sign =>
          cases exactSecond
          cases firstSign with
          | positive =>
              cases exactFirst
              exact congrArg some (compare_gt_iff_gt.2 (firstSize _)).symm
          | negative =>
              cases exactFirst
              exact congrArg some (compare_lt_iff_lt.2 (neg_neg_of_pos (firstSize _))).symm
      | finite secondSign secondPositive secondCanonical =>
          have secondSize := size_pos secondPositive
          cases firstSign <;> cases secondSign <;> cases exactFirst <;> cases exactSecond
          · rw [compare_neg_neg, ← compare_canonical firstCanonical secondCanonical]
            rfl
          · exact congrArg some (compare_lt_iff_lt.2
              ((neg_neg_of_pos (firstSize _)).trans (secondSize _))).symm
          · exact congrArg some (compare_gt_iff_gt.2
              ((neg_neg_of_pos (secondSize _)).trans (firstSize _))).symm
          · exact congrArg some (compare_canonical firstCanonical secondCanonical)

end Comparisons

theorem le_iff_compare (first second : Float) : first ≤ second ↔
    (first.toModel.unpack.compare second.toModel.unpack).any (·.isLE) = true := by
  show (decide _) = true ↔ _
  rw [decide_eq_true_iff]
  rfl

theorem lt_iff_compare (first second : Float) : first < second ↔
    first.toModel.unpack.compare second.toModel.unpack = some .lt := by
  show (decide _) = true ↔ _
  rw [decide_eq_true_iff]
  exact beq_iff_eq

theorem beq_eq_compare (first second : Float) : (first == second) =
    (first.toModel.unpack.compare second.toModel.unpack == some .eq) := rfl

section Finite

variable {first second : Float} {left right : ℚ}

theorem compare_of_rational? (exactFirst : rational? first = some left)
    (exactSecond : rational? second = some right) :
    first.toModel.unpack.compare second.toModel.unpack = some (compare left right) := by
  rw [rational?_eq] at exactFirst exactSecond
  exact compare_unpacked (isDouble_unpack first) (isDouble_unpack second) exactFirst exactSecond

theorem le_iff (exactFirst : rational? first = some left)
    (exactSecond : rational? second = some right) : first ≤ second ↔ left ≤ right := by
  rw [le_iff_compare, compare_of_rational? exactFirst exactSecond, ← compare_le_iff_le]
  cases compare left right <;> simp

theorem lt_iff (exactFirst : rational? first = some left)
    (exactSecond : rational? second = some right) : first < second ↔ left < right := by
  rw [lt_iff_compare, compare_of_rational? exactFirst exactSecond, Option.some.injEq,
    compare_lt_iff_lt]

theorem beq_iff (exactFirst : rational? first = some left)
    (exactSecond : rational? second = some right) : (first == second) = true ↔ left = right := by
  rw [beq_eq_compare, compare_of_rational? exactFirst exactSecond, beq_iff_eq, Option.some.injEq,
    compare_eq_iff_eq]

end Finite

/-! ## Signs -/

theorem unpackedRational?_abs (number : UnpackedFloat) :
    unpackedRational? number.abs = (unpackedRational? number).map (|·|) := by
  cases number with
  | notANumber | infinity sign => rfl
  | zero sign => exact congrArg some abs_zero.symm
  | finite sign mantissa exponent positive =>
      have size := abs_of_pos (size_pos positive exponent)
      cases sign with
      | positive => exact congrArg some size.symm
      | negative => exact congrArg some ((abs_neg _).trans size).symm

theorem rational?_abs (value : Float) : rational? value.abs = (rational? value).map (|·|) := by
  rw [rational?_eq, rational?_eq, unpack_abs, unpackedRational?_abs]

/-! ## Kinds of doubles -/

/-- A double is no number, infinite, or stands for a rational. -/
inductive Kind (value : Float) : Prop where
  | notANumber (unpacked : value.toModel.unpack = .notANumber)
  | infinite (unpacked : value.toModel.unpack = .infinity (signOf value))
  | finite {exact : ℚ} (isExact : rational? value = some exact)

theorem kind (value : Float) : Kind value := by
  rcases form value with ⟨-, unpacked⟩ | ⟨-, unpacked⟩ | ⟨told, -⟩ | ⟨-, -, told, -⟩
  · exact .notANumber unpacked
  · exact .infinite unpacked
  · exact .finite (by rw [rational?, told])
  · exact .finite (by rw [rational?, told])

theorem rational?_of_notANumber (unpacked : value.toModel.unpack = .notANumber) :
    rational? value = none := by
  rw [rational?_eq, unpacked]
  rfl

theorem rational?_of_infinite (unpacked : value.toModel.unpack = .infinity sign) :
    rational? value = none := by
  rw [rational?_eq, unpacked]
  rfl

theorem isNaN_eq_false {exact : ℚ} (isExact : rational? value = some exact) :
    value.isNaN = false := by
  have isNaN : value.isNaN = value.toModel.unpack.isNaN := rfl
  rw [rational?_eq] at isExact
  rw [isNaN]
  cases unpacked : value.toModel.unpack with
  | notANumber =>
      rw [unpacked] at isExact
      cases isExact
  | _ => rfl

theorem isInf_eq_false {exact : ℚ} (isExact : rational? value = some exact) :
    value.isInf = false := by
  have isInf : value.isInf = value.toModel.unpack.isInf := rfl
  rw [rational?_eq] at isExact
  rw [isInf]
  cases unpacked : value.toModel.unpack with
  | infinity sign =>
      rw [unpacked] at isExact
      cases isExact
  | _ => rfl

/-- Only the two zeros stand for zero. -/
theorem rational?_eq_some_zero_iff :
    rational? value = some 0 ↔ value = 0.0 ∨ value = -0.0 := by
  constructor
  · intro isZero
    have noDigits : magnitude value = .finite 0 (-1074) := by
      rw [rational?_eq] at isZero
      rcases form value with ⟨-, unpacked⟩ | ⟨-, unpacked⟩ | ⟨told, -⟩ | ⟨positive, -, -, unpacked⟩
      · rw [unpacked] at isZero
        cases isZero
      · rw [unpacked] at isZero
        cases isZero
      · exact told
      · rw [unpacked] at isZero
        have size := size_of_unpackedRational? isZero
        rw [abs_zero] at size
        exact absurd size (size_pos positive _).ne
    have noField : (exponentField value).toNat = 0 ∧ (fractionField value).toNat = 0 := by
      simp only [magnitude] at noDigits
      split at noDigits
      · split at noDigits <;> cases noDigits
      · split at noDigits
        · rename_i isLeast
          exact ⟨isLeast, (Magnitude.finite.inj noDigits).1⟩
        · have hidden := (Magnitude.finite.inj noDigits).1
          exact absurd hidden (Nat.ne_of_gt (Nat.add_pos_right _ (Nat.pow_pos (by decide))))
    rw [toNat_exponentField, toNat_fractionField] at noField
    have below : value.toBits.toNat < 2 ^ 64 := value.toBits.toNat_lt
    rcases (by omega : value.toBits.toNat = 0 ∨ value.toBits.toNat = 2 ^ 63) with same | same
    · exact .inl (eq_of_toBits (UInt64.toNat_inj.1 same))
    · exact .inr (eq_of_toBits (UInt64.toNat_inj.1 same))
  · rintro (rfl | rfl)
    · decide +kernel
    · decide +kernel

end LiveGrid.Number.Double
