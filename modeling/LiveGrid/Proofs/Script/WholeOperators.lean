import LiveGrid.Script.Arithmetic.Value
import Mathlib.Data.Rat.Floor

/-!
Contract: operators on whole numbers, by the arithmetic of whole and rational numbers.

Owns:
- the exact result of an operator on two whole numbers: a floored quotient is the floor of a
  rational number, with the remainder that belongs to it;
- the power of plain numbers, with its short cuts, is the power of whole numbers;
- an operator on plain whole numbers gives the exact result, or a fault if the divisor is zero.

Does not own: quotients that are not floored, and powers with a negative exponent. They are reals.
-/

namespace LiveGrid.Script

/-! ## Exact results -/

/-- The operators that give a whole number for every two whole numbers, apart from divisors that are
zero. -/
def BinaryOperator.StaysWhole (operator : BinaryOperator) : Prop :=
  operator ∈ [BinaryOperator.add, .subtract, .multiply, .floorDivide, .modulo]

instance (operator : BinaryOperator) : Decidable operator.StaysWhole :=
  inferInstanceAs (Decidable (operator ∈ _))

/-- The whole number that an operator gives in exact arithmetic. There is none if the divisor is
zero. -/
def BinaryOperator.exactResult? (operator : BinaryOperator) (left right : Int) : Option Int :=
  match operator with
  | .add => some (left + right)
  | .subtract => some (left - right)
  | .multiply => some (left * right)
  | .floorDivide => if right = 0 then none else some ⌊(left : ℚ) / right⌋
  | .modulo => if right = 0 then none else some (left - right * ⌊(left : ℚ) / right⌋)
  | .power => some (left ^ right.toNat)
  | _ => none

/-- The whole number that a sign gives in exact arithmetic. -/
def UnaryOperator.exactResult? (operator : UnaryOperator) (number : Int) : Option Int :=
  match operator with
  | .plus => some number
  | .minus => some (-number)
  | _ => none

/-- There is no exact result only for a divisor that is zero. -/
theorem BinaryOperator.exactResult?_eq_none_iff {operator : BinaryOperator} {left right : Int}
    (allowed : operator.StaysWhole ∨ operator = .power) :
    operator.exactResult? left right = none ↔
      (operator = .floorDivide ∨ operator = .modulo) ∧ right = 0 := by
  cases operator with
  | floorDivide | modulo => simp [exactResult?]
  | add | subtract | multiply | power => simp [exactResult?]
  | _ => simp [StaysWhole] at allowed

theorem fdiv_eq_floor_of_nonneg (left : Int) {right : Int} (nonnegative : 0 ≤ right) :
    left.fdiv right = ⌊(left : ℚ) / right⌋ := by
  lift right to Nat using nonnegative
  rw [Int.fdiv_eq_ediv_of_nonneg left (Int.natCast_nonneg right), Int.cast_natCast,
    Rat.floor_intCast_div_natCast]

/-- A floored quotient is the floor of the rational quotient. -/
theorem fdiv_eq_floor (left right : Int) : left.fdiv right = ⌊(left : ℚ) / right⌋ := by
  rcases le_total 0 right with nonnegative | nonpositive
  · exact fdiv_eq_floor_of_nonneg left nonnegative
  · have flipped := fdiv_eq_floor_of_nonneg (-left) (Int.neg_nonneg.2 nonpositive)
    rwa [Int.neg_fdiv_neg, Int.cast_neg, Int.cast_neg, neg_div_neg_eq] at flipped

theorem fmod_eq_sub_floor (left right : Int) :
    left.fmod right = left - right * ⌊(left : ℚ) / right⌋ := by
  rw [Int.fmod_def, fdiv_eq_floor]

/-! ## Plain whole numbers -/

theorem wholePower_eq_pow (base : Int) (exponent : Nat) :
    Plain.wholePower base exponent = base ^ exponent := by
  unfold Plain.wholePower
  split_ifs with noFactor isZero isOne isMinusOne isEven
  · rw [noFactor, pow_zero]
  · rw [isZero, zero_pow noFactor]
  · rw [isOne, one_pow]
  · rw [isMinusOne, (Nat.even_iff.2 isEven).neg_one_pow]
  · have isOdd : Odd exponent := Nat.odd_iff.2 (by omega)
    rw [isMinusOne, isOdd.neg_one_pow]
  · rfl

/-- An operator on plain whole numbers is exact: it gives the whole number of exact arithmetic, and
fails if there is none. -/
theorem binary_whole {operator : BinaryOperator} {left right : Int} (assigns : Bool)
    (allowed : operator.StaysWhole ∨ operator = .power ∧ 0 ≤ right) :
    (∃ fault, operator.exactResult? left right = none ∧ Value.binary operator assigns
      (.plain (.whole left)) (.plain (.whole right)) = .error fault) ∨
    ∃ result, operator.exactResult? left right = some result ∧ Value.binary operator assigns
      (.plain (.whole left)) (.plain (.whole right)) = .ok (.plain (.whole result)) := by
  have isWhole : Value.binary operator assigns (.plain (.whole left)) (.plain (.whole right)) =
      (Plain.wholeBinary operator left right).map .plain := rfl
  rw [isWhole]
  cases operator with
  | add | subtract | multiply => exact .inr ⟨_, rfl, rfl⟩
  | floorDivide =>
      rw [BinaryOperator.exactResult?, Plain.wholeBinary, ← fdiv_eq_floor]
      split
      · exact .inl ⟨_, rfl, rfl⟩
      · exact .inr ⟨_, rfl, rfl⟩
  | modulo =>
      rw [BinaryOperator.exactResult?, Plain.wholeBinary, ← fmod_eq_sub_floor]
      split
      · exact .inl ⟨_, rfl, rfl⟩
      · exact .inr ⟨_, rfl, rfl⟩
  | power =>
      have nonnegative : 0 ≤ right := by simpa [BinaryOperator.StaysWhole] using allowed
      have sameExponent : right.natAbs = right.toNat := by omega
      rw [BinaryOperator.exactResult?, Plain.wholeBinary, if_neg (Int.not_lt.2 nonnegative),
        wholePower_eq_pow, sameExponent]
      exact .inr ⟨_, rfl, rfl⟩
  | _ => simp [BinaryOperator.StaysWhole] at allowed

end LiveGrid.Script
