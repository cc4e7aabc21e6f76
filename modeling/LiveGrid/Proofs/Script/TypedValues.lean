import LiveGrid.Proofs.Number.Finite
import LiveGrid.Proofs.Script.Evaluation
import LiveGrid.Proofs.Script.Typing

/-!
Contract: operators and functions on values of the right types do not fail.

Owns:
- which values have which types;
- an operator on values of the right types gives a value, and of the right type;
- so does a call with the ordinary number of floats.

Does not own: the expressions that operators and calls stand in.
-/

namespace LiveGrid.Script

open Evaluation LiveGrid.Number

/-! ## Values -/

/-- Values of types. -/
inductive ValueHasType : Value → ExprType → Prop where
  | whole {value : Int} (fits : FitsWord value) :
      ValueHasType (.plain (.whole value)) (.whole value)
  | float (number : Float) : ValueHasType (.machine (.double number)) .float
  | truthTest (truth : Bool) : ValueHasType (.plain (.truth truth)) .test
  | flagTest (truth : Bool) : ValueHasType (.machine (.flag truth)) .test
  | wholeNumber {value : Value} {constant : Int} (typed : ValueHasType value (.whole constant)) :
      ValueHasType value .number
  | floatNumber {value : Value} (typed : ValueHasType value .float) : ValueHasType value .number
  | floatTest {value : Value} (typed : ValueHasType value .float) : ValueHasType value .test

namespace ValueHasType

variable {value : Value}

theorem whole_iff {constant : Int} :
    ValueHasType value (.whole constant) ↔
      FitsWord constant ∧ value = .plain (.whole constant) := by
  constructor
  · rintro ⟨fits⟩
    exact ⟨fits, rfl⟩
  · rintro ⟨fits, rfl⟩
    exact .whole fits

theorem float_iff : ValueHasType value .float ↔ ∃ number, value = .machine (.double number) := by
  constructor
  · intro typed
    cases typed with
    | float number => exact ⟨number, rfl⟩
  · rintro ⟨number, rfl⟩
    exact .float number

theorem number_iff :
    ValueHasType value .number ↔
      (∃ constant, FitsWord constant ∧ value = .plain (.whole constant)) ∨
        ∃ number, value = .machine (.double number) := by
  constructor
  · intro typed
    cases typed with
    | wholeNumber typed => exact .inl ⟨_, whole_iff.1 typed⟩
    | floatNumber typed => exact .inr (float_iff.1 typed)
  · rintro (⟨constant, isWhole⟩ | isFloat)
    · exact .wholeNumber (whole_iff.2 isWhole)
    · exact .floatNumber (float_iff.2 isFloat)

end ValueHasType

/-- A result that is no fault but a value of a type. -/
def Returns (type : ExprType) (result : Except Fault Value) : Prop :=
  ∃ value, result = .ok value ∧ ValueHasType value type

/-- An evaluation that gives a value of a type, whatever random numbers are drawn. -/
abbrev Evaluates (type : ExprType) (action : Evaluation Value) : Prop :=
  Ensures (fun _ => False) (ValueHasType · type) action

theorem evaluates_ofExcept {type : ExprType} {result : Except Fault Value}
    (returns : Returns type result) : Evaluates type (Evaluation.ofExcept result) := by
  obtain ⟨value, rfl, typed⟩ := returns
  exact fun _ => typed

/-! ## Operators -/

section Operators

variable {left right : Value} {first second : Float}

theorem realOfWhole_eq_ok {value : Int} (fits : FitsWord value) :
    Plain.realOfWhole value = .ok (Double.ofWhole value) := by
  rw [Plain.realOfWhole, Double.isInf_ofWhole fits.natAbs_lt]
  rfl

/-- A whole number beside a double becomes one. -/
theorem adopt_double {value : Int} (fits : FitsWord value) :
    Machine.adopt .double (.whole value) = .ok (.double (Double.ofWhole value)) := by
  rw [Machine.adopt, Machine.adoptWhole, realOfWhole_eq_ok fits]
  rfl

theorem adoptFor_double {operator : BinaryOperator} {value : Int} (fits : FitsWord value) :
    Machine.adoptFor operator .double (.whole value) = .ok (.double (Double.ofWhole value)) := by
  cases operator <;> exact adopt_double fits

theorem returns_binary_doubles {operator : BinaryOperator}
    (allowed : operator ∈ arithmeticOperators) :
    Returns .float ((Machine.binary operator (.double first) (.double second)).map .machine) := by
  cases operator <;> first | exact ⟨_, rfl, .float _⟩ | simp [arithmeticOperators] at allowed

theorem returns_binary_floatFirst {operator : BinaryOperator} {assigns : Bool}
    (allowed : operator ∈ arithmeticOperators) (leftTyped : ValueHasType left .float)
    (rightTyped : ValueHasType right .number) :
    Returns .float (Value.binary operator assigns left right) := by
  obtain ⟨first, rfl⟩ := ValueHasType.float_iff.1 leftTyped
  rcases ValueHasType.number_iff.1 rightTyped with ⟨constant, fits, rfl⟩ | ⟨second, rfl⟩
  · rw [Value.binary, Machine.kind, adoptFor_double fits]
    exact returns_binary_doubles allowed
  · exact returns_binary_doubles allowed

theorem returns_binary_floatLast {operator : BinaryOperator} {assigns : Bool}
    (allowed : operator ∈ arithmeticOperators) (leftTyped : ValueHasType left .number)
    (rightTyped : ValueHasType right .float) :
    Returns .float (Value.binary operator assigns left right) := by
  obtain ⟨second, rfl⟩ := ValueHasType.float_iff.1 rightTyped
  rcases ValueHasType.number_iff.1 leftTyped with ⟨constant, fits, rfl⟩ | ⟨first, rfl⟩
  · rw [Value.binary, Machine.kind, adoptFor_double fits]
    · exact returns_binary_doubles allowed
    · simp
  · exact returns_binary_doubles allowed

theorem returns_binary_whole {operator : BinaryOperator} {operation : Int → Int → Int}
    {assigns : Bool} {first second : Int} (computes : wholeOperation? operator = some operation)
    (leftTyped : ValueHasType left (.whole first))
    (rightTyped : ValueHasType right (.whole second)) (fits : FitsWord (operation first second)) :
    Returns (.whole (operation first second)) (Value.binary operator assigns left right) := by
  obtain ⟨-, rfl⟩ := ValueHasType.whole_iff.1 leftTyped
  obtain ⟨-, rfl⟩ := ValueHasType.whole_iff.1 rightTyped
  cases operator <;> cases computes <;> exact ⟨_, rfl, .whole fits⟩

/-- A whole number that meets a double in a comparison becomes one. -/
theorem orderWithPlain_double (first : Float) {value : Int} (fits : FitsWord value) :
    ∃ order, Machine.orderWithPlain (.double first) (.whole value) = .ok order := by
  rw [Machine.orderWithPlain, Machine.kind, adopt_double fits]
  · exact ⟨_, rfl⟩
  all_goals simp

theorem returns_compare {operator : CompareOperator} (leftTyped : ValueHasType left .number)
    (rightTyped : ValueHasType right .number) :
    Returns .test (Value.compare operator left right) := by
  rcases ValueHasType.number_iff.1 leftTyped with ⟨constant, fits, rfl⟩ | ⟨first, rfl⟩ <;>
    rcases ValueHasType.number_iff.1 rightTyped with ⟨other, otherFits, rfl⟩ | ⟨second, rfl⟩
  · exact ⟨_, rfl, .truthTest _⟩
  · obtain ⟨order, ordered⟩ := orderWithPlain_double second fits
    rw [Value.compare, ordered]
    · exact ⟨_, rfl, .flagTest _⟩
    · simp
  · obtain ⟨order, ordered⟩ := orderWithPlain_double first otherFits
    rw [Value.compare, ordered]
    exact ⟨_, rfl, .flagTest _⟩
  · exact ⟨_, rfl, .flagTest _⟩

theorem returns_sign {operator : UnaryOperator} (isSign : operator = .plus ∨ operator = .minus)
    (typed : ValueHasType left .float) : Returns .float (Value.unary operator left) := by
  obtain ⟨first, rfl⟩ := ValueHasType.float_iff.1 typed
  rcases isSign with rfl | rfl <;> exact ⟨_, rfl, .float _⟩

end Operators

/-! ## Functions -/

section Functions

variable {function : Function} {first second third : Float}

theorem returns_one (one : function.arity = 1) :
    Returns .float (Call.apply function [.machine (.double first)]) := by
  cases function <;> first | exact ⟨_, rfl, .float _⟩ | simp [Function.arity] at one

theorem returns_choice {condition : Bool} :
    Returns .float (.ok (if condition then Value.machine (.double first) else
      .machine (.double second))) := by
  cases condition <;> exact ⟨_, rfl, .float _⟩

theorem returns_two (two : function.arity = 2) :
    Returns .float (Call.apply function [.machine (.double first), .machine (.double second)]) := by
  cases function with
  | atan2 | power | hypot => exact ⟨_, rfl, .float _⟩
  | min | max => exact returns_choice
  | _ => simp [Function.arity] at two

theorem returns_clamp :
    Returns .float (Call.clamp (.machine (.double first)) (.machine (.double second))
      (.machine (.double third))) := by
  obtain ⟨isLow, compared⟩ : ∃ isLow, Value.compare .lessEqual (.machine (.double first))
      (.machine (.double second)) = .ok (.machine (.flag isLow)) := ⟨_, rfl⟩
  cases isLow with
  | true =>
      rw [Call.clamp, compared]
      exact ⟨_, rfl, .float _⟩
  | false =>
      rw [Call.clamp, compared]
      exact returns_choice

theorem returns_three (three : function.arity = 3) :
    Returns .float (Call.apply function
      [.machine (.double first), .machine (.double second), .machine (.double third)]) := by
  cases function with
  | clamp => exact returns_clamp
  | _ => simp [Function.arity] at three

theorem ValueHasType.exists_doubles {arguments : List Value}
    (typed : ∀ argument ∈ arguments, ValueHasType argument .float) :
    ∃ numbers : List Float, arguments = numbers.map fun number => .machine (.double number) := by
  induction arguments with
  | nil => exact ⟨[], rfl⟩
  | cons first rest inductionHypothesis =>
      obtain ⟨firstTyped, restTyped⟩ := List.forall_mem_cons.1 typed
      obtain ⟨number, rfl⟩ := float_iff.1 firstTyped
      obtain ⟨numbers, rfl⟩ := inductionHypothesis restTyped
      exact ⟨number :: numbers, rfl⟩

theorem Function.arity_le : function.arity ≤ 3 := by
  cases function <;> simp [arity]

theorem Function.arity_eq_zero_iff : function.arity = 0 ↔ function = .rand := by
  cases function <;> simp [arity]

/-- A function other than that of random numbers, with its ordinary number of floats. -/
theorem returns_apply {numbers : List Float} (notRandom : function ≠ .rand)
    (count : numbers.length = function.arity) :
    Returns .float (Call.apply function (numbers.map fun number => .machine (.double number))) := by
  match numbers with
  | [] => exact absurd (Function.arity_eq_zero_iff.1 count.symm) notRandom
  | [first] => exact returns_one count.symm
  | [first, second] => exact returns_two count.symm
  | [first, second, third] => exact returns_three count.symm
  | first :: second :: third :: fourth :: rest =>
      have atMost := function.arity_le
      simp only [List.length_cons] at count
      omega

/-- A call with the ordinary number of floats gives a float. -/
theorem evaluates_callValue {arguments : List Value} (count : arguments.length = function.arity)
    (typed : ∀ argument ∈ arguments, ValueHasType argument .float) :
    Evaluates .float (callValue (.function function) arguments) := by
  obtain ⟨numbers, rfl⟩ := ValueHasType.exists_doubles typed
  rw [List.length_map] at count
  by_cases isRandom : function = .rand
  · subst isRandom
    obtain rfl := List.length_eq_zero_iff.1 count
    exact fun stream => .float _
  · rw [callValue]
    · exact evaluates_ofExcept (returns_apply isRandom count)
    · exact isRandom

end Functions

end LiveGrid.Script
