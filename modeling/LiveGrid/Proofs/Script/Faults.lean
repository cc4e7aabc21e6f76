import LiveGrid.Proofs.Outcome
import LiveGrid.Script.Evaluate

/-!
Contract: the faults that computing with values can give.

Owns: no operation on values and no function of the table fails for an unbound
name.

Does not own: reading names, which is the only source of such a fault.
-/

namespace LiveGrid.Script

open LiveGrid.Number

/-- A fault has another cause than an unbound name. -/
def Fault.IsComputed (fault : Fault) : Prop := ∀ name, fault ≠ .unboundName name

attribute [local simp] Fault.IsComputed

/-- A result that fails at most by computing. -/
abbrev Computed {Result : Type} (result : Except Fault Result) : Prop :=
  FaultsSatisfy Fault.IsComputed result

/-! ## Plain numbers -/

namespace Plain

@[simp] theorem computed_realOfWhole {value : Int} : Computed (realOfWhole value) := by
  simp [realOfWhole]

@[simp] theorem computed_wholeQuotient {left right : Int} :
    Computed (wholeQuotient left right) := by
  simp [wholeQuotient]

@[simp] theorem computed_realPower {base exponent : Float} :
    Computed (realPower base exponent) := by
  simp [realPower]

@[simp] theorem computed_wholeBinary {operator : BinaryOperator} {left right : Int} :
    Computed (wholeBinary operator left right) := by
  cases operator <;> simp [wholeBinary]

@[simp] theorem computed_realBinary {operator : BinaryOperator} {left right : Float} :
    Computed (realBinary operator left right) := by
  cases operator <;> simp [realBinary]

@[simp] theorem computed_complexPower {base exponent : ComplexDouble} :
    Computed (complexPower base exponent) := by
  simp [complexPower]

@[simp] theorem computed_complexBinary {operator : BinaryOperator}
    {left right : ComplexDouble} : Computed (complexBinary operator left right) := by
  cases operator <;> simp [complexBinary]

@[simp] theorem computed_toComplex {number : Plain} : Computed number.toComplex := by
  cases number <;> simp [toComplex]

@[simp] theorem computed_toReal {number : Plain} : Computed number.toReal := by
  cases number <;> simp [toReal]

@[simp] theorem computed_pair {left right : Plain} : Computed (pair left right) := by
  unfold pair
  split <;> simp

@[simp] theorem computed_binary {operator : BinaryOperator} {mark : String}
    {left right : Plain} : Computed (binary operator mark left right) := by
  simp only [binary, FaultsSatisfy.ite_iff, FaultsSatisfy.bind_iff, FaultsSatisfy.throw_iff]
  refine ⟨by simp, fun _ => ⟨computed_pair, fun numbers _ => ?_⟩⟩
  cases numbers <;> simp

@[simp] theorem computed_unary {operator : UnaryOperator} {operand : Plain} :
    Computed (unary operator operand) := by
  cases operator <;> cases operand <;> simp [unary]

@[simp] theorem computed_compare {operator : CompareOperator} {left right : Plain} :
    Computed (compare operator left right) := by
  cases operator <;> simp [compare]

end Plain

/-! ## Machine numbers -/

namespace Machine

@[simp] theorem computed_wholeResult {operator : BinaryOperator} {width : Nat}
    {left right : Int} : Computed (wholeResult operator width left right) := by
  cases operator <;> simp [wholeResult]

@[simp] theorem computed_doubleResult {operator : BinaryOperator} {left right : Float} :
    Computed (doubleResult operator left right) := by
  cases operator <;> simp [doubleResult]

@[simp] theorem computed_halfResult {operator : BinaryOperator} {left right : Half} :
    Computed (halfResult operator left right) := by
  cases operator <;> simp [halfResult]

@[simp] theorem computed_complexResult {operator : BinaryOperator}
    {left right : ComplexDouble} : Computed (complexResult operator left right) := by
  cases operator <;> simp [complexResult]

@[simp] theorem computed_flagResult {operator : BinaryOperator} {left right : Bool} :
    Computed (flagResult operator left right) := by
  cases operator <;> simp [flagResult]

@[simp] theorem computed_binary {operator : BinaryOperator} {left right : Machine} :
    Computed (binary operator left right) := by
  unfold binary
  split <;> simp

@[simp] theorem computed_wordOfWhole {value : Int} : Computed (wordOfWhole value) := by
  simp [wordOfWhole]

@[simp] theorem computed_unsignedOfWhole {value : Int} :
    Computed (unsignedOfWhole value) := by
  simp [unsignedOfWhole]

@[simp] theorem computed_adoptWhole {kind : Kind} {value : Int} :
    Computed (adoptWhole kind value) := by
  cases kind <;> simp [adoptWhole]

@[simp] theorem computed_adopt {kind : Kind} {number : Plain} :
    Computed (adopt kind number) := by
  unfold adopt
  split
  · simp
  · simp
  · split <;> simp
  · simp

@[simp] theorem computed_adoptFor {operator : BinaryOperator} {kind : Kind}
    {number : Plain} : Computed (adoptFor operator kind number) := by
  unfold adoptFor
  split <;> simp

@[simp] theorem computed_unary {operator : UnaryOperator} {operand : Machine} :
    Computed (unary operator operand) := by
  cases operator <;> cases operand <;> simp [unary]

@[simp] theorem computed_orderWithPlain {left : Machine} {right : Plain} :
    Computed (orderWithPlain left right) := by
  unfold orderWithPlain
  split <;> simp

end Machine

/-! ## Values -/

namespace Value

@[simp] theorem computed_binary {operator : BinaryOperator} {assigns : Bool}
    {left right : Value} : Computed (binary operator assigns left right) := by
  unfold binary
  split <;> simp [functionOperand]

@[simp] theorem computed_unary {operator : UnaryOperator} {operand : Value} :
    Computed (unary operator operand) := by
  unfold unary
  split <;> simp

@[simp] theorem computed_compare {operator : CompareOperator} {left right : Value} :
    Computed (compare operator left right) := by
  unfold compare
  cases equalityOf? operator <;> split <;> simp

@[simp] theorem computed_toCell {value : Value} : Computed value.toCell := by
  unfold toCell
  split <;> simp

end Value

/-! ## Functions of the table -/

namespace Call

@[simp] theorem computed_elementary {function : Elementary} {value : Value} :
    Computed (elementary function value) := by
  unfold elementary
  split <;> simp

@[simp] theorem computed_absolute {value : Value} : Computed (absolute value) := by
  unfold absolute
  split <;> simp

@[simp] theorem computed_wholeRule {name : String} {rule : Float → Float} {value : Value} :
    Computed (wholeRule name rule value) := by
  unfold wholeRule
  split <;> simp

@[simp] theorem computed_floor {value : Value} : Computed (floor value) := computed_wholeRule

@[simp] theorem computed_ceil {value : Value} : Computed (ceil value) := computed_wholeRule

@[simp] theorem computed_sign {value : Value} : Computed (sign value) := by
  unfold sign
  split <;> simp

@[simp] theorem computed_machineOf {number : Plain} : Computed (machineOf number) := by
  cases number <;> simp [machineOf]

/-- A pair of machine numbers, if there is one, is made without reading names. -/
theorem computed_of_machinePair? {left right : Value}
    {pair : Except Fault (Machine × Machine)} (paired : machinePair? left right = some pair) :
    Computed pair := by
  unfold machinePair? at paired
  split at paired <;> cases paired <;> simp

@[simp] theorem computed_power {base exponent : Value} : Computed (power base exponent) := by
  unfold power
  split
  · rename_i pair paired
    simp [computed_of_machinePair? paired]
  · simp

@[simp] theorem computed_floatOfWhole {kind : Machine.Kind} {value : Int} :
    Computed (floatOfWhole kind value) := by
  cases kind <;> simp [floatOfWhole]

theorem computed_of_floatPair? {left right : Value}
    {pair : Except Fault (Machine × Machine)} (paired : floatPair? left right = some pair) :
    Computed pair := by
  unfold floatPair? at paired
  split at paired
  · cases paired
    simp
  · cases paired
    simp
  · cases paired
    simp
  · cases paired
    simp
  · cases paired
    simp
  · exact computed_of_machinePair? paired

@[simp] theorem computed_floatFunction {name : String} {onDouble : Float → Float → Float}
    {onSingle : Float32 → Float32 → Float32} {left right : Value} :
    Computed (floatFunction name onDouble onSingle left right) := by
  unfold floatFunction
  split
  · simp
  · rename_i pair paired
    simp only [FaultsSatisfy.bind_iff]
    refine ⟨computed_of_floatPair? paired, fun numbers _ => ?_⟩
    split <;> simp

@[simp] theorem computed_hypot {left right : Value} : Computed (hypot left right) :=
  computed_floatFunction

@[simp] theorem computed_atan2 {left right : Value} : Computed (atan2 left right) :=
  computed_floatFunction

@[simp] theorem computed_min {left right : Value} : Computed (min left right) := by
  simp [min]

@[simp] theorem computed_max {left right : Value} : Computed (max left right) := by
  simp [max]

@[simp] theorem computed_clamp {value lower upper : Value} :
    Computed (clamp value lower upper) := by
  simp [clamp]

@[simp] theorem computed_fract {value : Value} : Computed (fract value) := by
  simp [fract]

@[simp] theorem computed_places {value : Value} : Computed (places value) := by
  unfold places
  split
  · split <;> simp
  all_goals simp

@[simp] theorem computed_roundMachine {count : Int} {number : Machine} :
    Computed (roundMachine count number) := by
  cases number <;> simp [roundMachine]

@[simp] theorem computed_round {value : Value} {count : Int} :
    Computed (round value count) := by
  unfold round
  split <;> simp

@[simp] theorem computed_one {name : String} {function : Value → Except Fault Value}
    (computed : ∀ value, Computed (function value)) {arguments : List Value} :
    Computed (one name function arguments) := by
  unfold one
  split <;> simp [computed]

@[simp] theorem computed_two {name : String} {function : Value → Value → Except Fault Value}
    (computed : ∀ left right, Computed (function left right)) {arguments : List Value} :
    Computed (two name function arguments) := by
  unfold two
  split <;> simp [computed]

@[simp] theorem wrongCount_ne_unboundName {name other : String} {parameters : List String}
    {given : Nat} : wrongCount name parameters given ≠ .unboundName other := by
  unfold wrongCount
  split <;> simp

@[simp] theorem computed_apply {function : Function} {arguments : List Value} :
    Computed (apply function arguments) := by
  cases function with
  | atan2 | min | max | clamp | fract | round =>
      simp only [apply]
      split <;> simp
  | _ => simp [apply]

end Call

end LiveGrid.Script
