import LiveGrid.Proofs.Script.Literals
import LiveGrid.Proofs.Script.Traces
import LiveGrid.Proofs.Script.TypedValues

/-!
Contract: which operations divide by zero or leave the range of their numbers.

Owns:
- the faults of arithmetic, and the operands for which an operation may have one;
- operations on machine numbers have none, whatever the numbers are;
- a cell that fails by arithmetic does so at an operation that may.

Does not own: the order in which operations are performed.
-/

namespace LiveGrid.Script

open LiveGrid.Number

/-! ## Causes -/

/-- Whether a fault is a quotient by zero or a number out of range. -/
def Fault.IsArithmetic (fault : Fault) : Prop :=
  fault.className = "ZeroDivisionError" ∨ fault.className = "OverflowError"

/-- The whole number that a value is, if its type is one of truth values or whole numbers. -/
def Value.whole? : Value → Option Int
  | .plain number => number.toWhole?
  | .machine number => number.toWhole?
  | .function _ => none

/-- Pairs of values that an operator takes for plain reals or plain complex numbers: two plain
numbers that are not both whole, and a double after a plain complex number. -/
inductive Value.MeetPlainly : Value → Value → Prop where
  | left {first second : Plain} (notWhole : first.toWhole? = none) :
      MeetPlainly (.plain first) (.plain second)
  | right {first second : Plain} (notWhole : second.toWhole? = none) :
      MeetPlainly (.plain first) (.plain second)
  | complex {first : ComplexDouble} {second : Float} :
      MeetPlainly (.plain (.complex first)) (.machine (.double second))

/-- Whether a value is a plain whole number beyond a signed word. -/
def Value.IsWide (value : Value) : Prop :=
  ∃ number, value = .plain (.whole number) ∧ ¬ FitsWord number

/-- The values that an operation works on. -/
def Operation.operands : Operation → List Value
  | .unary _ operand => [operand]
  | .binary _ _ left right => [left, right]
  | .compare _ left right => [left, right]
  | .call _ arguments => arguments
  | .toCell value => [value]

/-- Why an operation may fail by arithmetic. -/
inductive Operation.MayFail : Operation → Prop where
  /-- Truth values and whole numbers of any family, among themselves. -/
  | whole {operation : Operation}
      (each : ∀ operand ∈ operation.operands, operand.whole?.isSome = true) : MayFail operation
  /-- A plain real or complex number among plain numbers. -/
  | plain {operator : BinaryOperator} {assigns : Bool} {left right : Value}
      (meet : left.MeetPlainly right) : MayFail (.binary operator assigns left right)
  /-- A whole number that has to become a machine number and cannot. -/
  | wide {operation : Operation} {operand : Value} (member : operand ∈ operation.operands)
      (isWide : operand.IsWide) : MayFail operation
  /-- Rounding to a number of places that does not fit. -/
  | places {value count : Value} {more : List Value} {number : Int}
      (asked : count.whole? = some number)
      (outside : number < -(twoTo 31 : Int) ∨ (twoTo 31 : Int) ≤ number) :
      MayFail (.call (.function .round) (value :: count :: more))

/-- Whether a fault has another cause. -/
def Fault.IsHarmless (fault : Fault) : Prop := ¬ fault.IsArithmetic

/-- A result that does not fail by arithmetic. -/
abbrev Harmless {Result : Type} (result : Except Fault Result) : Prop :=
  FaultsSatisfy Fault.IsHarmless result

attribute [local simp] Fault.IsHarmless Fault.IsArithmetic Fault.className

/-! ## Machine numbers -/

namespace Machine

@[simp] theorem harmless_wholeResult {operator : BinaryOperator} {width : Nat}
    {left right : Int} : Harmless (wholeResult operator width left right) := by
  cases operator <;> simp [wholeResult]

@[simp] theorem harmless_doubleResult {operator : BinaryOperator} {left right : Float} :
    Harmless (doubleResult operator left right) := by
  cases operator <;> simp [doubleResult]

@[simp] theorem harmless_halfResult {operator : BinaryOperator} {left right : Half} :
    Harmless (halfResult operator left right) := by
  cases operator <;> simp [halfResult]

@[simp] theorem harmless_complexResult {operator : BinaryOperator}
    {left right : ComplexDouble} : Harmless (complexResult operator left right) := by
  cases operator <;> simp [complexResult]

@[simp] theorem harmless_flagResult {operator : BinaryOperator} {left right : Bool} :
    Harmless (flagResult operator left right) := by
  cases operator <;> simp [flagResult]

/-- An operation on machine numbers never fails by arithmetic. -/
@[simp] theorem harmless_binary {operator : BinaryOperator} {left right : Machine} :
    Harmless (binary operator left right) := by
  unfold binary
  split <;> simp

@[simp] theorem harmless_unary {operator : UnaryOperator} {operand : Machine} :
    Harmless (unary operator operand) := by
  cases operator <;> cases operand <;> simp [unary]

/-- Whether a plain number is no whole number, or fits in a word and meets a kind that takes
words. -/
def Kind.Takes (kind : Kind) (number : Plain) : Prop :=
  ∀ whole, number = .whole whole → FitsWord whole ∧ kind ≠ .int8 ∧ kind ≠ .uint64

theorem harmless_adopt {kind : Kind} {number : Plain} (takes : kind.Takes number) :
    Harmless (adopt kind number) := by
  cases number with
  | whole value =>
      obtain ⟨fits, narrow, signed⟩ := takes value rfl
      have word : wordOfWhole value = .ok (.int64 (Int64.ofInt value)) := if_pos fits
      cases kind <;> simp_all [adopt, adoptWhole, realOfWhole_eq_ok fits]
  | real value => cases kind <;> simp [adopt]
  | _ => simp [adopt]

theorem harmless_adoptFor {operator : BinaryOperator} {kind : Kind} {number : Plain}
    (takes : kind.Takes number) : Harmless (adoptFor operator kind number) := by
  unfold adoptFor
  split
  case h_5 => exact harmless_adopt takes
  all_goals simp [realOfWhole_eq_ok (takes _ rfl).1]

/-- Whole numbers of fixed width compare with whole numbers of any size. -/
theorem harmless_orderWithPlain {left : Machine} {right : Plain}
    (fits : ∀ whole, right = .whole whole → FitsWord whole) :
    Harmless (orderWithPlain left right) := by
  unfold orderWithPlain
  split
  case h_4 notInt8 notInt64 notUInt64 =>
    refine FaultsSatisfy.map_iff.2 (harmless_adopt fun whole same => ⟨fits whole same, ?_, ?_⟩)
    · rintro isInt8
      cases left <;> simp_all [kind]
    · rintro isUInt64
      cases left <;> simp_all [kind]
  all_goals simp

end Machine

/-! ## Plain numbers -/

namespace Plain

@[simp] theorem harmless_unary {operator : UnaryOperator} {operand : Plain} :
    Harmless (unary operator operand) := by
  cases operator <;> cases operand <;> simp [unary]

@[simp] theorem harmless_compare {operator : CompareOperator} {left right : Plain} :
    Harmless (compare operator left right) := by
  cases operator <;> simp [compare]

end Plain

/-! ## Values -/

namespace Value

variable {left right : Value}

theorem fits_of_not_isWide {number : Plain} (notWide : ¬ (plain number).IsWide) :
    ∀ whole, number = .whole whole → FitsWord whole := by
  rintro whole rfl
  exact Decidable.byContradiction fun tooLarge => notWide ⟨whole, rfl, tooLarge⟩

/-- A machine number of a kind that takes no word is a whole number itself. -/
theorem takes_of_not_isWide {first : Machine} {second : Plain} (notWide : ¬ (plain second).IsWide)
    (mixed : ¬ ((machine first).whole?.isSome = true ∧ (plain second).whole?.isSome = true)) :
    first.kind.Takes second := by
  rintro whole rfl
  refine ⟨fits_of_not_isWide notWide whole rfl, ?_, ?_⟩
  · rintro isInt8
    cases first <;> simp_all [Machine.kind, whole?, Machine.toWhole?, Plain.toWhole?]
  · rintro isUInt64
    cases first <;> simp_all [Machine.kind, whole?, Machine.toWhole?, Plain.toWhole?]

theorem harmless_unary {operator : UnaryOperator} {operand : Value} :
    Harmless (unary operator operand) := by
  unfold unary
  split <;> simp

theorem harmless_compare {operator : CompareOperator} (leftNotWide : ¬ left.IsWide)
    (rightNotWide : ¬ right.IsWide) : Harmless (compare operator left right) := by
  unfold compare
  split
  case h_3 first second =>
    exact FaultsSatisfy.map_iff.2
      (Machine.harmless_orderWithPlain (fits_of_not_isWide rightNotWide))
  case h_5 first second _ =>
    exact FaultsSatisfy.map_iff.2
      (Machine.harmless_orderWithPlain (fits_of_not_isWide leftNotWide))
  all_goals cases equalityOf? operator <;> simp

/-- An operator fails by arithmetic only between whole numbers, with a plain real among plain
numbers, or beside a whole number beyond a signed word. -/
theorem harmless_binary {operator : BinaryOperator} {assigns : Bool}
    (notPlain : ¬ left.MeetPlainly right) (leftNotWide : ¬ left.IsWide)
    (rightNotWide : ¬ right.IsWide)
    (mixed : ¬ (left.whole?.isSome = true ∧ right.whole?.isSome = true)) :
    Harmless (binary operator assigns left right) := by
  unfold binary
  split
  case h_1 first second =>
    have firstWhole : first.toWhole?.isSome = true :=
      Option.isSome_iff_ne_none.2 fun notWhole => notPlain (.left notWhole)
    have secondWhole : second.toWhole?.isSome = true :=
      Option.isSome_iff_ne_none.2 fun notWhole => notPlain (.right notWhole)
    exact absurd ⟨firstWhole, secondWhole⟩ mixed
  case h_2 first second => simp
  case h_3 first second =>
    have takes := takes_of_not_isWide rightNotWide mixed
    exact FaultsSatisfy.bind_iff.2 ⟨Machine.harmless_adoptFor takes, fun adopted _ => by simp⟩
  case h_4 first second => exact absurd .complex notPlain
  case h_5 first second _ =>
    have takes := takes_of_not_isWide leftNotWide fun both => mixed both.symm
    exact FaultsSatisfy.bind_iff.2 ⟨Machine.harmless_adoptFor takes, fun adopted _ => by simp⟩
  case h_6 => simp [functionOperand]

theorem harmless_toCell {value : Value} (notWhole : ¬ value.whole?.isSome = true) :
    Harmless value.toCell := by
  cases value with
  | plain number =>
      cases number with
      | truth value | whole value => exact absurd rfl notWhole
      | real value | complex value => simp [toCell, Plain.toReal]
  | machine number => simp [toCell]
  | function own => simp [toCell]

end Value

/-! ## Functions of the table -/

namespace Call

variable {left right : Value}

@[simp] theorem harmless_elementary {function : Elementary} {value : Value} :
    Harmless (elementary function value) := by
  unfold elementary
  split <;> simp

@[simp] theorem harmless_absolute {value : Value} : Harmless (absolute value) := by
  unfold absolute
  split <;> simp

@[simp] theorem harmless_wholeRule {name : String} {rule : Float → Float} {value : Value} :
    Harmless (wholeRule name rule value) := by
  unfold wholeRule
  split <;> simp

@[simp] theorem harmless_floor {value : Value} : Harmless (floor value) := harmless_wholeRule

@[simp] theorem harmless_ceil {value : Value} : Harmless (ceil value) := harmless_wholeRule

@[simp] theorem harmless_sign {value : Value} : Harmless (sign value) := by
  unfold sign
  split <;> simp

theorem harmless_min (leftNotWide : ¬ left.IsWide) (rightNotWide : ¬ right.IsWide) :
    Harmless (min left right) := by
  simp [min, Value.harmless_compare leftNotWide rightNotWide]

theorem harmless_max (leftNotWide : ¬ left.IsWide) (rightNotWide : ¬ right.IsWide) :
    Harmless (max left right) := by
  simp [max, Value.harmless_compare leftNotWide rightNotWide]

theorem harmless_clamp {value : Value} (valueNotWide : ¬ value.IsWide)
    (leftNotWide : ¬ left.IsWide) (rightNotWide : ¬ right.IsWide) :
    Harmless (clamp value left right) := by
  simp [clamp, Value.harmless_compare valueNotWide leftNotWide,
    Value.harmless_compare valueNotWide rightNotWide]

theorem harmless_machineOf {number : Plain} (notWide : ¬ (Value.plain number).IsWide) :
    Harmless (machineOf number) := by
  cases number with
  | whole value =>
      have word : Machine.wordOfWhole value = .ok (.int64 (Int64.ofInt value)) :=
        if_pos (Value.fits_of_not_isWide notWide value rfl)
      simp [machineOf, word]
  | _ => simp [machineOf]

theorem kind_of_machineOf {number : Plain} {own : Machine} (becomes : machineOf number = .ok own) :
    own.kind ≠ .int8 ∧ own.kind ≠ .uint64 := by
  cases number with
  | whole value =>
      simp only [machineOf, Machine.wordOfWhole] at becomes
      split at becomes <;> cases becomes
      simp [Machine.kind]
  | _ =>
      cases becomes
      simp [Machine.kind]

/-- Two values become machine numbers, unless both are whole numbers or one holds too many
digits. -/
theorem harmless_of_machinePair? {pair : Except Fault (Machine × Machine)}
    (paired : machinePair? left right = some pair) (leftNotWide : ¬ left.IsWide)
    (rightNotWide : ¬ right.IsWide)
    (mixed : ¬ (left.whole?.isSome = true ∧ right.whole?.isSome = true)) : Harmless pair := by
  unfold machinePair? at paired
  split at paired <;> cases paired
  case h_3.refl => simp
  case h_4.refl first second =>
    exact FaultsSatisfy.map_iff.2 (Machine.harmless_adopt
      (Value.takes_of_not_isWide rightNotWide mixed))
  case h_5.refl first second =>
    exact FaultsSatisfy.map_iff.2 (Machine.harmless_adopt
      (Value.takes_of_not_isWide leftNotWide fun both => mixed both.symm))
  case h_6.refl first whole =>
    refine FaultsSatisfy.bind_iff.2 ⟨harmless_machineOf leftNotWide, fun own becomes => ?_⟩
    have takes : own.kind.Takes (.whole whole) := by
      rintro _ ⟨rfl⟩
      exact ⟨Value.fits_of_not_isWide rightNotWide whole rfl, kind_of_machineOf becomes⟩
    have adopts : Harmless (Machine.adoptWhole own.kind whole) := Machine.harmless_adopt takes
    simp [adopts]
  case h_7.refl whole second _ =>
    refine FaultsSatisfy.bind_iff.2 ⟨harmless_machineOf rightNotWide, fun own becomes => ?_⟩
    have takes : own.kind.Takes (.whole whole) := by
      rintro _ ⟨rfl⟩
      exact ⟨Value.fits_of_not_isWide leftNotWide whole rfl, kind_of_machineOf becomes⟩
    have adopts : Harmless (Machine.adoptWhole own.kind whole) := Machine.harmless_adopt takes
    simp [adopts]
  case h_8.refl first second _ _ =>
    simp [harmless_machineOf leftNotWide, harmless_machineOf rightNotWide]

theorem harmless_power (leftNotWide : ¬ left.IsWide) (rightNotWide : ¬ right.IsWide)
    (mixed : ¬ (left.whole?.isSome = true ∧ right.whole?.isSome = true)) :
    Harmless (power left right) := by
  unfold power
  split
  · rename_i pair paired
    simp [harmless_of_machinePair? paired leftNotWide rightNotWide mixed]
  · simp

theorem harmless_floatOfWhole {kind : Machine.Kind} {value : Int} (fits : FitsWord value) :
    Harmless (floatOfWhole kind value) := by
  cases kind <;> simp [floatOfWhole, realOfWhole_eq_ok fits]

theorem harmless_of_floatPair? {pair : Except Fault (Machine × Machine)}
    (paired : floatPair? left right = some pair) (leftNotWide : ¬ left.IsWide)
    (rightNotWide : ¬ right.IsWide)
    (mixed : ¬ (left.whole?.isSome = true ∧ right.whole?.isSome = true)) : Harmless pair := by
  have leftFits {whole : Int} (same : left = .plain (.whole whole)) : FitsWord whole :=
    Value.fits_of_not_isWide (same ▸ leftNotWide) whole rfl
  have rightFits {whole : Int} (same : right = .plain (.whole whole)) : FitsWord whole :=
    Value.fits_of_not_isWide (same ▸ rightNotWide) whole rfl
  unfold floatPair? at paired
  split at paired
  · cases paired
    simp [realOfWhole_eq_ok (leftFits rfl), realOfWhole_eq_ok (rightFits rfl)]
  · cases paired
    simp [harmless_floatOfWhole (rightFits rfl)]
  · cases paired
    simp [harmless_floatOfWhole (leftFits rfl)]
  · cases paired
    simp [harmless_machineOf leftNotWide, harmless_floatOfWhole (rightFits rfl)]
  · cases paired
    simp [harmless_machineOf rightNotWide, harmless_floatOfWhole (leftFits rfl)]
  · exact harmless_of_machinePair? paired leftNotWide rightNotWide mixed

theorem harmless_floatFunction {name : String} {onDouble : Float → Float → Float}
    {onSingle : Float32 → Float32 → Float32} (leftNotWide : ¬ left.IsWide)
    (rightNotWide : ¬ right.IsWide)
    (mixed : ¬ (left.whole?.isSome = true ∧ right.whole?.isSome = true)) :
    Harmless (floatFunction name onDouble onSingle left right) := by
  unfold floatFunction
  split
  · simp
  · rename_i pair paired
    refine FaultsSatisfy.bind_iff.2
      ⟨harmless_of_floatPair? paired leftNotWide rightNotWide mixed, fun numbers _ => ?_⟩
    obtain ⟨first, second⟩ := numbers
    dsimp only
    split <;> simp

/-- The part of a number above its floor is a difference of machine numbers. -/
theorem harmless_fract {value : Value} (notWhole : ¬ value.whole?.isSome = true) :
    Harmless (fract value) := by
  refine FaultsSatisfy.bind_iff.2 ⟨harmless_floor, fun whole floored => ?_⟩
  cases value with
  | plain number =>
      cases number with
      | truth value | whole value => exact absurd rfl notWhole
      | real value =>
          cases floored
          rw [Value.binary]
          · refine FaultsSatisfy.bind_iff.2 ⟨Machine.harmless_adoptFor ?_, fun adopted _ => by simp⟩
            intro whole same
            cases same
          · simp
      | complex value => cases floored
  | machine number =>
      cases number <;> cases floored <;> simp [Value.binary]
  | function own => cases floored

/-- The number of places is refused only if it does not fit. -/
theorem harmless_places {count : Value}
    (fits : ∀ number, count.whole? = some number →
      -(twoTo 31 : Int) ≤ number ∧ number < twoTo 31) : Harmless (places count) := by
  have halfWord : (twoTo 31 : Int) = 2147483648 := rfl
  have word : (twoTo 63 : Int) = 9223372036854775808 := rfl
  have inRange {number : Int} (asked : count.whole? = some number) :
      Harmless (if number < -(twoTo 63 : Int) ∨ (twoTo 63 : Int) ≤ number then
          (.error .wordTooLarge : Except Fault Int)
        else if (twoTo 31 : Int) ≤ number then .error .countTooLarge
        else if number < -(twoTo 31 : Int) then .error .countTooSmall
        else .ok number) := by
    obtain ⟨least, most⟩ := fits number asked
    rw [if_neg (by omega), if_neg (by omega), if_neg (by omega)]
    simp
  cases count with
  | plain number =>
      cases number with
      | truth value => exact inRange rfl
      | whole value => exact inRange rfl
      | _ => simp [places, Plain.toWhole?]
  | machine number =>
      cases number with
      | int8 value => exact inRange rfl
      | int64 value => exact inRange rfl
      | uint64 value => exact inRange rfl
      | _ => simp [places]
  | function own => simp [places]

@[simp] theorem harmless_roundMachine {count : Int} {number : Machine} :
    Harmless (roundMachine count number) := by
  cases number <;> simp [roundMachine]

theorem isWide_of_ofValue {value : Value} {number : Int}
    (becomes : Argument.ofValue value = .wideWhole number) : value.IsWide := by
  unfold Argument.ofValue at becomes
  split at becomes
  case h_2 whole =>
    split at becomes
    · cases becomes
    · rename_i tooLarge
      exact ⟨whole, rfl, tooLarge⟩
  all_goals cases becomes

theorem harmless_round {value : Value} {count : Int} (notWide : ¬ value.IsWide) :
    Harmless (round value count) := by
  unfold round
  split
  · simp
  · rename_i number becomes
    exact absurd (isWide_of_ofValue becomes) notWide
  · split <;> simp

theorem harmless_wrongCount {Result : Type} {name : String} {parameters : List String}
    {given : Nat} :
    Harmless (.error (wrongCount name parameters given) : Except Fault Result) := by
  refine FaultsSatisfy.error_iff.2 ?_
  unfold wrongCount
  split <;> simp

theorem harmless_one {name : String} {function : Value → Except Fault Value}
    {arguments : List Value} (each : ∀ value, arguments = [value] → Harmless (function value)) :
    Harmless (one name function arguments) := by
  unfold one
  split
  · exact each _ rfl
  all_goals simp

theorem harmless_two {name : String} {function : Value → Value → Except Fault Value}
    {arguments : List Value}
    (each : ∀ left right, arguments = [left, right] → Harmless (function left right)) :
    Harmless (two name function arguments) := by
  unfold two
  split
  · exact each _ _ rfl
  all_goals simp

/-- A call fails by arithmetic only if all of its arguments are whole numbers, if one of them is too
large for a machine number, or if it rounds to a number of places that does not fit. -/
theorem harmless_apply {function : Function} {arguments : List Value}
    (mixed : ¬ ∀ argument ∈ arguments, argument.whole?.isSome = true)
    (notWide : ∀ argument ∈ arguments, ¬ argument.IsWide)
    (fits : function = .round → ∀ value count more, arguments = value :: count :: more →
      ∀ number, count.whole? = some number →
        -(twoTo 31 : Int) ≤ number ∧ number < twoTo 31) : Harmless (apply function arguments) := by
  have pairMixed {left right : Value} (same : arguments = [left, right]) :
      ¬ (left.whole?.isSome = true ∧ right.whole?.isSome = true) := by
    rintro ⟨leftWhole, rightWhole⟩
    rw [same] at mixed
    exact mixed (List.forall_mem_cons.2 ⟨leftWhole, List.forall_mem_singleton.2 rightWhole⟩)
  have firstNotWide {first : Value} {rest : List Value} (same : arguments = first :: rest) :
      ¬ first.IsWide := notWide first (same ▸ List.mem_cons_self)
  have secondNotWide {first second : Value} {rest : List Value}
      (same : arguments = first :: second :: rest) : ¬ second.IsWide :=
    notWide second (same ▸ List.mem_cons_of_mem _ List.mem_cons_self)
  cases function with
  | atan2 =>
      simp only [apply]
      split
      · exact harmless_floatFunction (firstNotWide rfl) (secondNotWide rfl) (pairMixed rfl)
      · exact harmless_wrongCount
  | min =>
      simp only [apply]
      split
      · exact harmless_min (firstNotWide rfl) (secondNotWide rfl)
      · exact harmless_wrongCount
  | max =>
      simp only [apply]
      split
      · exact harmless_max (firstNotWide rfl) (secondNotWide rfl)
      · exact harmless_wrongCount
  | clamp =>
      simp only [apply]
      split
      · rename_i value lower upper
        exact harmless_clamp (firstNotWide rfl) (secondNotWide rfl) (notWide upper (by simp))
      · exact harmless_wrongCount
  | rand => exact harmless_wrongCount
  | fract =>
      simp only [apply]
      split
      · rename_i value
        exact harmless_fract fun isWhole => mixed (List.forall_mem_singleton.2 isWhole)
      · exact harmless_wrongCount
  | round =>
      simp only [apply]
      split
      · simp
      · exact harmless_round (firstNotWide rfl)
      · rename_i value count
        refine FaultsSatisfy.bind_iff.2 ⟨harmless_places (fits rfl value count [] rfl), ?_⟩
        exact fun _ _ => harmless_round (firstNotWide rfl)
      · rename_i value count last
        refine FaultsSatisfy.bind_iff.2 ⟨harmless_places (fits rfl value count [last] rfl), ?_⟩
        simp
      · simp
  | power =>
      exact harmless_two fun left right same =>
        harmless_power (firstNotWide same) (secondNotWide same) (pairMixed same)
  | hypot =>
      exact harmless_two fun left right same =>
        harmless_floatFunction (firstNotWide same) (secondNotWide same) (pairMixed same)
  | absolute => exact harmless_one fun _ _ => harmless_absolute
  | floor => exact harmless_one fun _ _ => harmless_floor
  | ceil => exact harmless_one fun _ _ => harmless_ceil
  | sign => exact harmless_one fun _ _ => harmless_sign
  | elementary own => exact harmless_one fun _ _ => harmless_elementary

end Call

/-! ## Operations -/

theorem harmless_callValue {callee : Value} {arguments : List Value} {stream : RandomStream}
    (harmless : ∀ function, callee = .function function →
      Harmless (Call.apply function arguments)) :
    Harmless (callValue callee arguments stream).1 := by
  unfold callValue
  split
  · split
    · simp [drawRandom]
    · exact harmless _ rfl
  · exact harmless _ rfl
  · exact FaultsSatisfy.error_iff.2 (by simp)

theorem forall_mem_pair {property : Value → Prop} {first second : Value} :
    (∀ value ∈ [first, second], property value) ↔ property first ∧ property second := by
  rw [List.forall_mem_cons, List.forall_mem_singleton]

namespace Operation

theorem mayFail_of_raises_binary {operator : BinaryOperator} {assigns : Bool} {left right : Value}
    {fault : Fault} (failed : Value.binary operator assigns left right = .error fault)
    (arithmetic : fault.IsArithmetic)
    (mixed : ¬ ∀ operand ∈ [left, right], operand.whole?.isSome = true)
    (notWide : ∀ operand ∈ [left, right], ¬ operand.IsWide) :
    MayFail (.binary operator assigns left right) := by
  by_cases meet : left.MeetPlainly right
  · exact .plain meet
  · obtain ⟨leftNotWide, rightNotWide⟩ := forall_mem_pair.1 notWide
    rw [forall_mem_pair] at mixed
    exact absurd arithmetic
      (Value.harmless_binary meet leftNotWide rightNotWide mixed fault failed)

theorem mayFail_of_raises_call {callee : Value} {arguments : List Value} {stream : RandomStream}
    {fault : Fault} (failed : (callValue callee arguments stream).1 = .error fault)
    (arithmetic : fault.IsArithmetic)
    (mixed : ¬ ∀ argument ∈ arguments, argument.whole?.isSome = true)
    (notWide : ∀ argument ∈ arguments, ¬ argument.IsWide) : MayFail (.call callee arguments) := by
  by_cases outside : ∃ value count more number, callee = .function .round ∧
      arguments = value :: count :: more ∧ count.whole? = some number ∧
        (number < -(twoTo 31 : Int) ∨ (twoTo 31 : Int) ≤ number)
  · obtain ⟨value, count, more, number, rfl, rfl, asked, outside⟩ := outside
    exact .places asked outside
  · refine absurd arithmetic (harmless_callValue (fun function same => ?_) fault failed)
    refine Call.harmless_apply mixed notWide ?_
    rintro rfl value count more rfl number asked
    have inside : ¬ (number < -(twoTo 31 : Int) ∨ (twoTo 31 : Int) ≤ number) :=
      fun isOutside => outside ⟨value, count, more, number, same, rfl, asked, isOutside⟩
    omega

/-- An operation that fails by arithmetic has a reason to. -/
theorem mayFail_of_raises {operation : Operation} {fault : Fault}
    (raises : operation.Raises fault) (arithmetic : fault.IsArithmetic) : operation.MayFail := by
  obtain ⟨stream, failed⟩ := raises
  by_cases isWhole : ∀ operand ∈ operation.operands, operand.whole?.isSome = true
  · exact .whole isWhole
  by_cases isWide : ∃ operand ∈ operation.operands, operand.IsWide
  · obtain ⟨operand, member, isWide⟩ := isWide
    exact .wide member isWide
  have notWide : ∀ operand ∈ operation.operands, ¬ operand.IsWide :=
    fun operand member wide => isWide ⟨operand, member, wide⟩
  cases operation with
  | unary operator operand => exact absurd arithmetic (Value.harmless_unary fault failed)
  | binary operator assigns left right =>
      exact mayFail_of_raises_binary failed arithmetic isWhole notWide
  | compare operator left right =>
      obtain ⟨leftNotWide, rightNotWide⟩ := forall_mem_pair.1 notWide
      exact absurd arithmetic (Value.harmless_compare leftNotWide rightNotWide fault failed)
  | call callee arguments => exact mayFail_of_raises_call failed arithmetic isWhole notWide
  | toCell value =>
      have notWhole : ¬ value.whole?.isSome = true :=
        fun whole => isWhole (List.forall_mem_singleton.2 whole)
      have harmless : Harmless (value.toCell.map fun number => Value.machine (.double number)) :=
        FaultsSatisfy.map_iff.2 (Value.harmless_toCell notWhole)
      exact absurd arithmetic (harmless fault failed)

end Operation

/-! ## Cells -/

variable {source : String} {script : Script} {inputs : Inputs} {stream : RandomStream}
  {fault : Fault}

/-- A cell that fails by arithmetic does so at its last operation: one on whole numbers alone, one
with a plain real among plain numbers, or one that asks for a number that does not fit. -/
theorem arithmetic_fault_of_evaluate (compiled : compile source = .ok script)
    (failed : (script.evaluate inputs stream).1 = .error fault)
    (arithmetic : fault.className = "ZeroDivisionError" ∨ fault.className = "OverflowError") :
    ∃ tree operation, Grammar.parse? source = some tree ∧
      (operations tree inputs stream).getLast? = some operation ∧ operation.Raises fault ∧
        operation.MayFail := by
  obtain ⟨tree, parsed, formed, -, rfl⟩ := compile_eq_ok_iff.1 compiled
  rw [evaluate_ofTree source formed] at failed
  have isRaised : fault.IsRaised := by
    rcases arithmetic with zeroDivision | overflow
    · rw [Fault.IsRaised, zeroDivision]
      decide
    · rw [Fault.IsRaised, overflow]
      decide
  obtain ⟨operation, isLast, raises⟩ :=
    exists_last_operation failed isRaised
  exact ⟨tree, operation, parsed, isLast, raises, operation.mayFail_of_raises raises arithmetic⟩

theorem parse?_half_by_zero :
    Grammar.parse? "1/2/0" = some [.expression (.binary .divide
      (.binary .divide (.literal (.whole 1)) (.literal (.whole 2))) (.literal (.whole 0)))] :=
  parse?_eq_some_of_sameTree (by decide +kernel)

theorem compile_half_by_zero :
    ∃ script, compile "1/2/0" = .ok script ∧
      (script.evaluate ⟨0, 0, 0, 0, 0, 0⟩ ⟨fun _ => 0, 0⟩).1 = .error .realQuotientByZero :=
  ⟨_, compile_eq_ok_of_parse? parse?_half_by_zero (by decide +kernel), by decide +kernel⟩

/-- The half that is divided by zero comes from whole numbers, and the fault does not. -/
theorem arithmetic_fault_of_half :
    ∃ script, compile "1/2/0" = .ok script ∧
      (script.evaluate ⟨0, 0, 0, 0, 0, 0⟩ ⟨fun _ => 0, 0⟩).1 = .error .realQuotientByZero ∧
        ∃ tree operation, Grammar.parse? "1/2/0" = some tree ∧
          (operations tree ⟨0, 0, 0, 0, 0, 0⟩ ⟨fun _ => 0, 0⟩).getLast? = some operation ∧
            operation.Raises .realQuotientByZero ∧ operation.MayFail := by
  obtain ⟨script, compiled, failed⟩ := compile_half_by_zero
  exact ⟨script, compiled, failed, arithmetic_fault_of_evaluate compiled failed (.inl rfl)⟩

/-- The quotient by zero that fails is one of a real. -/
theorem evaluate_half_by_zero :
    ∃ script tree real, compile "1/2/0" = .ok script ∧ Grammar.parse? "1/2/0" = some tree ∧
      (operations tree ⟨0, 0, 0, 0, 0, 0⟩ ⟨fun _ => 0, 0⟩).getLast? =
        some (.binary .divide false (.plain (.real real)) (.plain (.whole 0))) ∧
      (script.evaluate ⟨0, 0, 0, 0, 0, 0⟩ ⟨fun _ => 0, 0⟩).1 = .error .realQuotientByZero := by
  obtain ⟨script, compiled, failed⟩ := compile_half_by_zero
  exact ⟨script, _, _, compiled, parse?_half_by_zero, rfl, failed⟩

end LiveGrid.Script
