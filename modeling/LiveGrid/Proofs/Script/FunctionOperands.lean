import LiveGrid.Proofs.Script.FloatFaults

/-!
Contract: operations that have a function among their operands.

Owns:
- the operations that give a result beside a function: a denial, a test for equality, and a limit
  whose upper bound is not asked;
- every other operation fails, whatever its other operands are;
- an evaluation that succeeds has performed no operation that fails.

Does not own: where in a script a function stands.
-/

namespace LiveGrid.Script

/-- Whether there is no result. -/
def Fails {Result : Type} (result : Except Fault Result) : Prop := ∃ fault, result = .error fault

section Fails

variable {First Second : Type} {result : Except Fault First}

@[simp] theorem fails_error {fault : Fault} : Fails (.error fault : Except Fault First) :=
  ⟨fault, rfl⟩

@[simp] theorem not_fails_ok {value : First} : ¬ Fails (.ok value : Except Fault First) := by
  rintro ⟨fault, failed⟩
  cases failed

theorem Fails.bind (fails : Fails result) (next : First → Except Fault Second) :
    Fails (result >>= next) := by
  obtain ⟨fault, rfl⟩ := fails
  exact ⟨fault, rfl⟩

/-- A chain fails if its second step does for every result of the first. -/
theorem fails_bind_of_forall {next : First → Except Fault Second}
    (each : ∀ value, Fails (next value)) : Fails (result >>= next) := by
  cases result with
  | ok value => exact each value
  | error fault => exact fails_error

end Fails

/-! ## Functions among operands -/

/-- Whether a value is a function. -/
def Value.isFunction : Value → Bool
  | .function _ => true
  | _ => false

theorem Value.isFunction_iff {value : Value} :
    value.isFunction = true ↔ ∃ own, value = .function own := by
  cases value <;> simp [isFunction]

/-- Whether an operation may give a result although there is a function among its operands. -/
def Operation.Tolerates : Operation → Prop
  | .unary operator _ => operator = .not
  | .compare operator _ _ => operator = .equal ∨ operator = .notEqual
  | .call (.function .clamp) [value, lower, _] =>
      value.isFunction = false ∧ lower.isFunction = false
  | _ => False

theorem Operation.tolerates_call_iff {callee : Value} {arguments : List Value} :
    (Operation.call callee arguments).Tolerates ↔
      ∃ value lower upper, callee = .function .clamp ∧ arguments = [value, lower, upper] ∧
        value.isFunction = false ∧ lower.isFunction = false := by
  constructor
  · intro tolerates
    unfold Tolerates at tolerates
    split at tolerates
    case h_3 value lower upper isCall =>
      cases isCall
      exact ⟨value, lower, upper, rfl, rfl, tolerates⟩
    case h_4 => exact tolerates.elim
    all_goals contradiction
  · rintro ⟨value, lower, upper, rfl, rfl, neither⟩
    exact neither

namespace Value

variable {left right : Value}

theorem fails_unary {operator : UnaryOperator} {own : Function} (notDenial : operator ≠ .not) :
    Fails (unary operator (.function own)) := by
  cases operator with
  | not => exact absurd rfl notDenial
  | _ => exact fails_error

theorem fails_binary {operator : BinaryOperator} {assigns : Bool}
    (either : left.isFunction = true ∨ right.isFunction = true) :
    Fails (binary operator assigns left right) := by
  unfold binary
  split
  case h_6 => exact fails_error
  all_goals simp [isFunction] at either

/-- A function has no order. -/
theorem fails_compare {operator : CompareOperator} (noEquality : equalityOf? operator = none)
    (either : left.isFunction = true ∨ right.isFunction = true) :
    Fails (compare operator left right) := by
  unfold compare
  rw [noEquality]
  split
  case h_1 | h_2 | h_3 | h_4 | h_5 => simp [isFunction] at either
  all_goals exact fails_error

end Value

namespace Call

variable {left right : Value}

theorem machinePair?_eq_none (either : left.isFunction = true ∨ right.isFunction = true) :
    machinePair? left right = none := by
  unfold machinePair?
  split
  case h_1 | h_2 => rfl
  all_goals simp [Value.isFunction] at either

theorem floatPair?_eq_none (either : left.isFunction = true ∨ right.isFunction = true) :
    floatPair? left right = none := by
  unfold floatPair?
  split
  case h_6 => exact machinePair?_eq_none either
  all_goals simp [Value.isFunction] at either

theorem fails_power (either : left.isFunction = true ∨ right.isFunction = true) :
    Fails (power left right) := by
  rw [power, machinePair?_eq_none either]
  exact fails_error

theorem fails_floatFunction {name : String} {onDouble : Float → Float → Float}
    {onSingle : Float32 → Float32 → Float32}
    (either : left.isFunction = true ∨ right.isFunction = true) :
    Fails (floatFunction name onDouble onSingle left right) := by
  rw [floatFunction, floatPair?_eq_none either]
  exact fails_error

theorem fails_min (either : left.isFunction = true ∨ right.isFunction = true) :
    Fails (min left right) :=
  (Value.fails_compare rfl either).bind _

theorem fails_max (either : left.isFunction = true ∨ right.isFunction = true) :
    Fails (max left right) :=
  (Value.fails_compare rfl either).bind _

theorem fails_clamp {value lower upper : Value}
    (either : value.isFunction = true ∨ lower.isFunction = true) :
    Fails (clamp value lower upper) :=
  (Value.fails_compare rfl either).bind _

theorem fails_fract {own : Function} : Fails (fract (.function own)) :=
  Fails.bind (fails_error : Fails (floor (.function own))) _

theorem fails_round {own : Function} (count : Int) : Fails (round (.function own) count) := by
  show Fails (if count = 0 then _ else _)
  split
  · exact fails_error
  · exact fails_error

theorem fails_one {name : String} {function : Value → Except Fault Value} {arguments : List Value}
    (each : ∀ own, Fails (function (.function own)))
    (either : ∃ argument ∈ arguments, argument.isFunction = true) :
    Fails (one name function arguments) := by
  obtain ⟨argument, member, isFunction⟩ := either
  unfold one
  split
  · obtain ⟨own, isOwn⟩ := Value.isFunction_iff.1 isFunction
    rw [← List.mem_singleton.1 member, isOwn]
    exact each own
  all_goals exact fails_error

theorem fails_two {name : String} {function : Value → Value → Except Fault Value}
    {arguments : List Value}
    (each : ∀ left right, left.isFunction = true ∨ right.isFunction = true →
      Fails (function left right))
    (either : ∃ argument ∈ arguments, argument.isFunction = true) :
    Fails (two name function arguments) := by
  unfold two
  split
  · exact each _ _ (by simpa using either)
  all_goals exact fails_error

/-- A call with a function among its arguments, unless that is the upper bound of a limit. -/
theorem fails_apply {function : Function} {arguments : List Value}
    (either : ∃ argument ∈ arguments, argument.isFunction = true)
    (notTolerated : ¬ (Operation.call (.function function) arguments).Tolerates) :
    Fails (apply function arguments) := by
  cases function with
  | atan2 =>
      simp only [apply]
      split
      · exact fails_floatFunction (by simpa using either)
      · exact fails_error
  | min =>
      simp only [apply]
      split
      · exact fails_min (by simpa using either)
      · exact fails_error
  | max =>
      simp only [apply]
      split
      · exact fails_max (by simpa using either)
      · exact fails_error
  | clamp =>
      simp only [apply]
      split
      · rename_i value lower upper
        refine fails_clamp ?_
        by_contra neither
        rw [not_or, Bool.not_eq_true, Bool.not_eq_true] at neither
        exact notTolerated neither
      · exact fails_error
  | rand => exact fails_error
  | fract =>
      simp only [apply]
      split
      · obtain ⟨argument, member, isFunction⟩ := either
        obtain ⟨own, rfl⟩ := Value.isFunction_iff.1 isFunction
        rw [← List.mem_singleton.1 member]
        exact fails_fract
      · exact fails_error
  | round =>
      simp only [apply]
      split
      · exact fails_error
      · obtain ⟨argument, member, isFunction⟩ := either
        obtain ⟨own, rfl⟩ := Value.isFunction_iff.1 isFunction
        rw [← List.mem_singleton.1 member]
        exact fails_round 0
      · rename_i value count
        have either : value.isFunction = true ∨ count.isFunction = true := by simpa using either
        rcases either with isFunction | isFunction
        · obtain ⟨own, rfl⟩ := Value.isFunction_iff.1 isFunction
          exact fails_bind_of_forall fails_round
        · obtain ⟨own, rfl⟩ := Value.isFunction_iff.1 isFunction
          exact Fails.bind (fails_error : Fails (places (.function own))) _
      · exact fails_bind_of_forall fun _ => fails_error
      · exact fails_error
  | power => exact fails_two (fun _ _ => fails_power) either
  | hypot => exact fails_two (fun _ _ => fails_floatFunction) either
  | absolute => exact fails_one (fun _ => fails_error) either
  | floor => exact fails_one (fun _ => fails_error) either
  | ceil => exact fails_one (fun _ => fails_error) either
  | sign => exact fails_one (fun _ => fails_error) either
  | elementary own => exact fails_one (fun _ => fails_error) either

end Call

/-! ## Operations of an evaluation -/

/-- An operation with a function among its operands fails, unless it is one of the few that do not
look at it. -/
theorem Operation.fails_of_function {operation : Operation}
    (either : ∃ operand ∈ operation.operands, operand.isFunction = true)
    (notTolerated : ¬ operation.Tolerates) (stream : RandomStream) :
    Fails (operation.perform stream).1 := by
  cases operation with
  | unary operator operand =>
      obtain ⟨own, rfl⟩ := Value.isFunction_iff.1 (by simpa [operands] using either)
      exact Value.fails_unary notTolerated
  | binary operator assigns left right =>
      exact Value.fails_binary (by simpa [operands] using either)
  | compare operator left right =>
      refine Value.fails_compare ?_ (by simpa [operands] using either)
      cases operator with
      | equal => exact absurd (.inl rfl) notTolerated
      | notEqual => exact absurd (.inr rfl) notTolerated
      | _ => rfl
  | call callee arguments =>
      cases callee with
      | plain number => exact fails_error
      | machine number => exact fails_error
      | function function =>
          have applied : Fails (Call.apply function arguments) :=
            Call.fails_apply either notTolerated
          cases function with
          | rand =>
              have some : arguments.isEmpty = false := by
                obtain ⟨argument, member, -⟩ := either
                cases arguments with
                | nil => exact absurd member List.not_mem_nil
                | cons first rest => rfl
              show Fails ((if arguments.isEmpty then drawRandom else _) stream).1
              rw [some]
              exact applied
          | _ => exact applied
  | toCell value =>
      obtain ⟨own, rfl⟩ := Value.isFunction_iff.1 (by simpa [operands] using either)
      exact fails_error

/-- A recorded evaluation does what the evaluation does, and if it succeeds, every operation of the
record has succeeded. -/
def RecordsSuccess {Result : Type} (recorded : Recorded Result) (action : Evaluation Result) :
    Prop :=
  ∀ stream, (recorded stream).1 = action stream ∧
    (¬ Fails (action stream).1 →
      ∀ operation ∈ (recorded stream).2, ∃ before, ¬ Fails (operation.perform before).1)

namespace RecordsSuccess

variable {First Second : Type}

protected theorem bind {recorded : Recorded First} {action : Evaluation First}
    {next : First → Recorded Second} {nextAction : First → Evaluation Second}
    (first : RecordsSuccess recorded action)
    (second : ∀ value, RecordsSuccess (next value) (nextAction value)) :
    RecordsSuccess (recorded >>= next) (action >>= nextAction) := by
  intro stream
  obtain ⟨same, succeeded⟩ := first stream
  rw [LiveGrid.bind_apply, Recorded.bind_apply]
  generalize recorded stream = record, action stream = outcome at same succeeded ⊢
  obtain ⟨recordedOutcome, earlier⟩ := record
  obtain rfl : recordedOutcome = outcome := same
  rcases recordedOutcome with ⟨fault | value, after⟩
  · exact ⟨rfl, fun success => absurd fails_error success⟩
  · obtain ⟨sameSecond, succeededSecond⟩ := second value after
    refine ⟨sameSecond, fun success operation member => ?_⟩
    rcases List.mem_append.1 member with before | later
    · exact succeeded not_fails_ok operation before
    · exact succeededSecond success operation later

theorem embed {action : Evaluation First} :
    RecordsSuccess (Reading.recorded.embed action) action :=
  fun _ => ⟨rfl, fun _ _ member => absurd member List.not_mem_nil⟩

theorem perform {operation : Operation} :
    RecordsSuccess (Reading.recorded.perform operation) operation.perform := by
  intro stream
  refine ⟨rfl, fun success performed member => ?_⟩
  rw [List.mem_singleton.1 member]
  exact ⟨stream, success⟩

theorem simulates : Reading.recorded.Simulates Reading.plain RecordsSuccess where
  pure _ := fun _ => ⟨rfl, fun _ _ member => absurd member List.not_mem_nil⟩
  bind := RecordsSuccess.bind
  literal _ := embed
  readName _ _ := embed
  foreign _ := embed
  perform _ := perform

end RecordsSuccess

/-- A cell that has a double has performed no operation that fails. -/
theorem not_fails_of_mem_operations {tree : List Statement} {inputs : Inputs}
    {stream : RandomStream} (success : ¬ Fails (meaning tree inputs stream).1)
    {operation : Operation} (member : operation ∈ operations tree inputs stream) :
    ∃ before, ¬ Fails (operation.perform before).1 := by
  have records : RecordsSuccess (recordedTree tree inputs)
      (Reading.plain.tree inputs tree >>= fun result => Operation.perform (.toCell result)) :=
    RecordsSuccess.simulates.tree.bind fun _ => RecordsSuccess.perform
  refine (records stream).2 (fun failed => success ?_) operation member
  rw [meaning, bind_apply]
  rw [bind_apply] at failed
  generalize Reading.plain.tree inputs tree stream = outcome at failed ⊢
  rcases outcome with ⟨fault | result, after⟩
  · exact fails_error
  · obtain ⟨fault, failed⟩ := failed
    have cellFailed : result.toCell.map (fun number => Value.machine (.double number)) =
        .error fault := failed
    cases cell : result.toCell with
    | ok number =>
        rw [cell] at cellFailed
        cases cellFailed
    | error cause =>
        show Fails result.toCell
        rw [cell]
        exact fails_error

/-- A cell with a double has performed no operation on a function but those that do not look at
it. -/
theorem tolerates_of_mem_operations {tree : List Statement} {inputs : Inputs}
    {stream : RandomStream} (success : ¬ Fails (meaning tree inputs stream).1)
    {operation : Operation} (member : operation ∈ operations tree inputs stream)
    (either : ∃ operand ∈ operation.operands, operand.isFunction = true) :
    operation.Tolerates := by
  obtain ⟨before, succeeded⟩ := not_fails_of_mem_operations success member
  by_contra notTolerated
  exact succeeded (operation.fails_of_function either notTolerated before)

end LiveGrid.Script
