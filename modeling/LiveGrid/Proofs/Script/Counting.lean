import LiveGrid.Proofs.Script.Literals
import LiveGrid.Proofs.Script.Traces
import LiveGrid.Proofs.Script.TypedValues

/-!
Contract: comparisons as operands of sums, differences, products and signs.

Owns:
- trees in which comparisons choose between one and zero where they are to count as numbers;
- the operations in which the outcome of a machine comparison does not count as one;
- both trees are scripts or neither is, and without such operations they have the same outcomes.

Truth values count as numbers, and so do machine outcomes beside machine numbers. Machine outcomes
among themselves add up to an outcome and have no difference and no sign; beside a plain number
they turn it into a machine number.

Does not own: what any comparison gives.
-/

namespace LiveGrid.Script

open Evaluation
open LiveGrid.Number

/-! ## Trees that choose -/

/-- The operators for which comparisons are to count as numbers. -/
def countingOperators : List BinaryOperator := [.add, .subtract, .multiply]

/-- An operand next to itself, or a comparison next to a choice between one and zero. -/
inductive Chooses : Expr → Expr → Prop where
  | same (operand : Expr) : Chooses operand operand
  | comparison (first : Expr) {links : List (CompareOperator × Expr)} (some : links ≠ []) :
      Chooses (.compare first links)
        (.conditional (.compare first links) (.literal (.whole 1)) (.literal (.whole 0)))

/-- Expressions that differ in the comparisons that count as numbers. -/
inductive Counts : Expr → Expr → Prop where
  | literal (value : Literal) : Counts (.literal value) (.literal value)
  | name (identifier : String) : Counts (.name identifier) (.name identifier)
  | unary (operator : UnaryOperator) {operand other : Expr} (operandCounts : Counts operand other) :
      Counts (.unary operator operand) (.unary operator other)
  | minus {operand inner other : Expr} (operandCounts : Counts operand inner)
      (chooses : Chooses inner other) : Counts (.unary .minus operand) (.unary .minus other)
  | binary (operator : BinaryOperator) {left right leftOther rightOther : Expr}
      (leftCounts : Counts left leftOther) (rightCounts : Counts right rightOther) :
      Counts (.binary operator left right) (.binary operator leftOther rightOther)
  | arithmetic {operator : BinaryOperator} (counting : operator ∈ countingOperators)
      {left right leftInner rightInner leftOther rightOther : Expr}
      (leftCounts : Counts left leftInner) (leftChooses : Chooses leftInner leftOther)
      (rightCounts : Counts right rightInner) (rightChooses : Chooses rightInner rightOther) :
      Counts (.binary operator left right) (.binary operator leftOther rightOther)
  | bool (operator : BoolOperator) {operands others : List Expr}
      (sameLength : operands.length = others.length)
      (each : ∀ {operand other}, (operand, other) ∈ operands.zip others → Counts operand other) :
      Counts (.bool operator operands) (.bool operator others)
  | compare {first firstOther : Expr} {links others : List (CompareOperator × Expr)}
      (firstCounts : Counts first firstOther) (sameLength : links.length = others.length)
      (sameOperators : ∀ {link other}, (link, other) ∈ links.zip others → link.1 = other.1)
      (each : ∀ {link other}, (link, other) ∈ links.zip others → Counts link.2 other.2) :
      Counts (.compare first links) (.compare firstOther others)
  | conditional {test body otherwise testOther bodyOther otherwiseOther : Expr}
      (testCounts : Counts test testOther) (bodyCounts : Counts body bodyOther)
      (otherwiseCounts : Counts otherwise otherwiseOther) :
      Counts (.conditional test body otherwise) (.conditional testOther bodyOther otherwiseOther)
  | call (function : Expr) {arguments others : List Expr} (keywordCount : Nat)
      (sameLength : arguments.length = others.length)
      (each : ∀ {argument other}, (argument, other) ∈ arguments.zip others →
        Counts argument other) :
      Counts (.call function arguments keywordCount) (.call function others keywordCount)
  | foreign (kind : ForeignExpr) (parts : List Expr) :
      Counts (.foreign kind parts) (.foreign kind parts)

/-- Statements that differ in the comparisons that count as numbers. -/
inductive CountsStatement : Statement → Statement → Prop where
  | assign (targets : List Expr) {value other : Expr} (valueCounts : Counts value other) :
      CountsStatement (.assign targets value) (.assign targets other)
  | augmentedAssign (target : Expr) (operator : BinaryOperator) {value other : Expr}
      (valueCounts : Counts value other) :
      CountsStatement (.augmentedAssign target operator value)
        (.augmentedAssign target operator other)
  | augmentedArithmetic (target : Expr) {operator : BinaryOperator}
      (counting : operator ∈ countingOperators) {value inner other : Expr}
      (valueCounts : Counts value inner) (chooses : Chooses inner other) :
      CountsStatement (.augmentedAssign target operator value)
        (.augmentedAssign target operator other)
  | expression {value other : Expr} (valueCounts : Counts value other) :
      CountsStatement (.expression value) (.expression other)
  | foreign (kind : ForeignStatement) : CountsStatement (.foreign kind) (.foreign kind)

/-- No comparison has to count. -/
theorem Counts.refl (expression : Expr) : Counts expression expression := by
  induction expression using Expr.structuralInduction with
  | literal value => exact .literal value
  | name identifier => exact .name identifier
  | unary operator operand operandCounts => exact .unary operator operandCounts
  | binary operator left right leftCounts rightCounts =>
      exact .binary operator leftCounts rightCounts
  | bool operator operands operandsCount =>
      exact .bool operator rfl (List.forall₂_iff_zip.1 (List.forall₂_same.2 operandsCount)).2
  | compare first links firstCounts linksCount =>
      have sameOperators : List.Forall₂ (fun link other => link.1 = other.1) links links :=
        List.forall₂_same.2 fun _ _ => rfl
      have linksFollow : List.Forall₂ (fun link other => Counts link.2 other.2) links links :=
        List.forall₂_same.2 linksCount
      exact .compare firstCounts rfl (List.forall₂_iff_zip.1 sameOperators).2
        (List.forall₂_iff_zip.1 linksFollow).2
  | conditional test body otherwise testCounts bodyCounts otherwiseCounts =>
      exact .conditional testCounts bodyCounts otherwiseCounts
  | call function arguments keywordCount functionCounts argumentsCount =>
      exact .call function keywordCount rfl
        (List.forall₂_iff_zip.1 (List.forall₂_same.2 argumentsCount)).2
  | foreign kind parts => exact .foreign kind parts

/-! ## The check -/

section Check

variable {known : String → Prop}

theorem forall_mem_iff_of_forall₂ {First Second : Type} {onFirst : First → Prop}
    {onSecond : Second → Prop} {items : List First} {others : List Second}
    (all : List.Forall₂ (fun item other => onFirst item ↔ onSecond other) items others) :
    (∀ item ∈ items, onFirst item) ↔ ∀ other ∈ others, onSecond other := by
  induction all with
  | nil => exact ⟨fun _ => List.forall_mem_nil _, fun _ => List.forall_mem_nil _⟩
  | cons first rest inductionHypothesis =>
      rw [List.forall_mem_cons, List.forall_mem_cons, first, inductionHypothesis]

theorem Chooses.wellFormed_iff {operand other : Expr} (chooses : Chooses operand other) :
    WellFormed known operand ↔ WellFormed known other := by
  cases chooses with
  | same => exact Iff.rfl
  | comparison first some =>
      rw [WellFormed.conditional_iff]
      exact ⟨fun formed => ⟨formed, .whole 1, .whole 0⟩, fun formed => formed.1⟩

theorem Counts.wellFormed_iff {expression other : Expr} (counts : Counts expression other) :
    WellFormed known expression ↔ WellFormed known other := by
  induction counts with
  | literal | name | foreign => exact Iff.rfl
  | unary operator operandCounts operandIff =>
      rw [WellFormed.unary_iff, WellFormed.unary_iff, operandIff]
  | minus operandCounts chooses operandIff =>
      rw [WellFormed.unary_iff, WellFormed.unary_iff, operandIff, chooses.wellFormed_iff]
  | binary operator leftCounts rightCounts leftIff rightIff =>
      rw [WellFormed.binary_iff, WellFormed.binary_iff, leftIff, rightIff]
  | arithmetic counting leftCounts leftChooses rightCounts rightChooses leftIff rightIff =>
      rw [WellFormed.binary_iff, WellFormed.binary_iff, leftIff, leftChooses.wellFormed_iff,
        rightIff, rightChooses.wellFormed_iff]
  | bool operator sameLength each eachIff =>
      rw [WellFormed.bool_iff, WellFormed.bool_iff]
      exact forall_mem_iff_of_forall₂ (List.forall₂_iff_zip.2 ⟨sameLength, eachIff⟩)
  | compare firstCounts sameLength sameOperators each firstIff eachIff =>
      rw [WellFormed.compare_iff, WellFormed.compare_iff]
      refine and_congr firstIff (and_congr
        (forall_mem_iff_of_forall₂ (List.forall₂_iff_zip.2 ⟨sameLength, ?_⟩))
        (forall_mem_iff_of_forall₂ (List.forall₂_iff_zip.2 ⟨sameLength, eachIff⟩)))
      intro link other member
      rw [sameOperators member]
  | conditional testCounts bodyCounts otherwiseCounts testIff bodyIff otherwiseIff =>
      rw [WellFormed.conditional_iff, WellFormed.conditional_iff, testIff, bodyIff, otherwiseIff]
  | call function keywordCount sameLength each eachIff =>
      rw [WellFormed.call_iff, WellFormed.call_iff]
      exact and_congr_right fun _ =>
        forall_mem_iff_of_forall₂ (List.forall₂_iff_zip.2 ⟨sameLength, eachIff⟩)

variable {value other : Expr}

theorem wellFormedStatement_assign_imp {targets : List Expr}
    (keeps : WellFormed known value → WellFormed known other)
    (formed : WellFormedStatement known (.assign targets value)) :
    WellFormedStatement known (.assign targets other) := by
  cases formed with
  | assign assignable valueFormed => exact .assign assignable (keeps valueFormed)

theorem wellFormedStatement_augmentedAssign_imp {target : Expr} {operator : BinaryOperator}
    (keeps : WellFormed known value → WellFormed known other)
    (formed : WellFormedStatement known (.augmentedAssign target operator value)) :
    WellFormedStatement known (.augmentedAssign target operator other) := by
  cases formed with
  | augmentedAssign assignable isKnown allowed valueFormed =>
      exact .augmentedAssign assignable isKnown allowed (keeps valueFormed)

theorem wellFormedStatement_expression_imp
    (keeps : WellFormed known value → WellFormed known other)
    (formed : WellFormedStatement known (.expression value)) :
    WellFormedStatement known (.expression other) := by
  cases formed with
  | expression valueFormed => exact .expression (keeps valueFormed)

namespace CountsStatement

variable {statement other : Statement}

theorem isExpression_iff (counts : CountsStatement statement other) :
    (∃ value, statement = .expression value) ↔ ∃ value, other = .expression value := by
  cases counts with
  | expression => exact ⟨fun _ => ⟨_, rfl⟩, fun _ => ⟨_, rfl⟩⟩
  | foreign => exact Iff.rfl
  | _ => simp

theorem wellFormedStatement_iff (counts : CountsStatement statement other) :
    WellFormedStatement known statement ↔ WellFormedStatement known other := by
  cases counts with
  | assign targets valueCounts =>
      exact ⟨wellFormedStatement_assign_imp valueCounts.wellFormed_iff.1,
        wellFormedStatement_assign_imp valueCounts.wellFormed_iff.2⟩
  | augmentedAssign target operator valueCounts =>
      exact ⟨wellFormedStatement_augmentedAssign_imp valueCounts.wellFormed_iff.1,
        wellFormedStatement_augmentedAssign_imp valueCounts.wellFormed_iff.2⟩
  | augmentedArithmetic target counting valueCounts chooses =>
      have valueIff : WellFormed known _ ↔ WellFormed known _ :=
        valueCounts.wellFormed_iff.trans chooses.wellFormed_iff
      exact ⟨wellFormedStatement_augmentedAssign_imp valueIff.1,
        wellFormedStatement_augmentedAssign_imp valueIff.2⟩
  | expression valueCounts =>
      exact ⟨wellFormedStatement_expression_imp valueCounts.wellFormed_iff.1,
        wellFormedStatement_expression_imp valueCounts.wellFormed_iff.2⟩
  | foreign => exact Iff.rfl

theorem knownAfter_eq (counts : CountsStatement statement other) :
    KnownAfter known [statement] = KnownAfter known [other] := by
  funext name
  refine propext ?_
  rw [knownAfter_singleton, knownAfter_singleton]
  cases counts with
  | assign targets valueCounts => simp
  | _ => exact Iff.rfl

end CountsStatement

end Check

/-! ## Values that stand for numbers -/

/-- A value next to itself, or the outcome of a comparison next to its number. -/
inductive StandsFor : Value → Value → Prop where
  | same (value : Value) : StandsFor value value
  | truth (value : Bool) :
      StandsFor (.plain (.truth value)) (.plain (.whole (truthNumber value)))
  | flag (value : Bool) :
      StandsFor (.machine (.flag value)) (.plain (.whole (truthNumber value)))

/-- Whether a value stands for the number that tells whether it is true. -/
def Value.IsOutcome (value : Value) : Prop :=
  StandsFor value (.plain (.whole (truthNumber value.isTrue)))

/-- Whether a value is the outcome of a machine comparison. -/
def Value.isFlag : Value → Bool
  | .machine (.flag _) => true
  | _ => false

/-- Whether a value is a plain number or the outcome of a machine comparison. -/
def Value.isPlainOrFlag : Value → Bool
  | .plain _ => true
  | value => value.isFlag

/-- Whether an operation does not take the outcome of a machine comparison for zero or one of the
kind of its other operand: after a sign, and where the other operand is an outcome as well or a
plain number. -/
def Operation.mixesFlags : Operation → Bool
  | .unary .minus operand => operand.isFlag
  | .binary operator _ left right =>
      decide (operator ∈ countingOperators) &&
        (left.isFlag && right.isPlainOrFlag || left.isPlainOrFlag && right.isFlag)
  | _ => false

section Values

variable {operator : BinaryOperator} {value : Bool}

theorem fitsWord_truthNumber : FitsWord (truthNumber value) := by
  cases value <;> decide

namespace Plain

theorem pair_truth_left {right : Plain} :
    pair (.truth value) right = pair (.whole (truthNumber value)) right := by
  cases right with
  | truth right | whole right => rfl
  | real right | complex right =>
      simp only [pair, toWhole?, isComplex, toReal, toComplex,
        realOfWhole_eq_ok fitsWord_truthNumber]
      rfl

theorem pair_truth_right {left : Plain} :
    pair left (.truth value) = pair left (.whole (truthNumber value)) := by
  cases left with
  | truth left | whole left => rfl
  | real left | complex left =>
      simp only [pair, toWhole?, isComplex, toReal, toComplex,
        realOfWhole_eq_ok fitsWord_truthNumber]
      rfl

theorem binary_of_pair_eq (counting : operator ∈ countingOperators) {mark : String}
    {left right leftOther rightOther : Plain}
    (samePair : pair left right = pair leftOther rightOther) :
    binary operator mark left right = binary operator mark leftOther rightOther := by
  have takes : takesComplex operator = true := by
    simp only [countingOperators, List.mem_cons, List.not_mem_nil, or_false] at counting
    rcases counting with rfl | rfl | rfl <;> rfl
  simp only [binary, takes, Bool.not_true, Bool.and_false, if_neg Bool.false_ne_true, samePair]

end Plain

namespace Machine

variable {number : Machine}

theorem binary_of_pair_eq (counting : operator ∈ countingOperators)
    {left right leftOther rightOther : Machine}
    (samePair : pair left right = pair leftOther rightOther) :
    binary operator left right = binary operator leftOther rightOther := by
  simp only [countingOperators, List.mem_cons, List.not_mem_nil, or_false] at counting
  rcases counting with rfl | rfl | rfl <;>
    · unfold binary
      rw [samePair]
      cases pair leftOther rightOther <;> rfl

theorem adoptFor_eq_adopt (counting : operator ∈ countingOperators) {kind : Kind} {number : Plain} :
    adoptFor operator kind number = adopt kind number := by
  simp only [countingOperators, List.mem_cons, List.not_mem_nil, or_false] at counting
  rcases counting with rfl | rfl | rfl <;> rfl

/-- Beside a machine number, zero and one become what an outcome becomes. -/
theorem exists_adopt_truthNumber (value : Bool) (notFlag : (Value.machine number).isFlag = false) :
    ∃ adopted, adopt number.kind (.whole (truthNumber value)) = .ok adopted ∧
      pair (.flag value) number = pair adopted number ∧
        pair number (.flag value) = pair number adopted := by
  cases number with
  | flag => cases notFlag
  | int8 number => cases value <;> exact ⟨_, rfl, rfl, rfl⟩
  | int64 number => cases value <;> exact ⟨_, rfl, rfl, rfl⟩
  | uint64 number => cases value <;> exact ⟨_, rfl, rfl, rfl⟩
  | half number | double number | complex number =>
      rw [kind, adopt, adoptWhole, realOfWhole_eq_ok fitsWord_truthNumber]
      exact ⟨_, rfl, rfl, rfl⟩

end Machine

namespace Value

variable {assigns : Bool}

theorem binary_truthNumber_machine (counting : operator ∈ countingOperators) {right : Machine}
    (notFlag : (Value.machine right).isFlag = false) :
    binary operator assigns (.plain (.whole (truthNumber value))) (.machine right) =
      (Machine.binary operator (.flag value) right).map .machine := by
  obtain ⟨adopted, adopts, samePair, -⟩ := Machine.exists_adopt_truthNumber value notFlag
  rw [binary, Machine.adoptFor_eq_adopt counting, adopts,
    Machine.binary_of_pair_eq counting samePair]
  · rfl
  · simp

theorem binary_machine_truthNumber (counting : operator ∈ countingOperators) {left : Machine}
    (notFlag : (Value.machine left).isFlag = false) :
    binary operator assigns (.machine left) (.plain (.whole (truthNumber value))) =
      (Machine.binary operator left (.flag value)).map .machine := by
  obtain ⟨adopted, adopts, -, samePair⟩ := Machine.exists_adopt_truthNumber value notFlag
  rw [binary, Machine.adoptFor_eq_adopt counting, adopts,
    Machine.binary_of_pair_eq counting samePair]
  rfl

theorem binary_truth_machine (counting : operator ∈ countingOperators) {right : Machine} :
    binary operator assigns (.plain (.truth value)) (.machine right) =
      (Machine.binary operator (.flag value) right).map .machine := by
  rw [binary, Machine.adoptFor_eq_adopt counting]
  · rfl
  · simp

theorem binary_machine_truth (counting : operator ∈ countingOperators) {left : Machine} :
    binary operator assigns (.machine left) (.plain (.truth value)) =
      (Machine.binary operator left (.flag value)).map .machine := by
  rw [binary, Machine.adoptFor_eq_adopt counting]
  rfl

/-- Unless outcomes are mixed, the first operand may stand for its number. -/
theorem toOption_binary_left (counting : operator ∈ countingOperators)
    {left other right : Value} (stands : StandsFor left other)
    (unmixed : (Operation.binary operator assigns left right).mixesFlags = false) :
    (binary operator assigns left right).toOption =
      (binary operator assigns other right).toOption := by
  cases stands with
  | same => rfl
  | truth value =>
      cases right with
      | plain right =>
          rw [binary, binary, Plain.binary_of_pair_eq counting Plain.pair_truth_left]
      | machine right =>
          have notFlag : (Value.machine right).isFlag = false := by
            simpa [Operation.mixesFlags, counting, isFlag, isPlainOrFlag] using unmixed
          rw [binary_truth_machine counting, binary_truthNumber_machine counting notFlag]
      | function right => rfl
  | flag value =>
      cases right with
      | plain right => simp [Operation.mixesFlags, counting, isFlag, isPlainOrFlag] at unmixed
      | machine right =>
          have notFlag : (Value.machine right).isFlag = false := by
            simpa [Operation.mixesFlags, counting, isFlag, isPlainOrFlag] using unmixed
          rw [binary_truthNumber_machine counting notFlag]
          rfl
      | function right => rfl

theorem toOption_binary_right (counting : operator ∈ countingOperators)
    {left right other : Value} (stands : StandsFor right other)
    (unmixed : (Operation.binary operator assigns left right).mixesFlags = false) :
    (binary operator assigns left right).toOption =
      (binary operator assigns left other).toOption := by
  cases stands with
  | same => rfl
  | truth value =>
      cases left with
      | plain left =>
          rw [binary, binary, Plain.binary_of_pair_eq counting Plain.pair_truth_right]
      | machine left =>
          have notFlag : (Value.machine left).isFlag = false := by
            simpa [Operation.mixesFlags, counting, isFlag, isPlainOrFlag] using unmixed
          rw [binary_machine_truth counting, binary_machine_truthNumber counting notFlag]
      | function left => rfl
  | flag value =>
      cases left with
      | plain left => simp [Operation.mixesFlags, counting, isFlag, isPlainOrFlag] at unmixed
      | machine left =>
          have notFlag : (Value.machine left).isFlag = false := by
            simpa [Operation.mixesFlags, counting, isFlag, isPlainOrFlag] using unmixed
          rw [binary_machine_truthNumber counting notFlag]
          rfl
      | function left => rfl

/-- Unless outcomes are mixed, operands may stand for their numbers. -/
theorem toOption_binary (counting : operator ∈ countingOperators)
    {left right leftOther rightOther : Value} (leftStands : StandsFor left leftOther)
    (rightStands : StandsFor right rightOther)
    (unmixed : (Operation.binary operator assigns left right).mixesFlags = false) :
    (binary operator assigns left right).toOption =
      (binary operator assigns leftOther rightOther).toOption := by
  rw [toOption_binary_left counting leftStands unmixed]
  refine toOption_binary_right counting rightStands ?_
  -- The first operand may be a plain number now, but then the second one was no outcome before.
  cases leftStands with
  | same => exact unmixed
  | truth value | flag value =>
      simp_all [Operation.mixesFlags, isFlag, isPlainOrFlag]

theorem toOption_minus {operand other : Value} (stands : StandsFor operand other)
    (unmixed : (Operation.unary .minus operand).mixesFlags = false) :
    (unary .minus operand).toOption = (unary .minus other).toOption := by
  cases stands with
  | same => rfl
  | truth value => rfl
  | flag value => cases unmixed

/-- Comparisons give truth values or machine outcomes, which stand for their numbers. -/
theorem isOutcome_of_compare {operator : CompareOperator} {left right outcome : Value}
    (compares : compare operator left right = .ok outcome) :
    outcome.IsOutcome := by
  unfold compare at compares
  split at compares
  case h_1 =>
    obtain ⟨holds, -, rfl⟩ := map_eq_ok_iff.1 compares
    exact .truth holds
  case h_2 =>
    cases compares
    exact .flag _
  case h_3 | h_5 =>
    obtain ⟨order, -, rfl⟩ := map_eq_ok_iff.1 compares
    exact .flag _
  case h_4 | h_6 | h_7 | h_8 | h_9 =>
    split at compares
    all_goals cases compares
    all_goals first | exact .truth _ | exact .flag _

end Value

end Values

/-! ## Evaluation -/

/-- A recorded evaluation that mixes no outcomes gives a result that is related to that of another
evaluation, or both fail; in both cases the same random numbers are left. -/
def Follows {First Second : Type} (onResult : First → Second → Prop) (recorded : Recorded First)
    (action : Evaluation Second) : Prop :=
  ∀ stream, (∀ operation ∈ (recorded stream).2, operation.mixesFlags = false) →
    Matches (fun _ _ => True) onResult (recorded stream).1 (action stream)

namespace Follows

variable {First Second Third Fourth : Type} {onFirst : First → Second → Prop}
  {onSecond : Third → Fourth → Prop} {recorded : Recorded First} {action : Evaluation Second}

protected theorem pure {value : First} {other : Second} (related : onFirst value other) :
    Follows onFirst (pure value) (pure other) := fun _ _ => .ok related

protected theorem bind {next : First → Recorded Third} {nextAction : Second → Evaluation Fourth}
    (first : Follows onFirst recorded action)
    (second : ∀ value other, onFirst value other →
      Follows onSecond (next value) (nextAction other)) :
    Follows onSecond (recorded >>= next) (action >>= nextAction) := by
  intro stream unmixed
  have firstMatches := first stream
  rw [Recorded.bind_apply] at unmixed ⊢
  rw [LiveGrid.bind_apply]
  generalize recorded stream = record, action stream = outcome at firstMatches unmixed ⊢
  obtain ⟨recordedOutcome, earlier⟩ := record
  rcases recordedOutcome with ⟨fault | value, after⟩
  · cases firstMatches unmixed
    exact .error trivial
  · obtain ⟨earlierUnmixed, laterUnmixed⟩ := List.forall_mem_append.1 unmixed
    cases firstMatches earlierUnmixed with
    | ok related => exact second _ _ related after laterUnmixed

theorem embed {action : Evaluation First} : Follows Eq (Reading.recorded.embed action) action :=
  fun stream _ => Relates.refl (fun _ => trivial) stream

/-- An operation is followed by another one that gives the same unless outcomes are mixed. -/
theorem perform {operation : Operation} {other : Evaluation Value}
    (relates : operation.mixesFlags = false →
      Relates (fun _ _ => True) Eq operation.perform other) :
    Follows Eq (Reading.recorded.perform operation) other :=
  fun stream unmixed => relates (unmixed operation (List.mem_singleton_self operation)) stream

end Follows

theorem simulates_follows : Reading.recorded.Simulates Reading.plain (Follows Eq) where
  pure _ := Follows.pure rfl
  bind follows next := follows.bind fun value _ same => same ▸ next value
  literal _ := Follows.embed
  readName _ _ := Follows.embed
  foreign _ := Follows.embed
  perform _ := Follows.perform fun _ => Relates.refl fun _ => trivial

/-- Results that are the same, unless there are none. -/
theorem relates_of_toOption_eq {First : Type} {result other : Except Fault First}
    (same : result.toOption = other.toOption) :
    Relates (fun _ _ => True) Eq (Evaluation.ofExcept result) (Evaluation.ofExcept other) := by
  intro stream
  cases result with
  | ok value =>
      cases other with
      | ok otherValue => exact .ok (Option.some.inj same)
      | error fault => cases same
  | error fault =>
      cases other with
      | ok value => cases same
      | error otherFault => exact .error trivial

section Expressions

variable {scope : Scope}

/-- A chain of comparisons ends with an outcome. -/
theorem ensures_isOutcome_chain {left : Value} {links : List (CompareOperator × Expr)}
    (some : links ≠ []) :
    Ensures (fun _ => True) Value.IsOutcome
      (Reading.plain.chain scope left links) := by
  have compares : ∀ {operator left right}, Ensures (fun _ => True) Value.IsOutcome
      (Reading.plain.perform (.compare operator left right)) :=
    Ensures.ofExcept (fun _ _ => trivial) fun _ => Value.isOutcome_of_compare
  induction links generalizing left with
  | nil => exact absurd rfl some
  | cons first rest inductionHypothesis =>
      obtain ⟨operator, expression⟩ := first
      cases rest with
      | nil =>
          rw [Reading.chain]
          exact Ensures.true.bind fun _ _ => compares
      | cons second others =>
          rw [Reading.chain_cons_cons]
          refine Ensures.true.bind fun right _ => compares.bind fun outcome isOutcome => ?_
          split
          · exact inductionHypothesis (List.cons_ne_nil second others)
          · exact Ensures.pure isOutcome

theorem ensures_isOutcome_compare (scope : Scope) (first : Expr)
    {links : List (CompareOperator × Expr)} (some : links ≠ []) :
    Ensures (fun _ => True) Value.IsOutcome
      (Reading.plain.expr scope (.compare first links)) := by
  rw [Reading.expr]
  exact Ensures.true.bind fun _ _ => ensures_isOutcome_chain some

/-- A choice between one and zero is the number of what is chosen by. -/
theorem expr_choice {test : Expr} :
    Reading.plain.expr scope (.conditional test (.literal (.whole 1)) (.literal (.whole 0))) =
      Reading.plain.expr scope test >>= fun outcome =>
        pure (.plain (.whole (truthNumber outcome.isTrue))) := by
  rw [Reading.expr]
  refine bind_congr fun outcome => ?_
  cases outcome.isTrue <;> rfl

/-- What follows an operand up to its number follows the choice for it. -/
theorem Follows.chooses {recorded : Recorded Value} {operand other : Expr}
    (follows : Follows Eq recorded (Reading.plain.expr scope operand))
    (chooses : Chooses operand other) :
    Follows StandsFor recorded (Reading.plain.expr scope other) := by
  intro stream unmixed
  have outcomesMatch := follows stream unmixed
  cases chooses with
  | same =>
      generalize (recorded stream).1 = first, Reading.plain.expr scope operand stream = second
        at outcomesMatch ⊢
      cases outcomesMatch with
      | ok same => exact .ok (same ▸ .same _)
      | error => exact .error trivial
  | comparison first some =>
      have isOutcome := ensures_isOutcome_compare scope first some stream
      rw [expr_choice, LiveGrid.bind_apply]
      generalize (recorded stream).1 = first,
        Reading.plain.expr scope (.compare _ _) stream = second at outcomesMatch isOutcome ⊢
      cases outcomesMatch with
      | ok same => exact .ok (same ▸ isOutcome)
      | error => exact .error trivial

/-- Expressions that differ in what counts have the same values, unless outcomes are mixed. -/
theorem Counts.follows {expression other : Expr} (counts : Counts expression other) :
    Follows Eq (Reading.recorded.expr scope expression) (Reading.plain.expr scope other) := by
  -- Values differ only between an operand and its operator, so every form keeps their equality;
  -- at the two forms with choices, the operator makes up for the number.
  induction counts with
  | literal | name | foreign => exact simulates_follows.expr
  | unary operator operandCounts operandFollows =>
      rw [Reading.expr, Reading.expr]
      exact simulates_follows.bind operandFollows fun _ => simulates_follows.perform _
  | minus operandCounts chooses operandFollows =>
      rw [Reading.expr, Reading.expr]
      refine (operandFollows.chooses chooses).bind fun operand other stands => ?_
      exact Follows.perform fun unmixed =>
        relates_of_toOption_eq (Value.toOption_minus stands unmixed)
  | binary operator leftCounts rightCounts leftFollows rightFollows =>
      rw [Reading.expr, Reading.expr]
      exact simulates_follows.bind leftFollows fun _ =>
        simulates_follows.bind rightFollows fun _ => simulates_follows.perform _
  | arithmetic counting leftCounts leftChooses rightCounts rightChooses leftFollows rightFollows =>
      rw [Reading.expr, Reading.expr]
      refine (leftFollows.chooses leftChooses).bind fun left leftOther leftStands =>
        (rightFollows.chooses rightChooses).bind fun right rightOther rightStands =>
          Follows.perform fun unmixed => relates_of_toOption_eq ?_
      exact Value.toOption_binary counting leftStands rightStands unmixed
  | bool operator sameLength each eachFollows =>
      rw [Reading.expr, Reading.expr]
      exact simulates_follows.junction (List.forall₂_iff_zip.2 ⟨sameLength, eachFollows⟩)
  | compare firstCounts sameLength sameOperators each firstFollows eachFollows =>
      rw [Reading.expr, Reading.expr]
      refine simulates_follows.bind firstFollows fun _ =>
        simulates_follows.chain (List.forall₂_iff_zip.2 ⟨sameLength, fun member => ?_⟩)
      exact ⟨sameOperators member, eachFollows member⟩
  | conditional testCounts bodyCounts otherwiseCounts testFollows bodyFollows otherwiseFollows =>
      rw [Reading.expr, Reading.expr]
      refine simulates_follows.bind testFollows fun test => ?_
      split
      · exact bodyFollows
      · exact otherwiseFollows
  | call function keywordCount sameLength each eachFollows =>
      rw [Reading.expr, Reading.expr]
      exact simulates_follows.bind simulates_follows.expr fun _ =>
        simulates_follows.bind
          (simulates_follows.exprs (List.forall₂_iff_zip.2 ⟨sameLength, eachFollows⟩)) fun _ =>
            simulates_follows.perform _

/-- Statements that differ in what counts lead to the same scopes. -/
theorem CountsStatement.follows {statement other : Statement}
    (counts : CountsStatement statement other) (scope : Scope) :
    Follows Eq (Reading.recorded.statement scope statement)
      (Reading.plain.statement scope other) := by
  cases counts with
  | assign targets valueCounts => exact simulates_follows.assign valueCounts.follows
  | augmentedAssign target operator valueCounts =>
      exact simulates_follows.augmentedAssign fun _ _ =>
        simulates_follows.bind valueCounts.follows fun _ =>
          simulates_follows.bind (simulates_follows.perform _) fun _ => simulates_follows.pure _
  | augmentedArithmetic target counting valueCounts chooses =>
      refine simulates_follows.augmentedAssign fun current _ =>
        (valueCounts.follows.chooses chooses).bind fun operand other stands => ?_
      refine simulates_follows.bind (Follows.perform fun unmixed => relates_of_toOption_eq ?_)
        fun _ => simulates_follows.pure _
      exact Value.toOption_binary_right counting stands unmixed
  | expression valueCounts =>
      rw [Reading.statement, Reading.statement]
      exact simulates_follows.bind valueCounts.follows fun _ => simulates_follows.pure _
  | foreign kind => exact simulates_follows.statement

theorem CountsStatement.follows_last {statement other : Statement}
    (counts : CountsStatement statement other) (scope : Scope) :
    Follows Eq (Reading.recorded.body scope [statement]) (Reading.plain.body scope [other]) := by
  have follows := counts.follows scope
  cases counts with
  | expression valueCounts =>
      rw [Reading.body, Reading.body]
      exact valueCounts.follows
  | _ => exact simulates_follows.body_singleton (by simp) (by simp) follows

end Expressions

/-! ## Scripts -/

/-- Cells have the same outcome with a choice in place of a comparison, as long as they mix no
outcomes of machine comparisons. -/
theorem matches_meaning_of_counts {tree counted : List Statement} {inputs : Inputs}
    {stream : RandomStream} (counts : List.Forall₂ CountsStatement tree counted)
    (unmixed : ∀ operation ∈ operations tree inputs stream, operation.mixesFlags = false) :
    Matches (fun _ _ => True) Eq (meaning tree inputs stream) (meaning counted inputs stream) := by
  have follows : Follows Eq (Reading.recorded.tree inputs tree)
      (Reading.plain.tree inputs counted) :=
    simulates_follows.body CountsStatement.follows CountsStatement.follows_last counts
  have treesMatch := follows stream
    fun operation member => unmixed operation (mem_operations_of_mem_tree member)
  rw [(simulates_recorded.tree stream).1] at treesMatch
  rw [meaning, meaning, LiveGrid.bind_apply, LiveGrid.bind_apply]
  generalize Reading.plain.tree inputs tree stream = outcome,
    Reading.plain.tree inputs counted stream = countedOutcome at treesMatch ⊢
  cases treesMatch with
  | error => exact .error trivial
  | ok same =>
      rw [same]
      exact Relates.refl (fun _ => trivial) _

/-- A tree is a script exactly if it is one with choices in place of comparisons, and then a cell
that mixes no outcomes of machine comparisons has the same double or fails in both cases. -/
theorem counts_script {tree counted : List Statement}
    (counts : List.Forall₂ CountsStatement tree counted) :
    (checkTree tree = .ok () ↔ checkTree counted = .ok ()) ∧
      (checkTree tree = .ok () → ∀ source countedSource inputs stream,
        (∀ operation ∈ operations tree inputs stream, operation.mixesFlags = false) →
          Matches (fun _ _ => True) Eq ((ofTree source tree).evaluate inputs stream)
            ((ofTree countedSource counted).evaluate inputs stream)) := by
  have sameScripts : IsScript tree ↔ IsScript counted :=
    wellFormedProgram_iff_of_forall₂ CountsStatement.isExpression_iff
      CountsStatement.wellFormedStatement_iff (fun each _ => each.knownAfter_eq) counts
  rw [checkTree, checkTree, checkStatements_eq_ok_iff, checkStatements_eq_ok_iff, ← isInitial_eq]
  refine ⟨sameScripts, fun isScript source countedSource inputs stream unmixed => ?_⟩
  rw [evaluate_ofTree source isScript, evaluate_ofTree countedSource (sameScripts.1 isScript)]
  exact matches_meaning_of_counts counts unmixed

/-- A comparison that counts beside an input. -/
theorem counts_script_input :
    ∃ tree counted, Grammar.parse? "(x<1)+y" = some tree ∧
      Grammar.parse? "(1 if x<1 else 0)+y" = some counted ∧
        List.Forall₂ CountsStatement tree counted ∧ checkTree counted = .ok () ∧
          ((ofTree "(x<1)+y" tree).evaluate ⟨0, 0, 0, 2, 0, 0⟩ ⟨fun _ => 0, 0⟩).1 = .ok 3 ∧
            Matches (fun _ _ => True) Eq
              ((ofTree "(x<1)+y" tree).evaluate ⟨0, 0, 0, 2, 0, 0⟩ ⟨fun _ => 0, 0⟩)
              ((ofTree "(1 if x<1 else 0)+y" counted).evaluate ⟨0, 0, 0, 2, 0, 0⟩
                ⟨fun _ => 0, 0⟩) := by
  have parsed : Grammar.parse? "(x<1)+y" = some [.expression (.binary .add
      (.compare (.name "x") [(.less, .literal (.whole 1))]) (.name "y"))] :=
    parse?_eq_some_of_sameTree (by decide +kernel)
  have parsedCounted : Grammar.parse? "(1 if x<1 else 0)+y" = some [.expression (.binary .add
      (.conditional (.compare (.name "x") [(.less, .literal (.whole 1))]) (.literal (.whole 1))
        (.literal (.whole 0))) (.name "y"))] :=
    parse?_eq_some_of_sameTree (by decide +kernel)
  have counts : List.Forall₂ CountsStatement [.expression (.binary .add
      (.compare (.name "x") [(.less, .literal (.whole 1))]) (.name "y"))]
      [.expression (.binary .add (.conditional (.compare (.name "x")
        [(.less, .literal (.whole 1))]) (.literal (.whole 1)) (.literal (.whole 0)))
        (.name "y"))] :=
    .cons (.expression (.arithmetic (List.mem_cons_self ..) (.refl _)
      (.comparison _ (List.cons_ne_nil _ _)) (.refl _) (.same _))) .nil
  have accepted : checkTree [.expression (.binary .add
      (.compare (.name "x") [(.less, .literal (.whole 1))]) (.name "y"))] = .ok () :=
    checkTree_eq_ok_of_isOk (by decide +kernel)
  exact ⟨_, _, parsed, parsedCounted, counts, (counts_script counts).1.1 accepted,
    by decide +kernel, (counts_script counts).2 accepted _ _ _ _ (by decide +kernel)⟩

/-- A comparison with an input has no sign, and the choice for it has one. -/
theorem evaluate_minus_comparison :
    ∃ tree counted, Grammar.parse? "-(x<1)" = some tree ∧
      Grammar.parse? "-(1 if x<1 else 0)" = some counted ∧
        List.Forall₂ CountsStatement tree counted ∧ checkTree tree = .ok () ∧
          ((ofTree "-(x<1)" tree).evaluate ⟨0, 0, 0, 0, 0, 0⟩ ⟨fun _ => 0, 0⟩).1 =
            .error .flagNegation ∧
          ((ofTree "-(1 if x<1 else 0)" counted).evaluate ⟨0, 0, 0, 0, 0, 0⟩
            ⟨fun _ => 0, 0⟩).1 = .ok (-1) := by
  have parsed : Grammar.parse? "-(x<1)" = some [.expression (.unary .minus
      (.compare (.name "x") [(.less, .literal (.whole 1))]))] :=
    parse?_eq_some_of_sameTree (by decide +kernel)
  have parsedCounted : Grammar.parse? "-(1 if x<1 else 0)" = some [.expression (.unary .minus
      (.conditional (.compare (.name "x") [(.less, .literal (.whole 1))]) (.literal (.whole 1))
        (.literal (.whole 0))))] :=
    parse?_eq_some_of_sameTree (by decide +kernel)
  exact ⟨_, _, parsed, parsedCounted,
    .cons (.expression (.minus (.refl _) (.comparison _ (List.cons_ne_nil _ _)))) .nil,
    checkTree_eq_ok_of_isOk (by decide +kernel), by decide +kernel, by decide +kernel⟩

end LiveGrid.Script
