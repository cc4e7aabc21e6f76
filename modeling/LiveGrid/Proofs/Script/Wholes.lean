import LiveGrid.Proofs.Number.Overflow
import LiveGrid.Proofs.Script.Literals
import LiveGrid.Proofs.Script.Traces
import LiveGrid.Proofs.Script.WholeOperators
import Mathlib.Logic.Function.Basic

/-!
Contract: scripts of whole numbers compute exactly.

Owns:
- expressions and statements of whole literals, names assigned earlier, signs, operators that stay
  whole, and powers with a literal as exponent;
- what these denote in exact arithmetic, or that a divisor is zero on the way;
- a recorded evaluation gives the number that is denoted, or ends at a division by zero;
- the value of a script before it becomes a double, and exactly when a cell fails.

Names that a script assigns stand for the numbers that it denotes for them. That is the invariant of
a run; whatever else is in the scope, inputs too, is not read.

Does not own: how far the double of a cell is from its whole number.
-/

namespace LiveGrid.Script

open LiveGrid.Number

/-! ## Scripts of whole numbers -/

/-- Whether an operator stays whole beside a right operand: a power does if that is a literal. -/
def BinaryOperator.TakesOperand (operator : BinaryOperator) (operand : Expr) : Prop :=
  operator.StaysWhole ∨ operator = .power ∧ ∃ exponent, operand = .literal (.whole exponent)

/-- Expressions of whole literals, names assigned earlier, signs, operators that stay whole, and
powers with a literal exponent. -/
inductive IsWhole (assigned : String → Prop) : Expr → Prop where
  | literal (value : Nat) : IsWhole assigned (.literal (.whole value))
  | name {identifier : String} (isAssigned : assigned identifier) :
      IsWhole assigned (.name identifier)
  | unary {operator : UnaryOperator} {operand : Expr} (isSign : operator ∈ [.plus, .minus])
      (operandWhole : IsWhole assigned operand) : IsWhole assigned (.unary operator operand)
  | binary {operator : BinaryOperator} {left right : Expr} (takes : operator.TakesOperand right)
      (leftWhole : IsWhole assigned left) (rightWhole : IsWhole assigned right) :
      IsWhole assigned (.binary operator left right)

/-- Statements of whole numbers, plain and augmented assignments among them. -/
inductive IsWholeStatement (assigned : String → Prop) : Statement → Prop where
  | expression {value : Expr} (valueWhole : IsWhole assigned value) :
      IsWholeStatement assigned (.expression value)
  | assign {name : String} {value : Expr} (valueWhole : IsWhole assigned value) :
      IsWholeStatement assigned (.assign [.name name] value)
  | augmentedAssign {name : String} {operator : BinaryOperator} {value : Expr}
      (isAssigned : assigned name) (takes : operator.TakesOperand value)
      (valueWhole : IsWhole assigned value) :
      IsWholeStatement assigned (.augmentedAssign (.name name) operator value)

/-- Statements of whole numbers, each over the names assigned before it, the last one an
expression. -/
inductive IsWholeProgram : (String → Prop) → List Statement → Prop where
  | last {assigned : String → Prop} {value : Expr} (valueWhole : IsWhole assigned value) :
      IsWholeProgram assigned [.expression value]
  | cons {assigned : String → Prop} {first second : Statement} {rest : List Statement}
      (firstWhole : IsWholeStatement assigned first)
      (restWhole : IsWholeProgram (KnownAfter assigned [first]) (second :: rest)) :
      IsWholeProgram assigned (first :: second :: rest)

/-! ## Exact arithmetic -/

/-- The whole number that an expression denotes if its names stand for whole numbers. A division by
zero denotes none. -/
def Expr.whole? (locals : String → Int) : Expr → Option Int
  | .literal (.whole value) => some value
  | .name identifier => some (locals identifier)
  | .unary operator operand => do
      let number ← operand.whole? locals
      operator.exactResult? number
  | .binary operator left right => do
      let left ← left.whole? locals
      let right ← right.whole? locals
      operator.exactResult? left right
  | _ => none

/-- What names stand for after a statement. -/
def Statement.wholes? (locals : String → Int) : Statement → Option (String → Int)
  | .assign [.name name] value => do
      let number ← value.whole? locals
      some (Function.update locals name number)
  | .augmentedAssign (.name name) operator value => do
      let operand ← value.whole? locals
      let number ← operator.exactResult? (locals name) operand
      some (Function.update locals name number)
  | .expression value => do
      let _ ← value.whole? locals
      some locals
  | _ => none

/-- The whole number that statements denote: that of the last one. -/
def bodyWhole? (locals : String → Int) : List Statement → Option Int
  | [] => none
  | [.expression value] => value.whole? locals
  | first :: rest => do
      let locals ← first.wholes? locals
      bodyWhole? locals rest

theorem bodyWhole?_cons_cons {locals : String → Int} {first second : Statement}
    {rest : List Statement} :
    bodyWhole? locals (first :: second :: rest) =
      first.wholes? locals >>= fun locals => bodyWhole? locals (second :: rest) := by
  rw [bodyWhole?]
  simp

/-- The whole number that a script denotes. It reads no name that it has not assigned. -/
def treeWhole? (tree : List Statement) : Option Int := bodyWhole? (fun _ => 0) tree

/-! ## Evaluations that compute -/

/-- Whether an operation is a floored division or a remainder whose divisor is zero. -/
def Operation.DividesByZero : Operation → Prop
  | .binary operator _ _ right =>
      (operator = .floorDivide ∨ operator = .modulo) ∧ right.isTrue = false
  | _ => False

section Computes

variable {Expected More First Second : Type} {stream : RandomStream}

/-- What a recorded evaluation ends with next to a result of exact arithmetic: a related result and
no division by zero, or a fault and a division by zero if there is no exact result. No random number
is drawn. -/
inductive EndsLike (relation : Expected → First → Prop) (stream : RandomStream) :
    Option Expected → (Except Fault First × RandomStream) × List Operation → Prop where
  | result {expected : Expected} {value : First} {operations : List Operation}
      (related : relation expected value)
      (noDivision : ∀ operation ∈ operations, ¬ operation.DividesByZero) :
      EndsLike relation stream (some expected) ((.ok value, stream), operations)
  | fault {fault : Fault} {operations : List Operation}
      (division : ∃ operation ∈ operations, operation.DividesByZero) :
      EndsLike relation stream none ((.error fault, stream), operations)

section EndsLike

variable {relation : Expected → First → Prop} {outcome : Except Fault First × RandomStream}
  {operations : List Operation}

theorem EndsLike.of_some {expected : Expected}
    (ends : EndsLike relation stream (some expected) (outcome, operations)) :
    (∃ value, outcome = (.ok value, stream) ∧ relation expected value) ∧
      ¬ ∃ operation ∈ operations, operation.DividesByZero := by
  cases ends with
  | result related noDivision =>
      refine ⟨⟨_, rfl, related⟩, ?_⟩
      rintro ⟨operation, member, divides⟩
      exact noDivision operation member divides

theorem EndsLike.of_none (ends : EndsLike relation stream none (outcome, operations)) :
    (∃ fault, outcome = (.error fault, stream)) ∧
      ∃ operation ∈ operations, operation.DividesByZero := by
  cases ends with
  | fault division => exact ⟨⟨_, rfl⟩, division⟩

end EndsLike

/-- A recorded evaluation that ends like exact arithmetic, whatever the random numbers are. -/
def Computes (relation : Expected → First → Prop) (expected : Option Expected)
    (action : Recorded First) : Prop :=
  ∀ stream, EndsLike relation stream expected (action stream)

variable {relation : Expected → First → Prop} {otherRelation : More → Second → Prop}

theorem Computes.pure {expected : Expected} {value : First} (related : relation expected value) :
    Computes relation (some expected) (Pure.pure value) := by
  intro stream
  exact .result related fun operation member => absurd member List.not_mem_nil

theorem Computes.embed {expected : Expected} {action : Evaluation First} {value : First}
    (gives : ∀ stream, action stream = (.ok value, stream)) (related : relation expected value) :
    Computes relation (some expected) (Reading.recorded.embed action) := by
  intro stream
  have embedded : Reading.recorded.embed action stream = (action stream, []) := rfl
  rw [embedded, gives]
  exact .result related fun operation member => absurd member List.not_mem_nil

theorem Computes.imp {expected : Option Expected} {action : Recorded First}
    {weaker : Expected → First → Prop} (computes : Computes relation expected action)
    (implies : ∀ {number value}, relation number value → weaker number value) :
    Computes weaker expected action := by
  intro stream
  have ends := computes stream
  generalize action stream = ending at ends ⊢
  cases ends with
  | result related noDivision => exact .result (implies related) noDivision
  | fault division => exact .fault division

theorem Computes.bind_embed {action : Evaluation First} {value : First}
    {expected : Option More} {nextAction : First → Recorded Second}
    (gives : ∀ stream, action stream = (.ok value, stream))
    (next : Computes otherRelation expected (nextAction value)) :
    Computes otherRelation expected (Reading.recorded.embed action >>= nextAction) := by
  intro stream
  have nextEnds := next stream
  have embedded : Reading.recorded.embed action stream = ((.ok value, stream), []) :=
    congrArg (·, []) (gives stream)
  rw [Recorded.bind_apply, embedded]
  exact nextEnds

/-- A chain computes if its first part does, and its second part for every related result. -/
theorem Computes.bind {expected : Option Expected} {next : Expected → Option More}
    {action : Recorded First} {nextAction : First → Recorded Second}
    (first : Computes relation expected action)
    (second : ∀ {number value}, relation number value →
      Computes otherRelation (next number) (nextAction value)) :
    Computes otherRelation (expected >>= next) (action >>= nextAction) := by
  intro stream
  rw [Recorded.bind_apply]
  have firstEnds := first stream
  generalize action stream = ending at firstEnds ⊢
  cases firstEnds with
  | fault division => exact .fault division
  | @result number value earlier related noDivision =>
      have secondEnds := second related stream
      show EndsLike otherRelation stream (next number) _
      generalize next number = nextExpected at secondEnds ⊢
      dsimp only
      generalize nextAction value stream = nextEnding at secondEnds ⊢
      cases secondEnds with
      | fault division =>
          obtain ⟨operation, member, divides⟩ := division
          exact .fault ⟨operation, List.mem_append_right _ member, divides⟩
      | result nextRelated noneAfter =>
          refine .result nextRelated fun operation member => ?_
          rcases List.mem_append.1 member with early | late
          · exact noDivision operation early
          · exact noneAfter operation late

/-- Whether a value is a whole number of plain arithmetic. -/
def IsPlainWhole (number : Int) (value : Value) : Prop := value = .plain (.whole number)

theorem computes_unary {operator : UnaryOperator} (isSign : operator ∈ [.plus, .minus])
    (number : Int) :
    Computes IsPlainWhole (operator.exactResult? number)
      (Reading.recorded.perform (.unary operator (.plain (.whole number)))) := by
  intro stream
  have noDivision : ∀ operation ∈ [Operation.unary operator (.plain (.whole number))],
      ¬ operation.DividesByZero := by simp [Operation.DividesByZero]
  cases operator with
  | plus | minus => exact .result rfl noDivision
  | not | invert => simp at isSign

theorem computes_binary {operator : BinaryOperator} {right : Int} (assigns : Bool)
    (allowed : operator.StaysWhole ∨ operator = .power ∧ 0 ≤ right) (left : Int) :
    Computes IsPlainWhole (operator.exactResult? left right)
      (Reading.recorded.perform
        (.binary operator assigns (.plain (.whole left)) (.plain (.whole right)))) := by
  intro stream
  have dividesIff : Operation.DividesByZero
      (.binary operator assigns (.plain (.whole left)) (.plain (.whole right))) ↔
        operator.exactResult? left right = none := by
    rw [BinaryOperator.exactResult?_eq_none_iff (allowed.imp_right And.left)]
    simp [Operation.DividesByZero, Value.isTrue]
  have performed : Reading.recorded.perform
      (.binary operator assigns (.plain (.whole left)) (.plain (.whole right))) stream =
        ((Value.binary operator assigns (.plain (.whole left)) (.plain (.whole right)), stream),
          [.binary operator assigns (.plain (.whole left)) (.plain (.whole right))]) := rfl
  rw [performed]
  rcases binary_whole assigns allowed with ⟨fault, isNone, failed⟩ | ⟨number, isSome, succeeded⟩
  · rw [isNone, failed]
    exact .fault ⟨_, List.mem_singleton_self _, dividesIff.2 isNone⟩
  · rw [isSome, succeeded]
    refine .result rfl fun operation member divides => ?_
    rw [List.mem_singleton.1 member, dividesIff, isSome] at divides
    cases divides

end Computes

/-! ## Runs of scripts of whole numbers -/

/-- Whether the assigned names of a scope have the numbers that they stand for. -/
def Scope.HoldsWholes (assigned : String → Prop) (locals : String → Int) (scope : Scope) : Prop :=
  ∀ name, assigned name → scope.lookup? name = some (.plain (.whole (locals name)))

section Runs

variable {assigned : String → Prop} {locals : String → Int} {scope : Scope}

theorem Scope.HoldsWholes.readName (holds : scope.HoldsWholes assigned locals) {name : String}
    (isAssigned : assigned name) (stream : RandomStream) :
    Script.readName scope name stream = (.ok (.plain (.whole (locals name))), stream) := by
  rw [Script.readName, holds name isAssigned]
  rfl

theorem Scope.HoldsWholes.assign (holds : scope.HoldsWholes assigned locals) (name : String)
    {number : Int} {value : Value} (isPlain : IsPlainWhole number value) :
    (scope.assign name value).HoldsWholes (fun other => assigned other ∨ other = name)
      (Function.update locals name number) := by
  intro other reachable
  rw [Scope.lookup?_assign, Function.update_apply]
  split
  · rw [isPlain]
  · rename_i different
    exact holds other (reachable.resolve_right different)

theorem Scope.HoldsWholes.weaken {fewer : String → Prop} (holds : scope.HoldsWholes assigned locals)
    (isFewer : ∀ name, fewer name → assigned name) : scope.HoldsWholes fewer locals :=
  fun name isAssigned => holds name (isFewer name isAssigned)

/-- The right operand of an operator computes a number that the operator stays whole beside. -/
theorem computes_operand {operator : BinaryOperator} {operand : Expr}
    (takes : operator.TakesOperand operand)
    (computes : Computes IsPlainWhole (operand.whole? locals)
      (Reading.recorded.expr scope operand)) :
    Computes (fun number value => IsPlainWhole number value ∧
        (operator.StaysWhole ∨ operator = .power ∧ 0 ≤ number))
      (operand.whole? locals) (Reading.recorded.expr scope operand) := by
  rcases takes with staysWhole | ⟨isPower, exponent, rfl⟩
  · exact computes.imp fun isPlain => ⟨isPlain, .inl staysWhole⟩
  · rw [Expr.whole?, Reading.expr]
    exact Computes.embed (fun _ => rfl) ⟨rfl, .inr ⟨isPower, Int.natCast_nonneg exponent⟩⟩

/-- An expression has the value that it denotes. -/
theorem computes_expr {expression : Expr} (isWhole : IsWhole assigned expression)
    (holds : scope.HoldsWholes assigned locals) :
    Computes IsPlainWhole (expression.whole? locals) (Reading.recorded.expr scope expression) := by
  induction isWhole with
  | literal value =>
      rw [Expr.whole?, Reading.expr]
      exact Computes.embed (fun _ => rfl) rfl
  | name isAssigned =>
      rw [Expr.whole?, Reading.expr]
      exact Computes.embed (holds.readName isAssigned) rfl
  | unary isSign _ operandComputes =>
      rw [Expr.whole?, Reading.expr]
      refine operandComputes.bind fun {number value} isPlain => ?_
      rw [isPlain]
      exact computes_unary isSign number
  | binary takes _ _ leftComputes rightComputes =>
      rw [Expr.whole?, Reading.expr]
      refine leftComputes.bind fun {left leftValue} leftPlain => ?_
      refine (computes_operand takes rightComputes).bind fun {right rightValue} rightPlain => ?_
      obtain ⟨rightPlain, allowed⟩ := rightPlain
      rw [leftPlain, rightPlain]
      exact computes_binary false allowed left

/-- After a statement the names that it assigns stand for what it denotes. -/
theorem computes_statement {statement : Statement} (isWhole : IsWholeStatement assigned statement)
    (holds : scope.HoldsWholes assigned locals) :
    Computes (fun after scope => scope.HoldsWholes (KnownAfter assigned [statement]) after)
      (statement.wholes? locals) (Reading.recorded.statement scope statement) := by
  cases isWhole with
  | expression valueWhole =>
      rw [Statement.wholes?, Reading.statement]
      refine (computes_expr valueWhole holds).bind fun _ => Computes.pure ?_
      refine holds.weaken fun name reachable => ?_
      simpa [knownAfter_singleton] using reachable
  | assign valueWhole =>
      rw [Statement.wholes?, Reading.statement]
      refine (computes_expr valueWhole holds).bind fun isPlain => Computes.pure ?_
      refine (holds.assign _ isPlain).weaken fun other reachable => ?_
      simpa [knownAfter_singleton, Statement.assigned?, eq_comm] using reachable
  | @augmentedAssign name operator value isAssigned takes valueWhole =>
      rw [Statement.wholes?, Reading.statement]
      refine Computes.bind_embed (holds.readName isAssigned) ?_
      refine (computes_operand takes (computes_expr valueWhole holds)).bind
        fun {right rightValue} operandPlain => ?_
      obtain ⟨rightPlain, allowed⟩ := operandPlain
      rw [rightPlain]
      refine (computes_binary true allowed (locals name)).bind fun isPlain => Computes.pure ?_
      refine (holds.assign name isPlain).weaken fun other reachable => ?_
      exact .inl (by simpa [knownAfter_singleton, Statement.assigned?] using reachable)

/-- A run of statements: the invariant of one statement, from the first to the last. -/
theorem computes_body {statements : List Statement} (isWhole : IsWholeProgram assigned statements)
    (holds : scope.HoldsWholes assigned locals) :
    Computes IsPlainWhole (bodyWhole? locals statements)
      (Reading.recorded.body scope statements) := by
  induction isWhole generalizing locals scope with
  | last valueWhole =>
      rw [bodyWhole?, Reading.body]
      exact computes_expr valueWhole holds
  | cons firstWhole _ restComputes =>
      rw [bodyWhole?_cons_cons, Reading.body_cons_cons]
      exact (computes_statement firstWhole holds).bind restComputes

/-- A cell computes the whole number that its tree denotes, or ends at a division by zero. -/
theorem computes_tree {tree : List Statement} (isWhole : IsWholeProgram (fun _ => False) tree)
    (inputs : Inputs) :
    Computes IsPlainWhole (treeWhole? tree) (Reading.recorded.tree inputs tree) :=
  computes_body isWhole fun _ isAssigned => isAssigned.elim

end Runs

/-! ## Cells of scripts of whole numbers -/

theorem divides_operations_iff {tree : List Statement} {inputs : Inputs} {stream : RandomStream} :
    (∃ operation ∈ operations tree inputs stream, operation.DividesByZero) ↔
      ∃ operation ∈ (Reading.recorded.tree inputs tree stream).2, operation.DividesByZero := by
  rw [operations, recordedTree, Recorded.bind_apply]
  generalize Reading.recorded.tree inputs tree stream = ending
  rcases ending with ⟨⟨fault | value, after⟩, earlier⟩
  · rfl
  · have single : (Reading.recorded.perform (.toCell value) after).2 = [.toCell value] := rfl
    simp [single, Operation.DividesByZero]

/-- The double of a plain whole number, or a fault if it is too large. -/
theorem toCell_whole (number : Int) :
    Value.toCell (.plain (.whole number)) =
      if Double.overflowBound ≤ number.natAbs then .error .wholeTooLarge
      else .ok (Double.ofWhole number) := by
  have isReal : Value.toCell (.plain (.whole number)) = Plain.realOfWhole number := rfl
  rw [isReal, Plain.realOfWhole]
  simp only [Double.isInf_ofWhole_iff]

section Cells

variable {source : String} {tree : List Statement} {script : Script}

/-- A cell ends like the exact arithmetic of its tree. -/
theorem endsLike_lastValue (parsed : Grammar.parse? source = some tree)
    (compiled : compile source = .ok script) (isWhole : IsWholeProgram (fun _ => False) tree)
    (inputs : Inputs) (stream : RandomStream) :
    EndsLike IsPlainWhole stream (treeWhole? tree)
      (script.lastValue inputs stream, (Reading.recorded.tree inputs tree stream).2) := by
  obtain ⟨formed, -, rfl⟩ := (compile_eq_ok_iff_of_parse? parsed).1 compiled
  have sameOutcome : (Reading.recorded.tree inputs tree stream).1 =
      (ofTree source tree).lastValue inputs stream := by
    rw [lastValue_ofTree source formed]
    exact (simulates_recorded.tree stream).1
  rw [← sameOutcome]
  exact computes_tree isWhole inputs stream

/-- The value and the double of a cell whose tree denotes a whole number. -/
theorem evaluate_of_treeWhole? (parsed : Grammar.parse? source = some tree)
    (compiled : compile source = .ok script) (isWhole : IsWholeProgram (fun _ => False) tree)
    {number : Int} (denotes : treeWhole? tree = some number) (inputs : Inputs)
    (stream : RandomStream) :
    script.lastValue inputs stream = (.ok (.plain (.whole number)), stream) ∧
      script.evaluate inputs stream =
        (if Double.overflowBound ≤ number.natAbs then .error .wholeTooLarge
          else .ok (Double.ofWhole number), stream) := by
  have ends := endsLike_lastValue parsed compiled isWhole inputs stream
  rw [denotes] at ends
  obtain ⟨⟨value, isValue, rfl⟩, -⟩ := ends.of_some
  refine ⟨isValue, ?_⟩
  rw [evaluate_eq_lastValue, bind_apply, isValue, ← toCell_whole]
  rfl

/-- A script of whole numbers computes the whole number that exact arithmetic gives, of any size,
and only its double is rounded. A cell fails exactly if it performs a division by zero, or if its
number is too large for a double. -/
theorem evaluate_wholes (parsed : Grammar.parse? source = some tree)
    (compiled : compile source = .ok script) (isWhole : IsWholeProgram (fun _ => False) tree)
    (inputs : Inputs) (stream : RandomStream) :
    (∀ number, treeWhole? tree = some number →
      script.lastValue inputs stream = (.ok (.plain (.whole number)), stream) ∧
      script.evaluate inputs stream =
        (if Double.overflowBound ≤ number.natAbs then .error .wholeTooLarge
          else .ok (Double.ofWhole number), stream)) ∧
    ((∃ fault, (script.evaluate inputs stream).1 = .error fault) ↔
      (∃ operation ∈ operations tree inputs stream, operation.DividesByZero) ∨
        ∃ number, treeWhole? tree = some number ∧ Double.overflowBound ≤ number.natAbs) := by
  have denoted {number : Int} (denotes : treeWhole? tree = some number) :=
    evaluate_of_treeWhole? parsed compiled isWhole denotes inputs stream
  refine ⟨fun number => denoted, ?_⟩
  have ends := endsLike_lastValue parsed compiled isWhole inputs stream
  rw [divides_operations_iff]
  cases denotes : treeWhole? tree with
  | none =>
      rw [denotes] at ends
      obtain ⟨⟨fault, failed⟩, division⟩ := ends.of_none
      rw [evaluate_eq_lastValue, bind_apply, failed]
      exact iff_of_true ⟨fault, rfl⟩ (.inl division)
  | some number =>
      rw [denotes] at ends
      rw [or_iff_right ends.of_some.2, (denoted denotes).2]
      by_cases tooLarge : Double.overflowBound ≤ number.natAbs
      · simp [tooLarge]
      · simp [tooLarge]

end Cells

theorem parse?_wholes :
    Grammar.parse? "c=7;c%=-3;c**5-10**20//3" = some
      [.assign [.name "c"] (.literal (.whole 7)),
        .augmentedAssign (.name "c") .modulo (.unary .minus (.literal (.whole 3))),
        .expression (.binary .subtract
          (.binary .power (.name "c") (.literal (.whole 5)))
          (.binary .floorDivide (.binary .power (.literal (.whole 10)) (.literal (.whole 20)))
            (.literal (.whole 3))))] :=
  parse?_eq_some_of_sameTree (by decide +kernel)

/-- A remainder of a negative divisor, an odd power of it, and a quotient of more than 64 bits. -/
theorem evaluate_wholes_beyond_words :
    ∃ script, compile "c=7;c%=-3;c**5-10**20//3" = .ok script ∧
      script.lastValue ⟨0, 0, 0, 0, 0, 0⟩ ⟨fun _ => 0, 0⟩ =
        (.ok (.plain (.whole (-33333333333333333365))), ⟨fun _ => 0, 0⟩) := by
  have compiled := compile_eq_ok_of_parse? parse?_wholes (by decide +kernel)
  have assignedFirst : KnownAfter (fun _ => False)
      [.assign [.name "c"] (.literal (.whole 7))] "c" :=
    knownAfter_singleton.2 (.inr (Statement.assigned?_eq_some_iff.2 ⟨_, rfl⟩))
  have staysAssigned {statement : Statement} {known : String → Prop} (isKnown : known "c") :
      KnownAfter known [statement] "c" := knownAfter_singleton.2 (.inl isKnown)
  obtain ⟨gives, -⟩ := evaluate_wholes parse?_wholes compiled
    (.cons (.assign (.literal 7)) (.cons
      (.augmentedAssign assignedFirst (.inl (by decide)) (.unary (by decide) (.literal 3)))
      (.last (.binary (.inl (by decide))
        (.binary (.inr ⟨rfl, 5, rfl⟩) (.name (staysAssigned assignedFirst)) (.literal 5))
        (.binary (.inl (by decide))
          (.binary (.inr ⟨rfl, 20, rfl⟩) (.literal 10) (.literal 20)) (.literal 3))))))
    ⟨0, 0, 0, 0, 0, 0⟩ ⟨fun _ => 0, 0⟩
  exact ⟨_, compiled, (gives (-33333333333333333365) (by decide +kernel)).1⟩

end LiveGrid.Script
