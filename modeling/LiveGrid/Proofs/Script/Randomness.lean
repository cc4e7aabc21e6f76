import LiveGrid.Proofs.Script.Sandbox

/-!
Contract: how many random numbers a script can take.

Owns:
- the calls of a syntax tree that ask for a random number, and that hoisting keeps their number;
- evaluations that take at most so many numbers from a stream and depend on no others;
- an evaluation of a compiled script takes at most as many numbers as its text has such calls.

A chain of two evaluations gives the second one the numbers that the first one left over. Two streams
that agree on the numbers that both may take together therefore agree, after the first evaluation, on
those that the second may take.

Does not own: which numbers a stream has.
-/

namespace LiveGrid.Script

open Evaluation

/-! ## Calls for random numbers -/

/-- Whether a node is a call for a random number. -/
def Node.callsRandom : Node → Bool
  | .expr (.call (.name name) _ _) => name == "rand"
  | _ => false

/-- How many calls of an expression ask for a random number. -/
def Expr.randomCalls (expression : Expr) : Nat := expression.nodes.countP Node.callsRandom

def randomCallsOf : List Expr → Nat
  | [] => 0
  | first :: rest => first.randomCalls + randomCallsOf rest

/-- The expression whose value a statement uses. -/
def Statement.value? : Statement → Option Expr
  | .assign _ value => some value
  | .augmentedAssign _ _ value => some value
  | .expression value => some value
  | .foreign _ => none

/-- How many calls of statements ask for a random number. -/
def randomCalls (statements : List Statement) : Nat :=
  randomCallsOf (statements.filterMap Statement.value?)

theorem randomCallsOf_append {first second : List Expr} :
    randomCallsOf (first ++ second) = randomCallsOf first + randomCallsOf second := by
  induction first with
  | nil => exact (Nat.zero_add _).symm
  | cons expression rest inductionHypothesis =>
      rw [List.cons_append, randomCallsOf, randomCallsOf, inductionHypothesis]
      omega

theorem countP_flatMap_nodes {expressions : List Expr} :
    (expressions.flatMap Expr.nodes).countP Node.callsRandom = randomCallsOf expressions := by
  induction expressions with
  | nil => rfl
  | cons first rest inductionHypothesis =>
      rw [List.flatMap_cons, List.countP_append, inductionHypothesis]
      rfl

namespace Expr

theorem randomCalls_unary {operator : UnaryOperator} {operand : Expr} :
    (unary operator operand).randomCalls = operand.randomCalls := by
  rw [randomCalls, countP_nodes_unary rfl]
  rfl

theorem randomCalls_binary {operator : BinaryOperator} {left right : Expr} :
    (binary operator left right).randomCalls = left.randomCalls + right.randomCalls := by
  rw [randomCalls, countP_nodes_binary rfl]
  rfl

theorem randomCalls_bool {operator : BoolOperator} {operands : List Expr} :
    (bool operator operands).randomCalls = randomCallsOf operands := by
  rw [randomCalls, countP_nodes_bool rfl, countP_flatMap_nodes]
  rfl

theorem randomCalls_compare {first : Expr} {links : List (CompareOperator × Expr)} :
    (compare first links).randomCalls =
      first.randomCalls + randomCallsOf (links.map Prod.snd) := by
  rw [randomCalls, countP_nodes_compare fun _ => rfl, countP_flatMap_nodes]
  rfl

theorem randomCalls_conditional {test body otherwise : Expr} :
    (conditional test body otherwise).randomCalls =
      test.randomCalls + (body.randomCalls + otherwise.randomCalls) := by
  rw [randomCalls, countP_nodes_conditional]
  rfl

theorem randomCalls_call {function : String} {arguments : List Expr} {keywordCount : Nat} :
    (call (.name function) arguments keywordCount).randomCalls =
      (if function = "rand" then 1 else 0) + randomCallsOf arguments := by
  have own : Node.callsRandom (.expr (call (.name function) arguments keywordCount)) =
    (function == "rand") := rfl
  have noName : (name function).nodes.countP Node.callsRandom = 0 := rfl
  rw [randomCalls, countP_nodes_call, noName, Nat.zero_add, countP_flatMap_nodes, own, Nat.add_comm]
  simp

end Expr

/-! ## Evaluations that take few numbers -/

/-- The stream after some of its numbers have been taken. -/
def RandomStream.skip (stream : RandomStream) (count : Nat) : RandomStream :=
  { stream with drawn := stream.drawn + count }

theorem RandomStream.skip_skip {stream : RandomStream} {count more : Nat} :
    (stream.skip count).skip more = stream.skip (count + more) := by
  simp only [skip, Nat.add_assoc]

/-- Whether two streams go on with the same numbers, so many of them. -/
def RandomStream.AgreesFor (count : Nat) (stream other : RandomStream) : Prop :=
  ∀ offset < count,
    other.number (other.drawn + offset) = stream.number (stream.drawn + offset)

/-- An evaluation takes at most so many numbers from a stream, and does the same to every stream that
goes on with the same ones. -/
def TakesAtMost {Result : Type} (count : Nat) (action : Evaluation Result) : Prop :=
  ∀ stream, ∃ taken ≤ count, ∀ other, stream.AgreesFor count other →
    action other = ((action stream).1, other.skip taken)

namespace TakesAtMost

variable {First Second : Type} {count more : Nat}

/-- An evaluation that takes no number does not depend on the stream, and leaves it as it is. -/
theorem apply_eq {action : Evaluation First} (takes : TakesAtMost 0 action)
    (stream other : RandomStream) : action other = ((action stream).1, other) := by
  obtain ⟨taken, few, same⟩ := takes stream
  obtain rfl : taken = 0 := Nat.le_zero.1 few
  exact same other fun offset below => absurd below (Nat.not_lt_zero offset)

theorem ofExcept {result : Except Fault First} : TakesAtMost count (Evaluation.ofExcept result) :=
  fun _ => ⟨0, Nat.zero_le count, fun _ _ => rfl⟩

protected theorem pure {value : First} : TakesAtMost count (pure value : Evaluation First) :=
  fun _ => ⟨0, Nat.zero_le count, fun _ _ => rfl⟩

protected theorem throw {fault : Fault} : TakesAtMost count (throw fault : Evaluation First) :=
  fun _ => ⟨0, Nat.zero_le count, fun _ _ => rfl⟩

theorem drawRandom : TakesAtMost 1 drawRandom := by
  intro stream
  refine ⟨1, Nat.le_refl 1, fun other agrees => ?_⟩
  have sameNumber : other.number other.drawn = stream.number stream.drawn :=
    agrees 0 Nat.zero_lt_one
  show (Except.ok (Value.machine (.double (other.number other.drawn))), other.skip 1) = _
  rw [sameNumber]
  rfl

theorem weaken {action : Evaluation First} (takes : TakesAtMost count action)
    (fewer : count ≤ more) : TakesAtMost more action := by
  intro stream
  obtain ⟨taken, few, same⟩ := takes stream
  refine ⟨taken, Nat.le_trans few fewer, fun other agrees => ?_⟩
  exact same other fun offset below => agrees offset (Nat.lt_of_lt_of_le below fewer)

/-- A chain takes at most what both of its parts take. -/
theorem bind_of_ensures {onFault : Fault → Prop} {onFirst : First → Prop}
    {action : Evaluation First} {next : First → Evaluation Second}
    (first : TakesAtMost count action) (ensures : Ensures onFault onFirst action)
    (second : ∀ value, onFirst value → TakesAtMost more (next value)) :
    TakesAtMost (count + more) (action >>= next) := by
  intro stream
  obtain ⟨taken, few, same⟩ := first stream
  have unchanged : action stream = ((action stream).1, stream.skip taken) :=
    same stream fun _ _ => rfl
  have shorter : ∀ other, stream.AgreesFor (count + more) other → stream.AgreesFor count other :=
    fun other agrees offset below => agrees offset (Nat.lt_add_right more below)
  cases outcome : (action stream).1 with
  | error fault =>
      refine ⟨taken, Nat.le_add_right_of_le few, fun other agrees => ?_⟩
      rw [bind_apply, bind_apply, same other (shorter other agrees), unchanged, outcome]
  | ok value =>
      rw [outcome] at unchanged
      obtain ⟨takenThen, fewThen, sameThen⟩ :=
        second value (ensures.of_ok unchanged) (stream.skip taken)
      refine ⟨taken + takenThen, Nat.add_le_add few fewThen, fun other agrees => ?_⟩
      have agreesThen : (stream.skip taken).AgreesFor more (other.skip taken) := by
        intro offset below
        show other.number (other.drawn + taken + offset) =
          stream.number (stream.drawn + taken + offset)
        rw [Nat.add_assoc, Nat.add_assoc]
        exact agrees (taken + offset) (by omega)
      rw [bind_apply, bind_apply, same other (shorter other agrees), outcome, unchanged]
      dsimp only
      rw [sameThen (other.skip taken) agreesThen, RandomStream.skip_skip]

protected theorem bind {action : Evaluation First} {next : First → Evaluation Second}
    (first : TakesAtMost count action) (second : ∀ value, TakesAtMost more (next value)) :
    TakesAtMost (count + more) (action >>= next) := by
  have anything : Ensures (fun _ => True) (fun _ => True) action := by
    intro stream
    split <;> trivial
  exact first.bind_of_ensures anything fun value _ => second value

theorem zero_bind {action : Evaluation First} {next : First → Evaluation Second}
    (first : TakesAtMost 0 action) (second : ∀ value, TakesAtMost count (next value)) :
    TakesAtMost count (action >>= next) := by
  have chain := first.bind second
  rw [Nat.zero_add] at chain
  exact chain

theorem bind_zero {action : Evaluation First} {next : First → Evaluation Second}
    (first : TakesAtMost count action) (second : ∀ value, TakesAtMost 0 (next value)) :
    TakesAtMost count (action >>= next) :=
  first.bind second

end TakesAtMost

/-! ## Expressions -/

variable {known : String → Prop} {shared : List (String × Value)} {scope : Scope}

theorem takesAtMost_readName {name : String} : TakesAtMost 0 (readName scope name) := by
  unfold readName
  split
  · exact TakesAtMost.pure
  · exact TakesAtMost.throw

theorem takesAtMost_evaluateAll {expressions : List Expr}
    (each : ∀ expression ∈ expressions,
      TakesAtMost expression.randomCalls (evaluateExpr scope expression)) :
    TakesAtMost (randomCallsOf expressions) (evaluateAll scope expressions) := by
  induction expressions with
  | nil =>
      rw [evaluateAll]
      exact TakesAtMost.pure
  | cons first rest inductionHypothesis =>
      obtain ⟨firstTakes, restTake⟩ := List.forall_mem_cons.1 each
      rw [evaluateAll, randomCallsOf]
      exact firstTakes.bind fun value => (inductionHypothesis restTake).bind_zero fun values =>
        TakesAtMost.pure

/-- Operands that are not evaluated take nothing. -/
theorem takesAtMost_evaluateOperands {operator : BoolOperator} {operands : List Expr}
    (each : ∀ operand ∈ operands,
      TakesAtMost operand.randomCalls (evaluateExpr scope operand)) :
    TakesAtMost (randomCallsOf operands) (evaluateOperands scope operator operands) := by
  induction operands with
  | nil =>
      rw [evaluateOperands]
      exact TakesAtMost.pure
  | cons first rest inductionHypothesis =>
      obtain ⟨firstTakes, restTake⟩ := List.forall_mem_cons.1 each
      rw [randomCallsOf]
      cases rest with
      | nil =>
          rw [evaluateOperands]
          exact firstTakes
      | cons second others =>
          rw [evaluateOperands]
          · refine firstTakes.bind fun value => ?_
            split
            · exact TakesAtMost.pure
            · exact inductionHypothesis restTake
          · simp

theorem takesAtMost_evaluateLinks {left : Value} {links : List (CompareOperator × Expr)}
    (each : ∀ link ∈ links, TakesAtMost link.2.randomCalls (evaluateExpr scope link.2)) :
    TakesAtMost (randomCallsOf (links.map Prod.snd)) (evaluateLinks scope left links) := by
  induction links generalizing left with
  | nil =>
      rw [evaluateLinks]
      exact TakesAtMost.pure
  | cons first rest inductionHypothesis =>
      obtain ⟨firstTakes, restTake⟩ := List.forall_mem_cons.1 each
      rw [List.map_cons, randomCallsOf]
      cases rest with
      | nil =>
          rw [evaluateLinks]
          exact firstTakes.bind_zero fun right => TakesAtMost.ofExcept
      | cons second others =>
          rw [evaluateLinks]
          · refine firstTakes.bind fun right => TakesAtMost.ofExcept.zero_bind fun outcome => ?_
            split
            · exact inductionHypothesis restTake
            · exact TakesAtMost.pure
          · simp

theorem name_of_lookup_rand {name : String}
    (entry : functionTable.lookup name = some Function.rand) : name = "rand" := by
  have each : ∀ entry ∈ functionTable, entry.2 = Function.rand → entry.1 = "rand" := by
    decide +kernel
  obtain ⟨before, after, split, -⟩ := List.lookup_eq_some_iff.1 entry
  have member : (name, Function.rand) ∈ functionTable := by simp [split]
  exact each (name, Function.rand) member rfl

/-- Only a call of `rand` itself takes a number, and only if it has no arguments. -/
theorem takesAtMost_callValue {name : String} {function : Function} {arguments : List Value}
    (entry : functionTable.lookup name = some function) :
    TakesAtMost (if name = "rand" then 1 else 0) (callValue (.function function) arguments) := by
  cases function with
  | rand =>
      rw [if_pos (name_of_lookup_rand entry), callValue]
      split
      · exact TakesAtMost.drawRandom
      · exact TakesAtMost.ofExcept
  | _ => exact TakesAtMost.ofExcept

/-- An expression takes at most one number for each of its calls that ask for one. -/
theorem takesAtMost_evaluateExpr (serves : scope.Serves known shared)
    (holds : HoldsFunctions shared) {expression : Expr} (formed : WellFormed known expression) :
    TakesAtMost expression.randomCalls (evaluateExpr scope expression) := by
  induction formed with
  | whole value => exact TakesAtMost.pure
  | real value => exact TakesAtMost.pure
  | truth value => exact TakesAtMost.pure
  | name reachable =>
      rw [evaluateExpr]
      exact takesAtMost_readName
  | unary _ _ operandHypothesis =>
      rw [evaluateExpr, Expr.randomCalls_unary]
      exact operandHypothesis.bind_zero fun operand => TakesAtMost.ofExcept
  | binary _ _ _ leftHypothesis rightHypothesis =>
      rw [evaluateExpr, Expr.randomCalls_binary]
      exact leftHypothesis.bind fun left => rightHypothesis.bind_zero fun right =>
        TakesAtMost.ofExcept
  | bool _ operandsHypothesis =>
      rw [evaluateExpr, Expr.randomCalls_bool]
      exact takesAtMost_evaluateOperands operandsHypothesis
  | compare _ _ _ firstHypothesis linksHypothesis =>
      rw [evaluateExpr, Expr.randomCalls_compare]
      exact firstHypothesis.bind fun first => takesAtMost_evaluateLinks linksHypothesis
  | conditional _ _ _ testHypothesis bodyHypothesis otherwiseHypothesis =>
      rw [evaluateExpr, Expr.randomCalls_conditional]
      refine testHypothesis.bind fun test => ?_
      split
      · exact bodyHypothesis.weaken (Nat.le_add_right _ _)
      · exact otherwiseHypothesis.weaken (Nat.le_add_left _ _)
  | call isFunction argumentsFormed argumentsHypothesis =>
      obtain ⟨name, function, same, entry, called⟩ :=
        serves.evaluateExpr_call holds (.call isFunction argumentsFormed)
      cases same
      rw [called, Expr.randomCalls_call, Nat.add_comm]
      exact (takesAtMost_evaluateAll argumentsHypothesis).bind fun arguments =>
        takesAtMost_callValue entry

/-! ## Statements -/

theorem randomCalls_append {first second : List Statement} :
    randomCalls (first ++ second) = randomCalls first + randomCalls second := by
  rw [randomCalls, List.filterMap_append, randomCallsOf_append]
  rfl

theorem randomCalls_cons {statement : Statement} {rest : List Statement} :
    randomCalls (statement :: rest) = randomCalls [statement] + randomCalls rest := by
  rw [← List.singleton_append, randomCalls_append]

theorem takesAtMost_runStatement (serves : scope.Serves known shared)
    (holds : HoldsFunctions shared) {statement : Statement}
    (formed : WellFormedStatement known statement) :
    TakesAtMost (randomCalls [statement]) (runStatement scope statement) := by
  cases formed with
  | expression valueFormed =>
      rw [runStatement]
      exact (takesAtMost_evaluateExpr serves holds valueFormed).bind_zero fun _ => TakesAtMost.pure
  | assign _ valueFormed =>
      rw [runStatement]
      exact (takesAtMost_evaluateExpr serves holds valueFormed).bind_zero fun _ => TakesAtMost.pure
  | augmentedAssign _ _ _ valueFormed =>
      rw [runStatement]
      refine takesAtMost_readName.zero_bind fun current => ?_
      refine (takesAtMost_evaluateExpr serves holds valueFormed).bind_zero fun operand => ?_
      exact TakesAtMost.ofExcept.zero_bind fun result => TakesAtMost.pure

theorem takesAtMost_runStatements (serves : scope.Serves known shared)
    (holds : HoldsFunctions shared) {statements : List Statement}
    (formed : WellFormedStatements known statements) :
    TakesAtMost (randomCalls statements) (runStatements scope statements) := by
  induction statements generalizing known scope with
  | nil =>
      rw [runStatements]
      exact TakesAtMost.pure
  | cons first rest inductionHypothesis =>
      obtain ⟨firstFormed, restFormed⟩ := wellFormedStatements_cons.1 formed
      rw [runStatements, randomCalls_cons]
      exact (takesAtMost_runStatement serves holds firstFormed).bind_of_ensures
        (ensures_runStatement serves holds firstFormed) fun after afterServes =>
          inductionHypothesis afterServes restFormed

/-! ## Hoisting -/

theorem randomCallsOf_hoistAll {expressions : List Expr}
    (each : ∀ expression ∈ expressions, ∀ bound,
      ((hoistExpr expression).run bound).1.randomCalls = expression.randomCalls)
    (bound : List (String × Float)) :
    randomCallsOf ((hoistAll expressions).run bound).1 = randomCallsOf expressions := by
  induction expressions generalizing bound with
  | nil => rfl
  | cons first rest inductionHypothesis =>
      obtain ⟨firstKeeps, restKeep⟩ := List.forall_mem_cons.1 each
      rw [randomCallsOf, ← firstKeeps bound,
        ← inductionHypothesis restKeep ((hoistExpr first).run bound).2]
      rfl

theorem randomCallsOf_hoistLinks {links : List (CompareOperator × Expr)}
    (each : ∀ link ∈ links, ∀ bound,
      ((hoistExpr link.2).run bound).1.randomCalls = link.2.randomCalls)
    (bound : List (String × Float)) :
    randomCallsOf (((hoistLinks links).run bound).1.map Prod.snd) =
      randomCallsOf (links.map Prod.snd) := by
  induction links generalizing bound with
  | nil => rfl
  | cons first rest inductionHypothesis =>
      obtain ⟨firstKeeps, restKeep⟩ := List.forall_mem_cons.1 each
      rw [List.map_cons, randomCallsOf, ← firstKeeps bound,
        ← inductionHypothesis restKeep ((hoistExpr first.2).run bound).2]
      rfl

/-- A name for a literal calls nothing, like the literal itself. -/
theorem randomCalls_hoistExpr {expression : Expr} (formed : WellFormed known expression)
    (bound : List (String × Float)) :
    ((hoistExpr expression).run bound).1.randomCalls = expression.randomCalls := by
  induction formed generalizing bound with
  | whole value => rfl
  | real value => rfl
  | truth value => rfl
  | name reachable => rfl
  | @unary operator operand _ _ operandHypothesis =>
      show (Expr.unary operator ((hoistExpr operand).run bound).1).randomCalls = _
      rw [Expr.randomCalls_unary, Expr.randomCalls_unary, operandHypothesis]
  | @binary operator left right _ _ _ leftHypothesis rightHypothesis =>
      let afterLeft := (hoistExpr left).run bound
      show (Expr.binary operator afterLeft.1 ((hoistExpr right).run afterLeft.2).1).randomCalls = _
      rw [Expr.randomCalls_binary, Expr.randomCalls_binary, leftHypothesis, rightHypothesis]
  | @bool operator operands _ operandsHypothesis =>
      show (Expr.bool operator ((hoistAll operands).run bound).1).randomCalls = _
      rw [Expr.randomCalls_bool, Expr.randomCalls_bool,
        randomCallsOf_hoistAll operandsHypothesis]
  | @compare first links _ _ _ firstHypothesis linksHypothesis =>
      let afterFirst := (hoistExpr first).run bound
      show (Expr.compare afterFirst.1 ((hoistLinks links).run afterFirst.2).1).randomCalls = _
      rw [Expr.randomCalls_compare, Expr.randomCalls_compare, firstHypothesis,
        randomCallsOf_hoistLinks linksHypothesis]
  | @conditional test body otherwise _ _ _ testHypothesis bodyHypothesis otherwiseHypothesis =>
      let afterTest := (hoistExpr test).run bound
      let afterBody := (hoistExpr body).run afterTest.2
      show (Expr.conditional afterTest.1 afterBody.1
        ((hoistExpr otherwise).run afterBody.2).1).randomCalls = _
      rw [Expr.randomCalls_conditional, Expr.randomCalls_conditional, testHypothesis,
        bodyHypothesis, otherwiseHypothesis]
  | @call function arguments _ _ argumentsHypothesis =>
      show (Expr.call (.name function) ((hoistAll arguments).run bound).1 0).randomCalls = _
      rw [Expr.randomCalls_call, Expr.randomCalls_call,
        randomCallsOf_hoistAll argumentsHypothesis]

/-- Whether the values of statements are well-formed, over whatever names. -/
def HaveFormedValues (statements : List Statement) : Prop :=
  ∀ statement ∈ statements, ∀ value, statement.value? = some value →
    ∃ known, WellFormed known value

theorem randomCalls_hoistStatement {statement : Statement}
    (formed : ∀ value, statement.value? = some value → ∃ known, WellFormed known value)
    (bound : List (String × Float)) :
    randomCalls [((hoistStatement statement).run bound).1] = randomCalls [statement] := by
  cases statement with
  | assign targets value =>
      obtain ⟨known, valueFormed⟩ := formed value rfl
      exact congrArg (· + 0) (randomCalls_hoistExpr valueFormed bound)
  | augmentedAssign target operator value =>
      obtain ⟨known, valueFormed⟩ := formed value rfl
      exact congrArg (· + 0) (randomCalls_hoistExpr valueFormed bound)
  | expression value =>
      obtain ⟨known, valueFormed⟩ := formed value rfl
      exact congrArg (· + 0) (randomCalls_hoistExpr valueFormed bound)
  | foreign kind => rfl

theorem randomCalls_hoistStatements {statements : List Statement}
    (formed : HaveFormedValues statements) (bound : List (String × Float)) :
    randomCalls ((hoistStatements statements).run bound).1 = randomCalls statements := by
  induction statements generalizing bound with
  | nil => rfl
  | cons first rest inductionHypothesis =>
      obtain ⟨firstFormed, restFormed⟩ := List.forall_mem_cons.1 formed
      let afterFirst := (hoistStatement first).run bound
      show randomCalls (afterFirst.1 :: ((hoistStatements rest).run afterFirst.2).1) = _
      rw [randomCalls_cons, randomCalls_hoistStatement firstFormed, inductionHypothesis restFormed,
        ← randomCalls_cons]

theorem WellFormedStatements.haveFormedValues {statements : List Statement}
    (formed : WellFormedStatements known statements) : HaveFormedValues statements := by
  intro statement member value isValue
  obtain ⟨before, after, split⟩ := List.append_of_mem member
  refine ⟨KnownAfter known before, ?_⟩
  cases formed before statement after split with
  | expression valueFormed =>
      cases isValue
      exact valueFormed
  | assign _ valueFormed =>
      cases isValue
      exact valueFormed
  | augmentedAssign _ _ _ valueFormed =>
      cases isValue
      exact valueFormed

/-! ## Scripts -/

variable {source : String} {tree : List Statement} {script : Script}

theorem haveFormedValues_append_result {earlier : List Statement} {value : Expr}
    (earlierFormed : WellFormedStatements known earlier)
    (valueFormed : WellFormed (KnownAfter known earlier) value) :
    HaveFormedValues (earlier ++ [.assign [.name resultName] value]) := by
  intro statement member
  rcases List.mem_append.1 member with inEarlier | isLast
  · exact earlierFormed.haveFormedValues statement inEarlier
  · cases List.mem_singleton.1 isLast
    rintro _ ⟨rfl⟩
    exact ⟨_, valueFormed⟩

theorem randomCalls_ofTree (source : String) (formed : WellFormedProgram known tree) :
    randomCalls (ofTree source tree).statements = randomCalls tree := by
  obtain ⟨earlier, value, rfl, earlierFormed, valueFormed⟩ := formed
  have kept := haveFormedValues_append_result earlierFormed valueFormed
  show randomCalls ((hoistStatements (keepResult (earlier ++ [.expression value]))).run []).1 = _
  rw [keepResult_append, randomCalls_hoistStatements kept, randomCalls_append, randomCalls_append]
  rfl

/-- A cell of a compiled script takes at most one number for each call that asks for one. -/
theorem takesAtMost_evaluate (formed : WellFormedProgram IsInitial tree) (inputs : Inputs) :
    TakesAtMost (randomCalls tree) ((ofTree source tree).evaluate inputs) := by
  rw [← randomCalls_ofTree source formed]
  obtain ⟨table, shared, earlier, value, statements, earlierFormed, valueFormed⟩ :=
    wellFormedCompilation_ofTree source formed
  have holds : HoldsFunctions (sharedNames table) := holdsFunctions_standardNames
  have serves := serves_inputs inputs table
  rw [evaluate_eq_bind statements, shared, statements, randomCalls_append]
  refine (takesAtMost_runStatements serves holds earlierFormed).bind_of_ensures
    (ensures_runStatements serves holds earlierFormed) fun scope scopeServes => ?_
  show TakesAtMost (value.randomCalls + 0) _
  exact (takesAtMost_evaluateExpr scopeServes holds valueFormed).bind fun result =>
    TakesAtMost.ofExcept

theorem takesAtMost_evaluate_of_compile (parsed : Grammar.parse? source = some tree)
    (compiled : compile source = .ok script) (inputs : Inputs) :
    TakesAtMost (randomCalls tree) (script.evaluate inputs) := by
  obtain ⟨formed, -, rfl⟩ := (compile_eq_ok_iff_of_parse? parsed).1 compiled
  exact takesAtMost_evaluate formed inputs

end LiveGrid.Script
