import LiveGrid.Proofs.Script.FunctionOperands

/-!
Contract: names of functions that an evaluation reads without calling them.

Owns:
- trees in which a node outside the language stands for every such name, so that their evaluation
  ends where the first of these names is read;
- places where a value is used: a function there is a fault;
- a cell that reads the name of a function in such a place fails.

A function that is only tested, compared for equality, left as the unused bound of a limit, or not
used at all is no fault. A conditional and the last operand of a conjunction hand their value on, so
they are used where they stand.

Does not own: which operations fail for a function.
-/

namespace LiveGrid.Script

open Evaluation

/-! ## Trees without functions as values -/

namespace Expr

mutual

/-- The expression in which a lambda stands for every name of a function that is not called. -/
def guarded : Expr → Expr
  | .literal value => .literal value
  | .name identifier =>
      if isFunctionName identifier then .foreign .lambda [] else .name identifier
  | .unary operator operand => .unary operator operand.guarded
  | .binary operator left right => .binary operator left.guarded right.guarded
  | .bool operator operands => .bool operator (guardedAll operands)
  | .compare first links => .compare first.guarded (guardedLinks links)
  | .conditional test body otherwise =>
      .conditional test.guarded body.guarded otherwise.guarded
  | .call function arguments keywordCount => .call function (guardedAll arguments) keywordCount
  | .foreign kind parts => .foreign kind parts

/-- Expressions in which lambdas stand for names of functions. -/
def guardedAll : List Expr → List Expr
  | [] => []
  | expression :: rest => expression.guarded :: guardedAll rest

/-- The links of a comparison in which lambdas stand for names of functions. -/
def guardedLinks : List (CompareOperator × Expr) → List (CompareOperator × Expr)
  | [] => []
  | (operator, expression) :: rest => (operator, expression.guarded) :: guardedLinks rest

end

/-- How many arguments a function always looks at, of those that it gets. -/
def usedCount (function : Expr) (given : Nat) : Nat :=
  match function with
  | .name identifier =>
      if functionTable.lookup identifier = some .clamp then 2 else given
  | _ => 0

/-- Whether the links of a comparison all ask for an order. -/
def allOrdered (links : List (CompareOperator × Expr)) : Bool :=
  !links.isEmpty && links.all fun link => (Value.equalityOf? link.1).isNone

mutual

/-- Whether names of functions that are not called stand only where they are used, if the value of
the expression is used or not. -/
def usesFunctions (isUsed : Bool) : Expr → Bool
  | .literal _ => true
  | .name identifier => isUsed || !isFunctionName identifier
  | .unary operator operand => operand.usesFunctions (operator != .not)
  | .binary _ left right => left.usesFunctions true && right.usesFunctions true
  | .bool _ operands => lastUses isUsed operands
  | .compare first links =>
      first.usesFunctions (allOrdered links) && linksUse (allOrdered links) links
  | .conditional test body otherwise =>
      test.usesFunctions false && body.usesFunctions isUsed && otherwise.usesFunctions isUsed
  | .call function arguments _ => firstUse (usedCount function arguments.length) arguments
  | .foreign _ _ => true

/-- Whether the last of some operands may be a function, and the others may not. -/
def lastUses (isUsed : Bool) : List Expr → Bool
  | [] => true
  | [last] => last.usesFunctions isUsed
  | expression :: rest => expression.usesFunctions false && lastUses isUsed rest

/-- Whether the first of some arguments may be functions, and the others may not. -/
def firstUse (count : Nat) : List Expr → Bool
  | [] => true
  | expression :: rest => expression.usesFunctions (decide (0 < count)) && firstUse (count - 1) rest

def linksUse (isUsed : Bool) : List (CompareOperator × Expr) → Bool
  | [] => true
  | (_, expression) :: rest => expression.usesFunctions isUsed && linksUse isUsed rest

end

end Expr

/-- The statement in which lambdas stand for names of functions that are not called. -/
def Statement.guarded : Statement → Statement
  | .assign targets value => .assign targets value.guarded
  | .augmentedAssign target operator value => .augmentedAssign target operator value.guarded
  | .expression value => .expression value.guarded
  | .foreign kind => .foreign kind

/-- Whether names of functions stand only where they are used, in a statement that is not the last.
What is only assigned may never be used. -/
def Statement.usesFunctions : Statement → Bool
  | .assign _ value => value.usesFunctions false
  | .augmentedAssign _ _ value => value.usesFunctions true
  | .expression value => value.usesFunctions false
  | .foreign _ => true

/-- Whether names of functions that are not called stand only where they are used. The value of the
last statement is used. -/
def usesFunctions : List Statement → Bool
  | [] => true
  | [.expression value] => value.usesFunctions true
  | first :: rest => first.usesFunctions && usesFunctions rest

/-- The fault of a lambda. -/
def Fault.functionRead : Fault := .foreignNode "Lambda"

/-- Whether a cell of a tree reads the name of a function that it does not call: the evaluation with
lambdas for these names ends at one of them. -/
def ReadsFunction (tree : List Statement) (inputs : Inputs) (stream : RandomStream) : Prop :=
  (meaning (tree.map Statement.guarded) inputs stream).1 = .error .functionRead

instance (tree : List Statement) (inputs : Inputs) (stream : RandomStream) :
    Decidable (ReadsFunction tree inputs stream) :=
  decidableEqExcept _ _

/-! ## Evaluations next to guarded ones -/

/-- An evaluation that never gives a result. -/
def AlwaysFails {Result : Type} (action : Evaluation Result) : Prop :=
  ∀ stream, Fails (action stream).1

/-- Two evaluations do the same, or the first one meets the name of a function and the second one
ends in a way that is allowed then. -/
def Guards {Result : Type} (allowed : Except Fault Result → Prop)
    (guarded action : Evaluation Result) : Prop :=
  ∀ stream, guarded stream = action stream ∨
    (guarded stream).1 = .error .functionRead ∧ allowed (action stream).1

/-- A fault, or a function if the value is used. -/
def Allowed (isUsed : Bool) (outcome : Except Fault Value) : Prop :=
  Fails outcome ∨ isUsed = true ∧ ∃ own, outcome = .ok (.function own)

/-- A fault, or a function among the first values. -/
def AllowedAmong (count : Nat) (outcome : Except Fault (List Value)) : Prop :=
  Fails outcome ∨ ∃ values, outcome = .ok values ∧
    ∃ value ∈ values.take count, value.isFunction = true

section Guards

variable {First Second : Type}

theorem fails_bind_left {action : Evaluation First} {stream : RandomStream}
    (fails : Fails (action stream).1) (next : First → Evaluation Second) :
    Fails ((action >>= next) stream).1 := by
  obtain ⟨fault, failed⟩ := fails
  rw [bind_apply_of_error failed]
  exact fails_error

theorem AlwaysFails.bind_left {action : Evaluation First} (fails : AlwaysFails action)
    (next : First → Evaluation Second) : AlwaysFails (action >>= next) :=
  fun stream => fails_bind_left (fails stream) next

theorem AlwaysFails.bind_right {next : First → Evaluation Second}
    (fails : ∀ value, AlwaysFails (next value)) (action : Evaluation First) :
    AlwaysFails (action >>= next) := by
  intro stream
  rw [bind_apply]
  rcases action stream with ⟨fault | value, after⟩
  · exact fails_error
  · exact fails value after

theorem alwaysFails_perform {operation : Operation}
    (either : ∃ operand ∈ operation.operands, operand.isFunction = true)
    (notTolerated : ¬ operation.Tolerates) : AlwaysFails (Reading.plain.perform operation) :=
  operation.fails_of_function either notTolerated

namespace Guards

variable {allowed : Except Fault First → Prop} {onSecond : Except Fault Second → Prop}
  {guarded action : Evaluation First} {next nextAction : First → Evaluation Second}

protected theorem refl (action : Evaluation First) : Guards allowed action action :=
  fun _ => .inl rfl

/-- One step after the other, where the second only has to guard results that the first has. -/
theorem bind_ensures {property : First → Prop}
    (ensures : Ensures (fun _ => True) property action) (first : Guards allowed guarded action)
    (second : ∀ value, property value → Guards onSecond (next value) (nextAction value))
    (passes : ∀ stream, allowed (action stream).1 → onSecond ((action >>= nextAction) stream).1) :
    Guards onSecond (guarded >>= next) (action >>= nextAction) := by
  intro stream
  rcases first stream with same | ⟨read, isAllowed⟩
  · rw [bind_apply, bind_apply, same]
    have holds := ensures stream
    generalize action stream = outcome at holds ⊢
    rcases outcome with ⟨fault | value, after⟩
    · exact .inl rfl
    · exact second value holds after
  · refine .inr ⟨?_, passes stream isAllowed⟩
    rw [bind_apply_of_error read]

protected theorem bind (first : Guards allowed guarded action)
    (second : ∀ value, Guards onSecond (next value) (nextAction value))
    (passes : ∀ stream, allowed (action stream).1 → onSecond ((action >>= nextAction) stream).1) :
    Guards onSecond (guarded >>= next) (action >>= nextAction) :=
  first.bind_ensures Ensures.true (fun value _ => second value) passes

/-- What is done with a value fails for a function, if the value is used. -/
theorem bind_used {guarded action : Evaluation Value} {next nextAction : Value → Evaluation Second}
    {isUsed : Bool} (onFails : ∀ {outcome}, Fails outcome → onSecond outcome)
    (first : Guards (Allowed isUsed) guarded action)
    (second : ∀ value, Guards onSecond (next value) (nextAction value))
    (fails : isUsed = true → ∀ own, AlwaysFails (nextAction (.function own))) :
    Guards onSecond (guarded >>= next) (action >>= nextAction) := by
  refine first.bind second fun stream isAllowed => onFails ?_
  rcases isAllowed with failed | ⟨used, own, isFunction⟩
  · exact fails_bind_left failed _
  · rw [bind_apply_of_ok isFunction]
    exact fails used own _

end Guards

end Guards

/-! ## Expressions -/

variable {scope : Scope} {known : String → Prop} {isUsed : Bool}

/-- Whether the names of functions stand for the functions of the table. -/
def Scope.CallsTable (scope : Scope) : Prop :=
  ∀ name own, functionTable.lookup name = some own → scope.lookup? name = some (.function own)

theorem Scope.CallsTable.assign (calls : scope.CallsTable) {name : String}
    (assignable : IsAssignable name) (value : Value) : (scope.assign name value).CallsTable := by
  intro other own entry
  have different : other ≠ name := by
    intro same
    exact assignable.notFunction (isFunction_iff.2 ⟨own, same ▸ entry⟩)
  rw [Scope.lookup?_assign, if_neg different]
  exact calls other own entry

theorem embed_readName_of_lookup {name : String} {value : Value}
    (found : scope.lookup? name = some value) :
    Reading.plain.embed (readName scope name) = pure value := by
  rw [readName, found]
  rfl

/-- Operands of which only the last may be a function. -/
theorem guards_junction {operator : BoolOperator} {operands : List Expr}
    (each : ∀ operand ∈ operands, ∀ isUsed, operand.usesFunctions isUsed = true →
      Guards (Allowed isUsed) (Reading.plain.expr scope operand.guarded)
        (Reading.plain.expr scope operand))
    (uses : Expr.lastUses isUsed operands = true) :
    Guards (Allowed isUsed)
      (Reading.plain.junction scope operator (Expr.guardedAll operands))
      (Reading.plain.junction scope operator operands) := by
  induction operands with
  | nil => exact Guards.refl _
  | cons first rest inductionHypothesis =>
      obtain ⟨firstGuards, restGuard⟩ := List.forall_mem_cons.1 each
      cases rest with
      | nil =>
          rw [Expr.guardedAll, Expr.guardedAll, Reading.junction, Reading.junction]
          exact firstGuards isUsed uses
      | cons second others =>
          rw [Expr.lastUses, Bool.and_eq_true] at uses
          · have restIs := inductionHypothesis restGuard uses.2
            rw [Expr.guardedAll] at restIs
            rw [Expr.guardedAll, Expr.guardedAll, Reading.junction_cons_cons,
              Reading.junction_cons_cons]
            refine (firstGuards false uses.1).bind_used .inl (fun value => ?_) (by simp)
            split
            · exact Guards.refl _
            · exact restIs
          · simp

/-- A function at the beginning of a comparison that asks for an order. -/
theorem alwaysFails_chain {links : List (CompareOperator × Expr)}
    (ordered : Expr.allOrdered links = true) (own : Function) :
    AlwaysFails (Reading.plain.chain scope (.function own) links) := by
  cases links with
  | nil => cases ordered
  | cons first rest =>
      obtain ⟨operator, expression⟩ := first
      have isOrder : (Value.equalityOf? operator).isNone = true := by
        simp only [Expr.allOrdered, List.all_cons, Bool.and_eq_true] at ordered
        exact ordered.2.1
      have performs : ∀ right, AlwaysFails
          (Reading.plain.perform (.compare operator (.function own) right)) := by
        intro right
        refine alwaysFails_perform ⟨_, List.mem_cons_self, rfl⟩ ?_
        rintro (rfl | rfl) <;> cases isOrder
      cases rest with
      | nil =>
          rw [Reading.chain]
          exact AlwaysFails.bind_right performs _
      | cons second others =>
          rw [Reading.chain_cons_cons]
          exact AlwaysFails.bind_right (fun right => (performs right).bind_left _) _

/-- The links of a comparison. If they all ask for an order, each side may be a function, since it
is on one side of a comparison that is performed. -/
theorem guards_chain (left : Value) {links : List (CompareOperator × Expr)}
    (each : ∀ link ∈ links, ∀ isUsed, link.2.usesFunctions isUsed = true →
      Guards (Allowed isUsed) (Reading.plain.expr scope link.2.guarded)
        (Reading.plain.expr scope link.2))
    (uses : Expr.linksUse isUsed links = true)
    (ordered : isUsed = true → ∀ link ∈ links, Value.equalityOf? link.1 = none) :
    Guards Fails (Reading.plain.chain scope left (Expr.guardedLinks links))
      (Reading.plain.chain scope left links) := by
  induction links generalizing left with
  | nil => exact Guards.refl _
  | cons first rest inductionHypothesis =>
      obtain ⟨operator, expression⟩ := first
      obtain ⟨firstGuards, restGuard⟩ := List.forall_mem_cons.1 each
      rw [Expr.linksUse, Bool.and_eq_true] at uses
      have performs : isUsed = true → ∀ own, AlwaysFails
          (Reading.plain.perform (.compare operator left (.function own))) := by
        intro used own
        have noEquality := ordered used _ List.mem_cons_self
        refine alwaysFails_perform ⟨.function own, by simp [Operation.operands], rfl⟩ ?_
        rintro (rfl | rfl) <;> cases noEquality
      cases rest with
      | nil =>
          rw [Expr.guardedLinks, Expr.guardedLinks, Reading.chain, Reading.chain]
          exact (firstGuards isUsed uses.1).bind_used id (fun _ => Guards.refl _) performs
      | cons second others =>
          have restIs : ∀ left, Guards Fails
              (Reading.plain.chain scope left (Expr.guardedLinks (second :: others)))
              (Reading.plain.chain scope left (second :: others)) :=
            fun left => inductionHypothesis left restGuard uses.2
              fun used link member => ordered used link (List.mem_cons_of_mem _ member)
          rw [Expr.guardedLinks] at restIs
          rw [Expr.guardedLinks, Expr.guardedLinks, Reading.chain_cons_cons,
            Reading.chain_cons_cons]
          refine (firstGuards isUsed uses.1).bind_used id (fun right => ?_)
            fun used own => (performs used own).bind_left _
          refine Guards.bind (Guards.refl _) (fun outcome => ?_)
            fun _ failed => fails_bind_left failed _
          split
          · exact restIs right
          · exact Guards.refl _

/-- Arguments of which only the first may be functions. -/
theorem guards_exprs {count : Nat} {arguments : List Expr}
    (each : ∀ argument ∈ arguments, ∀ isUsed, argument.usesFunctions isUsed = true →
      Guards (Allowed isUsed) (Reading.plain.expr scope argument.guarded)
        (Reading.plain.expr scope argument))
    (use : Expr.firstUse count arguments = true) :
    Guards (AllowedAmong count) (Reading.plain.exprs scope (Expr.guardedAll arguments))
      (Reading.plain.exprs scope arguments) := by
  induction arguments generalizing count with
  | nil => exact Guards.refl _
  | cons first rest inductionHypothesis =>
      obtain ⟨firstGuards, restGuard⟩ := List.forall_mem_cons.1 each
      rw [Expr.firstUse, Bool.and_eq_true] at use
      rw [Expr.guardedAll, Reading.exprs, Reading.exprs]
      refine (firstGuards _ use.1).bind (fun value => ?_) fun stream isAllowed => ?_
      · refine (inductionHypothesis restGuard use.2).bind (fun values => Guards.refl _)
          fun stream isAllowed => ?_
        rcases isAllowed with failed | ⟨values, success, found, member, isFunction⟩
        · exact .inl (fails_bind_left failed _)
        · refine .inr ⟨value :: values, ?_, found, ?_, isFunction⟩
          · rw [bind_apply_of_ok success]
            rfl
          · cases count with
            | zero => exact absurd member List.not_mem_nil
            | succ count => exact List.mem_cons_of_mem _ member
      · rcases isAllowed with failed | ⟨used, own, isFunction⟩
        · exact .inl (fails_bind_left failed _)
        · rw [bind_apply_of_ok isFunction, bind_apply]
          rcases Reading.plain.exprs scope rest _ with ⟨fault | values, last⟩
          · exact .inl fails_error
          · refine .inr ⟨.function own :: values, rfl, .function own, ?_, rfl⟩
            obtain ⟨fewer, rfl⟩ := Nat.exists_eq_succ_of_ne_zero
              (Nat.ne_of_gt (of_decide_eq_true used))
            exact List.mem_cons_self

/-- A call with a function among the arguments that it always looks at. -/
theorem alwaysFails_call {name : String} {own : Function} {values : List Value} {given : Nat}
    (entry : functionTable.lookup name = some own)
    (either : ∃ value ∈ values.take (Expr.usedCount (.name name) given),
      value.isFunction = true) :
    AlwaysFails (Reading.plain.perform (.call (.function own) values)) := by
  obtain ⟨value, member, isFunction⟩ := either
  refine alwaysFails_perform ⟨value, List.mem_of_mem_take member, isFunction⟩ fun tolerated => ?_
  obtain ⟨first, lower, upper, isClamp, rfl, firstNot, lowerNot⟩ :=
    Operation.tolerates_call_iff.1 tolerated
  cases isClamp
  rw [Expr.usedCount, entry, if_pos rfl] at member
  simp only [List.take_succ_cons, List.take_zero, List.mem_cons, List.not_mem_nil,
    or_false] at member
  rcases member with rfl | rfl
  · rw [firstNot] at isFunction
    cases isFunction
  · rw [lowerNot] at isFunction
    cases isFunction

/-- Reading the name of a function is guarded, whatever reads it. -/
theorem guards_name (calls : scope.CallsTable) {name : String}
    (uses : (Expr.name name).usesFunctions isUsed = true) :
    Guards (Allowed isUsed) (Reading.plain.expr scope (Expr.name name).guarded)
      (Reading.plain.expr scope (.name name)) := by
  rw [Expr.guarded]
  split
  · rename_i isFunction
    rw [Expr.usesFunctions, isFunction, Bool.not_true, Bool.or_false] at uses
    obtain ⟨own, entry⟩ := Option.isSome_iff_exists.1 isFunction
    intro stream
    rw [Reading.expr, Reading.expr, embed_readName_of_lookup (calls name own entry)]
    exact .inr ⟨rfl, .inr ⟨uses, own, rfl⟩⟩
  · exact Guards.refl _

/-- An expression with names of functions only where they are used. -/
theorem guards_expr (calls : scope.CallsTable) {expression : Expr}
    (formed : WellFormed known expression) (uses : expression.usesFunctions isUsed = true) :
    Guards (Allowed isUsed) (Reading.plain.expr scope expression.guarded)
      (Reading.plain.expr scope expression) := by
  induction formed generalizing isUsed with
  | whole value | real value | truth value => exact Guards.refl _
  | name reachable => exact guards_name calls uses
  | @unary operator operand allowed _ operandGuards =>
      rw [Expr.guarded, Reading.expr, Reading.expr]
      refine (operandGuards uses).bind_used .inl (fun _ => Guards.refl _) fun used own => ?_
      exact alwaysFails_perform ⟨_, List.mem_cons_self, rfl⟩ (bne_iff_ne.1 used)
  | @binary operator left right allowed _ _ leftGuards rightGuards =>
      rw [Expr.usesFunctions, Bool.and_eq_true] at uses
      rw [Expr.guarded, Reading.expr, Reading.expr]
      refine (leftGuards uses.1).bind_used .inl (fun leftValue => ?_) fun _ own => ?_
      · refine (rightGuards uses.2).bind_used .inl (fun _ => Guards.refl _) fun _ own => ?_
        exact alwaysFails_perform ⟨.function own, by simp [Operation.operands], rfl⟩ id
      · refine AlwaysFails.bind_right (fun rightValue => ?_) _
        exact alwaysFails_perform ⟨.function own, by simp [Operation.operands], rfl⟩ id
  | bool _ operandsGuard =>
      rw [Expr.guarded, Reading.expr, Reading.expr]
      exact guards_junction (fun operand member _ => operandsGuard operand member) uses
  | @compare first links allowed _ _ firstGuards linksGuard =>
      rw [Expr.usesFunctions, Bool.and_eq_true] at uses
      rw [Expr.guarded, Reading.expr, Reading.expr]
      refine (firstGuards uses.1).bind_used .inl (fun left => ?_) alwaysFails_chain
      have chained := guards_chain left
        (fun link member _ => linksGuard link member) uses.2 ?_
      · exact fun stream => (chained stream).imp_right (.imp_right .inl)
      · intro ordered link member
        rw [Expr.allOrdered, Bool.and_eq_true, List.all_eq_true] at ordered
        exact Option.isNone_iff_eq_none.1 (ordered.2 link member)
  | conditional _ _ _ testGuards bodyGuards otherwiseGuards =>
      rw [Expr.usesFunctions, Bool.and_eq_true, Bool.and_eq_true] at uses
      rw [Expr.guarded, Reading.expr, Reading.expr]
      refine (testGuards uses.1.1).bind_used .inl (fun test => ?_) (by simp)
      split
      · exact bodyGuards uses.1.2
      · exact otherwiseGuards uses.2
  | @call name arguments isFunction _ argumentsGuard =>
      obtain ⟨own, entry⟩ := isFunction_iff.1 isFunction
      rw [Expr.guarded, Reading.expr, Reading.expr, Reading.expr, Reading.expr,
        embed_readName_of_lookup (calls name own entry), pure_bind, pure_bind]
      refine (guards_exprs (fun argument member _ => argumentsGuard argument member) uses).bind
        (fun _ => Guards.refl _) fun stream isAllowed => ?_
      rcases isAllowed with failed | ⟨values, success, either⟩
      · exact .inl (fails_bind_left failed _)
      · rw [bind_apply_of_ok success]
        exact .inl (alwaysFails_call entry either _)

/-! ## Statements -/

theorem guards_statement (calls : scope.CallsTable) {statement : Statement}
    (formed : WellFormedStatement known statement) (uses : statement.usesFunctions = true) :
    Guards Fails (Reading.plain.statement scope statement.guarded)
      (Reading.plain.statement scope statement) := by
  cases formed with
  | expression valueFormed =>
      rw [Statement.guarded, Reading.statement, Reading.statement]
      exact (guards_expr calls valueFormed uses).bind_used id (fun _ => Guards.refl _) (by simp)
  | assign _ valueFormed =>
      rw [Statement.guarded, Reading.statement, Reading.statement]
      exact (guards_expr calls valueFormed uses).bind_used id (fun _ => Guards.refl _) (by simp)
  | augmentedAssign _ _ _ valueFormed =>
      rw [Statement.guarded, Reading.statement, Reading.statement]
      refine Guards.bind (Guards.refl _) (fun current => ?_) fun _ failed =>
        fails_bind_left failed _
      refine (guards_expr calls valueFormed uses).bind_used id (fun _ => Guards.refl _) ?_
      intro _ own
      refine AlwaysFails.bind_left ?_ _
      exact alwaysFails_perform ⟨.function own, by simp [Operation.operands], rfl⟩ id

/-- No statement covers the name of a function. -/
theorem ensures_callsTable (calls : scope.CallsTable) {statement : Statement}
    (formed : WellFormedStatement known statement) :
    Ensures (fun _ => True) Scope.CallsTable (Reading.plain.statement scope statement) := by
  cases formed with
  | expression valueFormed =>
      rw [Reading.statement]
      exact Ensures.true.bind fun _ _ => Ensures.pure calls
  | assign assignable valueFormed =>
      rw [Reading.statement]
      exact Ensures.true.bind fun value _ => Ensures.pure (calls.assign assignable value)
  | augmentedAssign assignable _ _ valueFormed =>
      rw [Reading.statement]
      exact Ensures.true.bind fun _ _ => Ensures.true.bind fun _ _ => Ensures.true.bind
        fun value _ => Ensures.pure (calls.assign assignable value)

/-- A run of statements, the last one an expression. -/
theorem guards_body (calls : scope.CallsTable) {body : List Statement}
    (formed : WellFormedProgram known body) (uses : usesFunctions body = true) :
    Guards (Allowed true) (Reading.plain.body scope (body.map Statement.guarded))
      (Reading.plain.body scope body) := by
  induction body generalizing known scope with
  | nil => exact absurd formed not_wellFormedProgram_nil
  | cons first rest inductionHypothesis =>
      cases rest with
      | nil =>
          obtain ⟨value, rfl, valueFormed⟩ := wellFormedProgram_singleton.1 formed
          rw [usesFunctions] at uses
          rw [List.map_cons, List.map_nil, Statement.guarded, Reading.body, Reading.body]
          exact guards_expr calls valueFormed uses
      | cons second others =>
          obtain ⟨firstFormed, restFormed⟩ := wellFormedProgram_cons_cons.1 formed
          rw [usesFunctions, Bool.and_eq_true] at uses
          · rw [List.map_cons, List.map_cons, Reading.body_cons_cons, Reading.body_cons_cons]
            refine (guards_statement calls firstFormed uses.1).bind_ensures
              (ensures_callsTable calls firstFormed)
              (fun after afterCalls => inductionHypothesis afterCalls restFormed uses.2)
              fun _ failed => .inl (fails_bind_left failed _)
          · simp

/-! ## Cells -/

theorem callsTable_inputs (inputs : Inputs) :
    (⟨inputs.names, standardNames⟩ : Scope).CallsTable := by
  intro name own entry
  have shared : sharedNames [] = standardNames := List.append_nil _
  have serves := serves_inputs inputs []
  rw [shared] at serves
  exact serves.lookup?_function (shared ▸ holdsFunctions_standardNames) entry

/-- A cell next to the evaluation that ends at names of functions. -/
theorem guards_meaning {tree : List Statement} (isScript : IsScript tree)
    (uses : usesFunctions tree = true) (inputs : Inputs) :
    Guards Fails (meaning (tree.map Statement.guarded) inputs) (meaning tree inputs) :=
  (guards_body (callsTable_inputs inputs) isScript uses).bind_used id (fun _ => Guards.refl _)
    fun _ _ _ => fails_error

variable {source : String} {tree : List Statement} {script : Script}

/-- A cell fails if it performs an operation on a function, unless the operation does not look at
it. If the names of functions that are not called stand where they are used, a cell that reads one
of them fails, and any other cell does what the tree does without these names. -/
theorem fails_of_function_read (parsed : Grammar.parse? source = some tree)
    (compiled : compile source = .ok script) (inputs : Inputs) (stream : RandomStream) :
    (∀ operation ∈ operations tree inputs stream,
      (∃ operand ∈ operation.operands, operand.isFunction = true) → ¬ operation.Tolerates →
        Fails (script.evaluate inputs stream).1) ∧
    (usesFunctions tree = true →
      (ReadsFunction tree inputs stream → Fails (script.evaluate inputs stream).1) ∧
      (¬ ReadsFunction tree inputs stream →
        script.evaluate inputs stream =
          meaning (tree.map Statement.guarded) inputs stream)) := by
  obtain ⟨formed, -, rfl⟩ := (compile_eq_ok_iff_of_parse? parsed).1 compiled
  rw [evaluate_ofTree source formed]
  refine ⟨fun operation member either notTolerated => ?_, fun uses => ?_⟩
  · by_contra success
    exact notTolerated (tolerates_of_mem_operations success member either)
  · rcases guards_meaning formed uses inputs stream with same | ⟨reads, fails⟩
    · refine ⟨fun reads => ?_, fun _ => same.symm⟩
      rw [ReadsFunction, same] at reads
      exact ⟨_, reads⟩
    · exact ⟨fun _ => fails, fun notReads => absurd reads notReads⟩

theorem parse?_greatest_of_function :
    Grammar.parse? "max(2,sin if x<1 else 3)" = some [.expression (.call (.name "max")
      [.literal (.whole 2), .conditional (.compare (.name "x") [(.less, .literal (.whole 1))])
        (.name "sin") (.literal (.whole 3))] 0)] :=
  parse?_eq_some_of_sameTree (by decide +kernel)

/-- In the first column a function comes out of a conditional and is compared. -/
theorem fails_of_function_read_greatest :
    ∃ tree script, Grammar.parse? "max(2,sin if x<1 else 3)" = some tree ∧
      compile "max(2,sin if x<1 else 3)" = .ok script ∧ usesFunctions tree = true ∧
      ReadsFunction tree ⟨0, 0, 0, 0, 0, 0⟩ ⟨fun _ => 0, 0⟩ ∧
      Fails (script.evaluate ⟨0, 0, 0, 0, 0, 0⟩ ⟨fun _ => 0, 0⟩).1 := by
  have compiled := compile_eq_ok_of_parse? parse?_greatest_of_function (by decide +kernel)
  have uses : usesFunctions [.expression (.call (.name "max")
      [.literal (.whole 2), .conditional (.compare (.name "x") [(.less, .literal (.whole 1))])
        (.name "sin") (.literal (.whole 3))] 0)] = true := by decide +kernel
  have reads : ReadsFunction [.expression (.call (.name "max")
      [.literal (.whole 2), .conditional (.compare (.name "x") [(.less, .literal (.whole 1))])
        (.name "sin") (.literal (.whole 3))] 0)] ⟨0, 0, 0, 0, 0, 0⟩ ⟨fun _ => 0, 0⟩ := by
    decide +kernel
  obtain ⟨-, whenUsed⟩ := fails_of_function_read parse?_greatest_of_function compiled
    ⟨0, 0, 0, 0, 0, 0⟩ ⟨fun _ => 0, 0⟩
  exact ⟨_, _, parse?_greatest_of_function, compiled, uses, reads, (whenUsed uses).1 reads⟩

/-- The condition of a conditional is a function, which counts as true. -/
theorem evaluate_function_condition :
    ∃ tree script, Grammar.parse? "1 if sin else 0" = some tree ∧
      compile "1 if sin else 0" = .ok script ∧
      ReadsFunction tree ⟨0, 0, 0, 0, 0, 0⟩ ⟨fun _ => 0, 0⟩ ∧
      (script.evaluate ⟨0, 0, 0, 0, 0, 0⟩ ⟨fun _ => 0, 0⟩).1 = .ok 1 := by
  have parsed : Grammar.parse? "1 if sin else 0" = some [.expression (.conditional (.name "sin")
      (.literal (.whole 1)) (.literal (.whole 0)))] :=
    parse?_eq_some_of_sameTree (by decide +kernel)
  exact ⟨_, _, parsed, compile_eq_ok_of_parse? parsed (by decide +kernel), by decide +kernel,
    by decide +kernel⟩

end LiveGrid.Script
