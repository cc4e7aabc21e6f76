import LiveGrid.Proofs.Script.Evaluation
import LiveGrid.Proofs.Script.Language

/-!
Contract: what scripts find in their scope.

Owns:
- scopes that serve a set of known names: these are bound, functions are those of the
  table, and the names of the cell are ones that a script may assign to;
- well-formed expressions never read an unbound name in such a scope;
- well-formed statements leave a scope that serves the names known after them.

Does not own: how a scope comes to serve the names known before the first statement.
-/

namespace LiveGrid.Script

open Evaluation

variable {known : String → Prop} {shared : List (String × Value)} {scope : Scope}

/-- Whether shared names hold the functions of the table under their names. -/
def HoldsFunctions (shared : List (String × Value)) : Prop :=
  ∀ name function, functionTable.lookup name = some function →
    shared.lookup name = some (.function function)

/-- A scope that binds the names that are known, over shared names. A name of the cell is one
that a script may assign to, so no function and no hidden name is ever covered. -/
structure Scope.Serves (known : String → Prop) (shared : List (String × Value)) (scope : Scope) :
    Prop where
  sharedSame : scope.shared = shared
  bound : ∀ name, known name → (scope.lookup? name).isSome = true
  localsAssignable : ∀ name, (scope.locals.lookup name).isSome = true → IsAssignable name

/-- An evaluation that never reads an unbound name. -/
abbrev ReadsBound {Result : Type} (action : Evaluation Result) : Prop :=
  Ensures Fault.IsComputed (fun _ => True) action

/-! ## Names of a scope -/

theorem isFunction_iff {name : String} :
    IsFunction name ↔ ∃ function, functionTable.lookup name = some function := by
  rw [← isFunctionName_iff, isFunctionName, Option.isSome_iff_exists]

theorem Scope.lookup?_assign {name other : String} {value : Value} :
    (scope.assign name value).lookup? other =
      if other = name then some value else scope.lookup? other := by
  rw [Scope.lookup?, Scope.assign, List.lookup_cons]
  by_cases same : other = name
  · simp [same]
  · simp only [beq_eq_false_iff_ne.2 same, same, ↓reduceIte]
    rfl

namespace Scope.Serves

/-- A name that no script may assign to keeps its shared value. -/
theorem lookup?_of_not_assignable (serves : scope.Serves known shared) {name : String}
    (notAssignable : ¬ IsAssignable name) : scope.lookup? name = shared.lookup name := by
  have free : scope.locals.lookup name = none := by
    cases found : scope.locals.lookup name with
    | none => rfl
    | some value =>
        have isLocal : (scope.locals.lookup name).isSome = true := by rw [found, Option.isSome_some]
        exact absurd (serves.localsAssignable name isLocal) notAssignable
  rw [Scope.lookup?, free, serves.sharedSame]

/-- The name of a function stands for the function of the table. -/
theorem lookup?_function (serves : scope.Serves known shared) (holds : HoldsFunctions shared)
    {name : String} {function : Function} (entry : functionTable.lookup name = some function) :
    scope.lookup? name = some (.function function) := by
  have notAssignable : ¬ IsAssignable name :=
    fun assignable => assignable.notFunction (isFunction_iff.2 ⟨function, entry⟩)
  rw [serves.lookup?_of_not_assignable notAssignable]
  exact holds name function entry

theorem isSome_lookup? (serves : scope.Serves known shared) (holds : HoldsFunctions shared)
    {name : String} (reachable : known name ∨ IsFunction name) :
    (scope.lookup? name).isSome = true := by
  rcases reachable with isKnown | isFunction
  · exact serves.bound name isKnown
  · obtain ⟨function, entry⟩ := isFunction_iff.1 isFunction
    rw [serves.lookup?_function holds entry, Option.isSome_some]

/-- An assignment makes its name known. -/
theorem assign (serves : scope.Serves known shared) {name : String} {value : Value}
    (assignable : IsAssignable name) :
    (scope.assign name value).Serves (fun other => known other ∨ other = name) shared where
  sharedSame := serves.sharedSame
  bound other reachable := by
    rw [Scope.lookup?_assign]
    split
    · rfl
    · rename_i different
      exact serves.bound other (reachable.resolve_right different)
  localsAssignable other isLocal := by
    by_cases same : other = name
    · rw [same]
      exact assignable
    · rw [Scope.assign, List.lookup_cons, beq_eq_false_iff_ne.2 same] at isLocal
      exact serves.localsAssignable other isLocal

theorem weaken (serves : scope.Serves known shared) {fewer : String → Prop}
    (implies : ∀ name, fewer name → known name) : scope.Serves fewer shared where
  sharedSame := serves.sharedSame
  bound name isFewer := serves.bound name (implies name isFewer)
  localsAssignable := serves.localsAssignable

end Scope.Serves

/-! ## Expressions -/

theorem readsBound_readName {name : String} (bound : (scope.lookup? name).isSome = true) :
    ReadsBound (readName scope name) := by
  obtain ⟨value, found⟩ := Option.isSome_iff_exists.1 bound
  rw [readName, found]
  exact Ensures.pure trivial

theorem readsBound_ofExcept {Result : Type} {result : Except Fault Result}
    (computed : Computed result) : ReadsBound (Evaluation.ofExcept result) :=
  Ensures.ofExcept computed fun _ _ => trivial

theorem readsBound_callValue {callee : Value} {arguments : List Value} :
    ReadsBound (callValue callee arguments) := by
  unfold callValue
  split
  · split
    · exact fun _ => trivial
    · exact readsBound_ofExcept Call.computed_apply
  · exact readsBound_ofExcept Call.computed_apply
  · exact Ensures.throw (by simp [Fault.IsComputed])

theorem readsBound_evaluateAll {expressions : List Expr}
    (each : ∀ expression ∈ expressions, ReadsBound (evaluateExpr scope expression)) :
    ReadsBound (evaluateAll scope expressions) := by
  induction expressions with
  | nil =>
      rw [evaluateAll]
      exact Ensures.pure trivial
  | cons first rest inductionHypothesis =>
      obtain ⟨firstReads, restRead⟩ := List.forall_mem_cons.1 each
      rw [evaluateAll]
      refine firstReads.bind fun value _ => (inductionHypothesis restRead).bind fun values _ => ?_
      exact Ensures.pure trivial

theorem readsBound_evaluateOperands {operator : BoolOperator} {operands : List Expr}
    (each : ∀ operand ∈ operands, ReadsBound (evaluateExpr scope operand)) :
    ReadsBound (evaluateOperands scope operator operands) := by
  induction operands with
  | nil =>
      rw [evaluateOperands]
      exact Ensures.pure trivial
  | cons first rest inductionHypothesis =>
      obtain ⟨firstReads, restRead⟩ := List.forall_mem_cons.1 each
      cases rest with
      | nil =>
          rw [evaluateOperands]
          exact firstReads
      | cons second others =>
          rw [evaluateOperands]
          · refine firstReads.bind fun value _ => ?_
            split
            · exact Ensures.pure trivial
            · exact inductionHypothesis restRead
          · simp

theorem readsBound_evaluateLinks {left : Value} {links : List (CompareOperator × Expr)}
    (each : ∀ link ∈ links, ReadsBound (evaluateExpr scope link.2)) :
    ReadsBound (evaluateLinks scope left links) := by
  induction links generalizing left with
  | nil =>
      rw [evaluateLinks]
      exact Ensures.pure trivial
  | cons first rest inductionHypothesis =>
      obtain ⟨firstReads, restRead⟩ := List.forall_mem_cons.1 each
      cases rest with
      | nil =>
          rw [evaluateLinks]
          exact firstReads.bind fun right _ => readsBound_ofExcept Value.computed_compare
      | cons second others =>
          rw [evaluateLinks]
          · refine firstReads.bind fun right _ =>
              (readsBound_ofExcept Value.computed_compare).bind fun outcome _ => ?_
            split
            · exact inductionHypothesis restRead
            · exact Ensures.pure trivial
          · simp

/-- A well-formed expression reads only bound names. -/
theorem readsBound_evaluateExpr (serves : scope.Serves known shared)
    (holds : HoldsFunctions shared) {expression : Expr} (formed : WellFormed known expression) :
    ReadsBound (evaluateExpr scope expression) := by
  induction formed with
  | whole value => exact Ensures.pure trivial
  | real value => exact Ensures.pure trivial
  | truth value => exact Ensures.pure trivial
  | name reachable =>
      rw [evaluateExpr]
      exact readsBound_readName (serves.isSome_lookup? holds reachable)
  | unary _ _ operandHypothesis =>
      rw [evaluateExpr]
      exact operandHypothesis.bind fun operand _ => readsBound_ofExcept Value.computed_unary
  | binary _ _ _ leftHypothesis rightHypothesis =>
      rw [evaluateExpr]
      exact leftHypothesis.bind fun left _ => rightHypothesis.bind fun right _ =>
        readsBound_ofExcept Value.computed_binary
  | bool _ operandsHypothesis =>
      rw [evaluateExpr]
      exact readsBound_evaluateOperands operandsHypothesis
  | compare _ _ _ firstHypothesis linksHypothesis =>
      rw [evaluateExpr]
      exact firstHypothesis.bind fun first _ => readsBound_evaluateLinks linksHypothesis
  | conditional _ _ _ testHypothesis bodyHypothesis otherwiseHypothesis =>
      rw [evaluateExpr]
      refine testHypothesis.bind fun test _ => ?_
      split
      · exact bodyHypothesis
      · exact otherwiseHypothesis
  | call isFunction _ argumentsHypothesis =>
      rw [evaluateExpr, evaluateExpr]
      exact (readsBound_readName (serves.isSome_lookup? holds (.inr isFunction))).bind
        fun callee _ => (readsBound_evaluateAll argumentsHypothesis).bind
          fun arguments _ => readsBound_callValue

/-! ## Statements -/

/-- One statement: it reads only bound names, and the scope after it serves what is known
then. -/
theorem ensures_runStatement (serves : scope.Serves known shared)
    (holds : HoldsFunctions shared) {statement : Statement}
    (formed : WellFormedStatement known statement) :
    Ensures Fault.IsComputed (Scope.Serves (KnownAfter known [statement]) shared)
      (runStatement scope statement) := by
  cases formed with
  | expression valueFormed =>
      rw [runStatement]
      refine (readsBound_evaluateExpr serves holds valueFormed).bind fun value _ => ?_
      refine Ensures.pure (serves.weaken fun name => ?_)
      simp [KnownAfter]
  | assign assignable valueFormed =>
      rw [runStatement]
      refine (readsBound_evaluateExpr serves holds valueFormed).bind fun value _ => ?_
      refine Ensures.pure ((serves.assign assignable).weaken fun name => ?_)
      simp [KnownAfter]
  | augmentedAssign assignable isKnown _ valueFormed =>
      rw [runStatement]
      refine (readsBound_readName (serves.bound _ isKnown)).bind fun current _ => ?_
      refine (readsBound_evaluateExpr serves holds valueFormed).bind fun operand _ => ?_
      refine (readsBound_ofExcept Value.computed_binary).bind fun result _ => ?_
      refine Ensures.pure ((serves.assign assignable).weaken fun name => ?_)
      simp only [KnownAfter, List.mem_singleton, reduceCtorEq, exists_false, or_false]
      exact .inl

/-- A run of statements: the invariant of one statement, from the first to the last. -/
theorem ensures_runStatements (serves : scope.Serves known shared)
    (holds : HoldsFunctions shared) {statements : List Statement}
    (formed : WellFormedStatements known statements) :
    Ensures Fault.IsComputed (Scope.Serves (KnownAfter known statements) shared)
      (runStatements scope statements) := by
  induction statements generalizing known scope with
  | nil =>
      rw [runStatements, knownAfter_nil]
      exact Ensures.pure serves
  | cons first rest inductionHypothesis =>
      obtain ⟨firstFormed, restFormed⟩ := wellFormedStatements_cons.1 formed
      rw [runStatements, knownAfter_cons]
      exact (ensures_runStatement serves holds firstFormed).bind
        fun after afterServes => inductionHypothesis afterServes restFormed

end LiveGrid.Script
