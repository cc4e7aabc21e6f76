import LiveGrid.Proofs.Script.Compiled
import LiveGrid.Proofs.Script.Inference
import LiveGrid.Proofs.Script.TypedHoisting
import LiveGrid.Proofs.Script.TypedValues
import LiveGrid.Session.Pattern

/-!
Contract: scripts that only compute floats never fail.

Owns:
- typed expressions and statements in scopes whose names stand for floats;
- every cell of a script that only computes floats gets a float, whatever its inputs are and
  whatever random numbers are drawn;
- the built-in scripts only compute floats.

Does not own: which float it is.
-/

namespace LiveGrid.Script

open Evaluation

/-! ## Expressions -/

/-- In a scope whose names stand for floats, all names but those of functions do. -/
def HoldsFloats (scope : Scope) : Prop :=
  ∀ name value, ¬ IsFunction name → scope.lookup? name = some value → ValueHasType value .float

variable {known : String → Prop} {shared : List (String × Value)} {scope : Scope}

section Lists

variable {type : ExprType}

theorem ensures_evaluateAll {expressions : List Expr}
    (each : ∀ expression ∈ expressions, Evaluates type (evaluateExpr scope expression)) :
    Ensures (fun _ => False) (fun values => values.length = expressions.length ∧
      ∀ value ∈ values, ValueHasType value type) (evaluateAll scope expressions) := by
  induction expressions with
  | nil => exact Ensures.pure (by simp)
  | cons first rest inductionHypothesis =>
      obtain ⟨firstEvaluates, restEvaluate⟩ := List.forall_mem_cons.1 each
      rw [evaluateAll]
      refine firstEvaluates.bind fun value valueTyped =>
        (inductionHypothesis restEvaluate).bind fun values evaluated => ?_
      obtain ⟨sameLength, valuesTyped⟩ := evaluated
      refine Ensures.pure ⟨?_, List.forall_mem_cons.2 ⟨valueTyped, valuesTyped⟩⟩
      rw [List.length_cons, List.length_cons, sameLength]

theorem evaluates_evaluateOperands {operator : BoolOperator} {operands : List Expr}
    (some : operands ≠ [])
    (each : ∀ operand ∈ operands, Evaluates type (evaluateExpr scope operand)) :
    Evaluates type (evaluateOperands scope operator operands) := by
  induction operands with
  | nil => exact absurd rfl some
  | cons first rest inductionHypothesis =>
      obtain ⟨firstEvaluates, restEvaluate⟩ := List.forall_mem_cons.1 each
      cases rest with
      | nil =>
          rw [evaluateOperands]
          exact firstEvaluates
      | cons second others =>
          rw [evaluateOperands]
          · refine firstEvaluates.bind fun value valueTyped => ?_
            split
            · exact Ensures.pure valueTyped
            · exact inductionHypothesis (List.cons_ne_nil _ _) restEvaluate
          · simp

theorem evaluates_evaluateLinks {left : Value} {links : List (CompareOperator × Expr)}
    (some : links ≠ []) (leftTyped : ValueHasType left .number)
    (each : ∀ link ∈ links, Evaluates .number (evaluateExpr scope link.2)) :
    Evaluates .test (evaluateLinks scope left links) := by
  induction links generalizing left with
  | nil => exact absurd rfl some
  | cons first rest inductionHypothesis =>
      obtain ⟨firstEvaluates, restEvaluate⟩ := List.forall_mem_cons.1 each
      cases rest with
      | nil =>
          rw [evaluateLinks]
          exact firstEvaluates.bind fun right rightTyped =>
            evaluates_ofExcept (returns_compare leftTyped rightTyped)
      | cons second others =>
          rw [evaluateLinks]
          · refine firstEvaluates.bind fun right rightTyped =>
              (evaluates_ofExcept (returns_compare leftTyped rightTyped)).bind
                fun outcome outcomeTyped => ?_
            split
            · exact inductionHypothesis (List.cons_ne_nil _ _) rightTyped restEvaluate
            · exact Ensures.pure outcomeTyped
          · simp

end Lists

/-- A name that a well-formed expression reads, and that is not the name of a function, has a
float. -/
theorem evaluates_readName (serves : scope.Serves known shared) (floats : HoldsFloats scope)
    {name : String} (isKnown : known name) (notFunction : ¬ IsFunction name) :
    Evaluates .float (readName scope name) := by
  obtain ⟨value, found⟩ := Option.isSome_iff_exists.1 (serves.bound name isKnown)
  rw [readName, found]
  exact Ensures.pure (floats name value notFunction found)

/-- A typed expression has a value of its type. -/
theorem evaluates_evaluateExpr (serves : scope.Serves known shared)
    (holds : HoldsFunctions shared) (floats : HoldsFloats scope) {expression : Expr}
    {type : ExprType} (formed : WellFormed known expression)
    (typed : HasType .hoisted expression type) :
    Evaluates type (evaluateExpr scope expression) := by
  induction typed with
  | whole fits => exact Ensures.pure (.whole fits)
  | wholePlus _ operandHypothesis =>
      rw [evaluateExpr]
      refine (operandHypothesis (WellFormed.unary_iff.1 formed).2).bind
        fun operand operandTyped => ?_
      obtain ⟨fits, rfl⟩ := ValueHasType.whole_iff.1 operandTyped
      exact evaluates_ofExcept ⟨_, rfl, .whole fits⟩
  | wholeMinus _ fits operandHypothesis =>
      rw [evaluateExpr]
      refine (operandHypothesis (WellFormed.unary_iff.1 formed).2).bind
        fun operand operandTyped => ?_
      obtain ⟨-, rfl⟩ := ValueHasType.whole_iff.1 operandTyped
      exact evaluates_ofExcept ⟨_, rfl, .whole fits⟩
  | wholeBinary computes _ _ fits leftHypothesis rightHypothesis =>
      obtain ⟨-, leftFormed, rightFormed⟩ := WellFormed.binary_iff.1 formed
      rw [evaluateExpr]
      exact (leftHypothesis leftFormed).bind fun left leftTyped =>
        (rightHypothesis rightFormed).bind fun right rightTyped =>
          evaluates_ofExcept (returns_binary_whole computes leftTyped rightTyped fits)
  | real isWritten value => cases isWritten
  | name notFunction =>
      have isKnown := (WellFormed.name_iff.1 formed).resolve_right notFunction
      rw [evaluateExpr]
      exact evaluates_readName serves floats isKnown notFunction
  | sign isSign _ operandHypothesis =>
      rw [evaluateExpr]
      exact (operandHypothesis (WellFormed.unary_iff.1 formed).2).bind
        fun operand operandTyped => evaluates_ofExcept (returns_sign isSign operandTyped)
  | binaryFloatFirst allowed _ _ leftHypothesis rightHypothesis =>
      obtain ⟨-, leftFormed, rightFormed⟩ := WellFormed.binary_iff.1 formed
      rw [evaluateExpr]
      exact (leftHypothesis leftFormed).bind fun left leftTyped =>
        (rightHypothesis rightFormed).bind fun right rightTyped =>
          evaluates_ofExcept (returns_binary_floatFirst allowed leftTyped rightTyped)
  | binaryFloatLast allowed _ _ leftHypothesis rightHypothesis =>
      obtain ⟨-, leftFormed, rightFormed⟩ := WellFormed.binary_iff.1 formed
      rw [evaluateExpr]
      exact (leftHypothesis leftFormed).bind fun left leftTyped =>
        (rightHypothesis rightFormed).bind fun right rightTyped =>
          evaluates_ofExcept (returns_binary_floatLast allowed leftTyped rightTyped)
  | call entry count _ argumentsHypothesis =>
      obtain ⟨-, argumentsFormed⟩ := WellFormed.call_iff.1 formed
      rw [evaluateExpr, evaluateExpr, readName, serves.lookup?_function holds entry, pure_bind]
      refine (ensures_evaluateAll fun argument member =>
        argumentsHypothesis argument member (argumentsFormed argument member)).bind
          fun values evaluated => ?_
      obtain ⟨sameLength, valuesTyped⟩ := evaluated
      exact evaluates_callValue (sameLength.trans count) valuesTyped
  | bool some _ operandsHypothesis | boolTest some _ operandsHypothesis =>
      have operandsFormed := WellFormed.bool_iff.1 formed
      rw [evaluateExpr]
      exact evaluates_evaluateOperands some fun operand member =>
        operandsHypothesis operand member (operandsFormed operand member)
  | conditional _ _ _ testHypothesis bodyHypothesis otherwiseHypothesis =>
      obtain ⟨testFormed, bodyFormed, otherwiseFormed⟩ := WellFormed.conditional_iff.1 formed
      rw [evaluateExpr]
      refine (testHypothesis testFormed).bind fun test _ => ?_
      split
      · exact bodyHypothesis bodyFormed
      · exact otherwiseHypothesis otherwiseFormed
  | compare some _ _ firstHypothesis linksHypothesis =>
      obtain ⟨firstFormed, -, linksFormed⟩ := WellFormed.compare_iff.1 formed
      rw [evaluateExpr]
      refine (firstHypothesis firstFormed).bind fun first firstTyped => ?_
      exact evaluates_evaluateLinks some firstTyped fun link member =>
        linksHypothesis link member (linksFormed link member)
  | notTest _ operandHypothesis =>
      rw [evaluateExpr]
      exact (operandHypothesis (WellFormed.unary_iff.1 formed).2).bind
        fun operand _ => evaluates_ofExcept ⟨_, rfl, .truthTest _⟩
  | wholeNumber _ hypothesis => exact (hypothesis formed).imp id .wholeNumber
  | floatNumber _ hypothesis => exact (hypothesis formed).imp id .floatNumber
  | floatTest _ hypothesis => exact (hypothesis formed).imp id .floatTest

/-! ## Statements -/

theorem HoldsFloats.assign (floats : HoldsFloats scope) {name : String} {value : Value}
    (typed : ValueHasType value .float) : HoldsFloats (scope.assign name value) := by
  intro other found notFunction lookup
  rw [Scope.lookup?_assign] at lookup
  split at lookup
  · cases lookup
    exact typed
  · exact floats other found notFunction lookup

/-- One statement: it never fails, and all names still stand for floats. -/
theorem ensures_runStatement_floats (serves : scope.Serves known shared)
    (holds : HoldsFunctions shared) (floats : HoldsFloats scope) {statement : Statement}
    (formed : WellFormedStatement known statement)
    (typed : IsFloatStatement .hoisted statement) :
    Ensures (fun _ => False) HoldsFloats (runStatement scope statement) := by
  cases formed with
  | expression valueFormed =>
      obtain - | - | valueTyped := typed
      rw [runStatement]
      exact (evaluates_evaluateExpr serves holds floats valueFormed valueTyped).bind
        fun _ _ => Ensures.pure floats
  | assign assignable valueFormed =>
      obtain valueTyped | - | - := typed
      rw [runStatement]
      exact (evaluates_evaluateExpr serves holds floats valueFormed valueTyped).bind
        fun _ resultTyped => Ensures.pure (floats.assign resultTyped)
  | @augmentedAssign name operator value _ isKnown _ valueFormed =>
      obtain - | resultTyped | - := typed
      have assigned : ∀ {nameType valueType},
          HasType .hoisted (.name name) nameType → HasType .hoisted value valueType →
          (∀ {current operand}, ValueHasType current nameType → ValueHasType operand valueType →
            Returns .float (Value.binary operator true current operand)) →
          Ensures (fun _ => False) HoldsFloats
            (runStatement scope (.augmentedAssign (.name name) operator value)) := by
        intro nameType valueType nameTyped valueTyped returns
        rw [runStatement, ← evaluateExpr]
        refine (evaluates_evaluateExpr serves holds floats (.name (.inl isKnown)) nameTyped).bind
          fun current currentTyped => ?_
        refine (evaluates_evaluateExpr serves holds floats valueFormed valueTyped).bind
          fun operand operandTyped => ?_
        refine (evaluates_ofExcept (returns currentTyped operandTyped)).bind
          fun result resultTyped => ?_
        exact Ensures.pure (floats.assign resultTyped)
      cases resultTyped with
      | binaryFloatFirst allowed nameTyped valueTyped =>
          exact assigned nameTyped valueTyped (returns_binary_floatFirst allowed)
      | binaryFloatLast allowed nameTyped valueTyped =>
          exact assigned nameTyped valueTyped (returns_binary_floatLast allowed)

/-- A run of statements: the invariant of one statement, from the first to the last. -/
theorem ensures_runStatements_floats (serves : scope.Serves known shared)
    (holds : HoldsFunctions shared) (floats : HoldsFloats scope) {statements : List Statement}
    (formed : WellFormedStatements known statements)
    (typed : AreFloatStatements .hoisted statements) :
    Ensures (fun _ => False)
      (fun after => after.Serves (KnownAfter known statements) shared ∧ HoldsFloats after)
      (runStatements scope statements) := by
  induction statements generalizing known scope with
  | nil =>
      rw [runStatements, knownAfter_nil]
      exact Ensures.pure ⟨serves, floats⟩
  | cons first rest inductionHypothesis =>
      obtain ⟨firstFormed, restFormed⟩ := wellFormedStatements_cons.1 formed
      obtain ⟨firstTyped, restTyped⟩ := List.forall_mem_cons.1 typed
      have step := (ensures_runStatement serves holds firstFormed).and
        (ensures_runStatement_floats serves holds floats firstFormed firstTyped)
      rw [runStatements, knownAfter_cons]
      refine (step.imp And.right id).bind fun after ran => ?_
      obtain ⟨afterServes, afterFloats⟩ := ran
      exact inductionHypothesis afterServes afterFloats restFormed restTyped

/-! ## Scripts -/

theorem mem_of_lookup_eq_some {Item : Type} {entries : List (String × Item)} {name : String}
    {value : Item} (found : entries.lookup name = some value) : (name, value) ∈ entries := by
  obtain ⟨before, after, rfl, -⟩ := List.lookup_eq_some_iff.1 found
  exact List.mem_append_right _ List.mem_cons_self

/-- Names that are bound to floats. -/
def boundFloats (entries : List (String × Float)) : List (String × Value) :=
  entries.map fun (name, number) => (name, .machine (.double number))

theorem valueHasType_of_mem_boundFloats {entries : List (String × Float)} {name : String}
    {value : Value} (member : (name, value) ∈ boundFloats entries) :
    ValueHasType value .float := by
  obtain ⟨entry, -, same⟩ := List.mem_map.1 member
  cases same
  exact .float _

/-- A cell starts with floats: its inputs, the constants and the literals. -/
theorem holdsFloats_inputs (inputs : Inputs) (table : List (String × Float)) :
    HoldsFloats ⟨inputs.names, sharedNames table⟩ := by
  have own : inputs.names = boundFloats [("t", inputs.time), ("i", inputs.index),
      ("x", inputs.column), ("y", inputs.row), ("v", inputs.loudness), ("a", inputs.previous)] :=
    rfl
  have shared : sharedNames table = boundFloats constantTable ++
      functionTable.map (fun entry => (entry.1, Value.function entry.2)) ++
        boundFloats table.reverse := rfl
  intro name value notFunction found
  rw [Scope.lookup?] at found
  split at found
  · rename_i ownFound
    cases found
    rw [own] at ownFound
    exact valueHasType_of_mem_boundFloats (mem_of_lookup_eq_some ownFound)
  · have member := mem_of_lookup_eq_some found
    rw [shared, List.mem_append, List.mem_append] at member
    rcases member with (isConstant | isCallable) | isLiteral
    · exact valueHasType_of_mem_boundFloats isConstant
    · obtain ⟨entry, entryMember, same⟩ := List.mem_map.1 isCallable
      cases same
      exact absurd (List.mem_map_of_mem entryMember) notFunction
    · exact valueHasType_of_mem_boundFloats isLiteral

variable {source : String} {tree : List Statement} {script : Script}

theorem ensures_evaluate_ofTree (formed : WellFormedProgram IsInitial tree)
    (typed : IsFloatScript tree) (inputs : Inputs) :
    Ensures (fun _ => False) (fun _ => True) ((ofTree source tree).evaluate inputs) := by
  obtain ⟨table, shared, earlier, value, statements, earlierFormed, valueFormed⟩ :=
    wellFormedCompilation_ofTree source formed
  have holds : HoldsFunctions (sharedNames table) := holdsFunctions_standardNames
  have compiledTyped := typed.ofTree source
  rw [statements] at compiledTyped
  obtain ⟨earlierTyped, lastTyped⟩ := List.forall_mem_append.1 compiledTyped
  rw [evaluate_eq_bind statements, shared]
  refine (ensures_runStatements_floats (serves_inputs inputs table) holds
    (holdsFloats_inputs inputs table) earlierFormed earlierTyped).bind
      fun scope ran => ?_
  obtain ⟨serves, floats⟩ := ran
  obtain valueTyped | - | - := lastTyped _ (List.mem_singleton_self _)
  refine (evaluates_evaluateExpr serves holds floats valueFormed valueTyped).bind
    fun result resultTyped => ?_
  obtain ⟨number, rfl⟩ := ValueHasType.float_iff.1 resultTyped
  exact fun _ => trivial

/-- No cell of a script that only computes floats fails. -/
theorem ensures_evaluate_of_compile (parsed : Grammar.parse? source = some tree)
    (typed : IsFloatScript tree) (compiled : compile source = .ok script) (inputs : Inputs) :
    Ensures (fun _ => False) (fun _ => True) (script.evaluate inputs) := by
  obtain ⟨formed, -, rfl⟩ := (compile_eq_ok_iff_of_parse? parsed).1 compiled
  exact ensures_evaluate_ofTree formed typed inputs

/-- Every cell of a script that only computes floats gets a float: whatever doubles its inputs
are, infinite ones and those that are no number among them, and whatever random numbers are
drawn. -/
theorem evaluate_ok_of_isFloatScript (parsed : Grammar.parse? source = some tree)
    (typed : IsFloatScript tree) (compiled : compile source = .ok script) (inputs : Inputs)
    (stream : RandomStream) :
    ∃ value after, script.evaluate inputs stream = (.ok value, after) := by
  obtain ⟨value, after, success, -⟩ :=
    (ensures_evaluate_of_compile parsed typed compiled inputs).exists_ok stream
  exact ⟨value, after, success⟩

/-- A script that divides by zero, in a cell whose inputs are infinite or no numbers. -/
theorem evaluate_ok_divisions_by_zero :
    ∃ tree script, Grammar.parse? "c=x-2*8;c//=0;c**-3 if 1<2<=c else rand()%(4-4)" = some tree ∧
      IsFloatScript tree ∧
      compile "c=x-2*8;c//=0;c**-3 if 1<2<=c else rand()%(4-4)" = .ok script ∧
      ∃ value after,
        script.evaluate ⟨1 / 0, 0 / 0, -1 / 0, 0, 1, 0 / 0⟩ ⟨fun _ => 0.5, 0⟩ =
          (.ok value, after) := by
  have isFloat : isFloatSource "c=x-2*8;c//=0;c**-3 if 1<2<=c else rand()%(4-4)" = true := by
    decide +kernel
  obtain ⟨tree, script, parsed, typed, compiled⟩ := exists_of_isFloatSource isFloat
  exact ⟨tree, script, parsed, typed, compiled,
    evaluate_ok_of_isFloatScript parsed typed compiled _ _⟩

/-- The built-in scripts only compute floats, so none of their cells fails. -/
theorem evaluate_pattern_ok {source : String} (member : source ∈ patterns) :
    ∃ script, compile source = .ok script ∧
      ∀ inputs stream, ∃ value after, script.evaluate inputs stream = (.ok value, after) := by
  have each : ∀ source ∈ patterns, isFloatSource source = true := by decide +kernel
  obtain ⟨tree, script, parsed, typed, compiled⟩ := exists_of_isFloatSource (each source member)
  refine ⟨script, compiled, fun inputs stream => ?_⟩
  obtain ⟨value, after, success, -⟩ :=
    (ensures_evaluate_of_compile parsed typed compiled inputs).exists_ok stream
  exact ⟨value, after, success⟩

end LiveGrid.Script
