import LiveGrid.Proofs.Script.Substitution

/-!
Contract: an assignment gives a name to a value, and nothing else.

Owns:
- scopes in which a name stands for the value of an expression;
- expressions without calls for random numbers have one value wherever their names have the same
  ones;
- a script from which an assignment is taken out, with its expression in the place of its name.

Does not own: the replacement of names.
-/

namespace LiveGrid.Script

open Evaluation

/-! ## Scopes -/

/-- Two scopes that agree up to a name. In the first one the name stands for the value that an
expression has in the second one. -/
structure Scope.Inlines (name : String) (expression : Expr) (named inlined : Scope) : Prop where
  agree : ∀ other, other ≠ name → inlined.lookup? other = named.lookup? other
  named : ∃ value, named.lookup? name = some value ∧
    Reading.plain.expr inlined expression = pure value

/-- Whether a statement assigns neither to a name nor to a name in an expression. -/
def Statement.Spares (name : String) (expression : Expr) (statement : Statement) : Prop :=
  ¬ statement.Writes name ∧
    ∀ other, .expr (.name other) ∈ expression.nodes → ¬ statement.Writes other

namespace Scope.Inlines

variable {name : String} {expression : Expr} {named inlined : Scope}

theorem expr_eq (inlines : Inlines name expression named inlined) {whole : Expr} :
    Reading.plain.expr inlined (whole.substitute (Expr.instead name expression)) =
      Reading.plain.expr named whole := by
  refine Reading.expr_substitute fun other inside => ?_
  rw [Expr.instead]
  split
  · rename_i same
    obtain ⟨value, found, hasValue⟩ := inlines.named
    rw [hasValue, same, Reading.expr, readName, found]
    rfl
  · rename_i different
    rw [Reading.expr, Reading.expr, readName, readName, inlines.agree other different]

theorem assign (inlines : Inlines name expression named inlined) {target : String}
    (different : target ≠ name) (unused : .expr (.name target) ∉ expression.nodes)
    (value : Value) : Inlines name expression (named.assign target value)
      (inlined.assign target value) where
  agree other otherDifferent := by
    rw [lookup?_assign, lookup?_assign, inlines.agree other otherDifferent]
  named := by
    obtain ⟨own, found, hasValue⟩ := inlines.named
    refine ⟨own, ?_, ?_⟩
    · rw [lookup?_assign, if_neg different.symm, found]
    · rw [← hasValue]
      refine Reading.expr_congr fun other inside => ?_
      have otherDifferent : other ≠ target := by
        rintro rfl
        exact unused inside
      rw [lookup?_assign, if_neg otherDifferent]

theorem relates_statement (inlines : Inlines name expression named inlined)
    {known : String → Prop} {statement : Statement} (formed : WellFormedStatement known statement)
    (spares : statement.Spares name expression) :
    Relates Eq (Inlines name expression) (Reading.plain.statement named statement)
      (Reading.plain.statement inlined
        (statement.substitute (Expr.instead name expression))) := by
  obtain ⟨sparesName, sparesParts⟩ := spares
  cases formed with
  | expression valueFormed =>
      rw [Statement.substitute, Reading.statement, Reading.statement, inlines.expr_eq]
      exact Relates.bind_same (fun _ => rfl) fun _ => Relates.pure inlines
  | @assign target value _ valueFormed =>
      have different : target ≠ name := by
        rintro rfl
        exact sparesName List.mem_cons_self
      have unused : .expr (.name target) ∉ expression.nodes := fun inside =>
        sparesParts target inside List.mem_cons_self
      rw [Statement.substitute, Reading.statement, Reading.statement, inlines.expr_eq]
      exact Relates.bind_same (fun _ => rfl) fun value =>
        Relates.pure (inlines.assign different unused value)
  | @augmentedAssign target operator value _ _ _ valueFormed =>
      have different : target ≠ name := by
        rintro rfl
        exact sparesName rfl
      have unused : .expr (.name target) ∉ expression.nodes := fun inside =>
        sparesParts target inside rfl
      have sameTarget : readName inlined target = readName named target := by
        rw [readName, readName, inlines.agree target different]
      rw [Statement.substitute, Reading.statement, Reading.statement, inlines.expr_eq, sameTarget]
      refine Relates.bind_same (fun _ => rfl) fun current => ?_
      refine Relates.bind_same (fun _ => rfl) fun operand => ?_
      refine Relates.bind_same (fun _ => rfl) fun result => ?_
      exact Relates.pure (inlines.assign different unused result)

theorem body_eq (inlines : Inlines name expression named inlined) {known : String → Prop}
    {body : List Statement} (formed : WellFormedProgram known body)
    (spare : ∀ statement ∈ body, statement.Spares name expression) :
    Reading.plain.body named body =
      Reading.plain.body inlined
        (body.map (Statement.substitute (Expr.instead name expression))) := by
  induction body generalizing known named inlined with
  | nil => exact absurd formed not_wellFormedProgram_nil
  | cons first rest inductionHypothesis =>
      obtain ⟨firstSpares, restSpare⟩ := List.forall_mem_cons.1 spare
      cases rest with
      | nil =>
          obtain ⟨value, rfl, -⟩ := wellFormedProgram_singleton.1 formed
          rw [List.map_singleton, Statement.substitute, Reading.body, Reading.body,
            inlines.expr_eq]
      | cons second others =>
          obtain ⟨firstFormed, restFormed⟩ := wellFormedProgram_cons_cons.1 formed
          rw [List.map_cons, List.map_cons, Reading.body_cons_cons, Reading.body_cons_cons]
          exact (inlines.relates_statement firstFormed firstSpares).bind_eq fun _ _ afterInlines =>
            inductionHypothesis afterInlines restFormed restSpare

end Scope.Inlines

/-! ## Scripts with an assignment -/

variable {known : String → Prop} {before after : List Statement} {name : String}
  {expression : Expr}

theorem wellFormedProgram_append_iff (some : after ≠ []) :
    WellFormedProgram known (before ++ after) ↔
      WellFormedStatements known before ∧ WellFormedProgram (KnownAfter known before) after := by
  induction before generalizing known with
  | nil =>
      rw [List.nil_append, knownAfter_nil]
      exact ⟨fun formed => ⟨wellFormedStatements_nil, formed⟩, And.right⟩
  | cons first others inductionHypothesis =>
      obtain ⟨second, last, split⟩ := List.exists_cons_of_ne_nil
        (List.append_ne_nil_of_right_ne_nil others some)
      have sameKnown : KnownAfter known (first :: others) =
          KnownAfter (KnownAfter known [first]) others := knownAfter_cons
      rw [List.cons_append, split, wellFormedProgram_cons_cons, ← split, inductionHypothesis,
        wellFormedStatements_cons, sameKnown, and_assoc]

theorem wellFormedProgram_assign_cons :
    WellFormedProgram known (.assign [.name name] expression :: after) ↔
      IsAssignable name ∧ WellFormed known expression ∧
        WellFormedProgram (fun other => known other ∨ other = name) after := by
  cases after with
  | nil =>
      constructor
      · intro formed
        obtain ⟨value, same, -⟩ := wellFormedProgram_singleton.1 formed
        cases same
      · rintro ⟨-, -, formed⟩
        exact absurd formed not_wellFormedProgram_nil
  | cons first rest =>
      have sameKnown : KnownAfter known [.assign [.name name] expression] =
          fun other => known other ∨ other = name := by
        funext other
        simp [knownAfter_singleton, Statement.assigned?, eq_comm]
      rw [wellFormedProgram_cons_cons, sameKnown, ← and_assoc]
      refine and_congr_left fun _ => ?_
      constructor
      · intro formed
        cases formed with
        | assign assignable valueFormed => exact ⟨assignable, valueFormed⟩
      · rintro ⟨assignable, valueFormed⟩
        exact .assign assignable valueFormed

theorem replaces_instead (assignable : IsAssignable name)
    (formed : WellFormed known expression) :
    Replaces (fun other => known other ∨ other = name) known (Expr.instead name expression) where
  formed other isKnown := by
    rw [Expr.instead]
    split
    · exact formed
    · rename_i different
      exact .name (.inl (isKnown.resolve_right different))
  keepsFunctions other isFunction := by
    rw [Expr.instead, if_neg]
    rintro rfl
    exact assignable.notFunction isFunction

theorem WellFormedStatement.substitute (assignable : IsAssignable name)
    (expressionFormed : WellFormed known expression) {statement : Statement}
    (spares : ¬ statement.Writes name)
    (formed : WellFormedStatement (fun other => known other ∨ other = name) statement) :
    WellFormedStatement known (statement.substitute (Expr.instead name expression)) := by
  have replaces := replaces_instead assignable expressionFormed
  cases formed with
  | expression valueFormed => exact .expression (valueFormed.substitute replaces)
  | assign targetAssignable valueFormed =>
      exact .assign targetAssignable (valueFormed.substitute replaces)
  | @augmentedAssign target _ _ targetAssignable isKnown allowed valueFormed =>
      have different : target ≠ name := by
        rintro rfl
        exact spares rfl
      exact .augmentedAssign targetAssignable (isKnown.resolve_right different) allowed
        (valueFormed.substitute replaces)

/-- Statements that do not assign to a name need not know it when it is replaced. -/
theorem WellFormedProgram.substitute (assignable : IsAssignable name)
    (expressionFormed : WellFormed known expression)
    (spare : ∀ statement ∈ after, ¬ statement.Writes name)
    (formed : WellFormedProgram (fun other => known other ∨ other = name) after) :
    WellFormedProgram known (after.map (Statement.substitute (Expr.instead name expression))) := by
  induction after generalizing known with
  | nil => exact absurd formed not_wellFormedProgram_nil
  | cons first rest inductionHypothesis =>
      obtain ⟨firstSpares, restSpare⟩ := List.forall_mem_cons.1 spare
      cases rest with
      | nil =>
          obtain ⟨value, rfl, valueFormed⟩ := wellFormedProgram_singleton.1 formed
          have replaces := replaces_instead assignable expressionFormed
          exact wellFormedProgram_singleton.2 ⟨_, rfl, valueFormed.substitute replaces⟩
      | cons second others =>
          obtain ⟨firstFormed, restFormed⟩ := wellFormedProgram_cons_cons.1 formed
          let replaced := first.substitute (Expr.instead name expression)
          have sameKnown : KnownAfter (fun other => known other ∨ other = name) [first] =
              fun other => KnownAfter known [replaced] other ∨ other = name := by
            funext other
            rw [knownAfter_singleton, knownAfter_singleton, Statement.assigned?_substitute]
            exact propext or_right_comm
          have stillFormed : WellFormed (KnownAfter known [replaced]) expression :=
            expressionFormed.mono fun other isKnown => .inl isKnown
          rw [sameKnown] at restFormed
          exact wellFormedProgram_cons_cons.2
            ⟨firstFormed.substitute assignable expressionFormed firstSpares,
              inductionHypothesis stillFormed restSpare restFormed⟩

/-! ## Compiled assignments -/

/-- What an assignment of a tree is compiled to, after the statements before it. -/
structure CompiledAssignment (before : List Statement) (expression : Expr)
    (table : List (String × Float)) (earlier : List Statement) (value : Expr) : Prop where
  length : earlier.length = before.length
  earlierFormed : WellFormedStatements (KnownOrHoisted IsInitial table) earlier
  earlierRelates : ∀ {compiled written : Scope}, compiled.Compiles table written →
    Relates Eq (Scope.Compiles table) (runStatements compiled earlier)
      (Reading.plain.statements written before)
  valueFormed : WellFormed (KnownAfter (KnownOrHoisted IsInitial table) earlier) value
  valueMeans : HasMeaning expression table value
  randomCalls : value.randomCalls = expression.randomCalls

theorem hoists_compiledAssignment
    (isScript : IsScript (before ++ .assign [.name name] expression :: after)) :
    Hoists (fun table hoisted => ∃ earlier value later,
      hoisted = earlier ++ .assign [.name name] value :: later ∧
        CompiledAssignment before expression table earlier value)
      (hoistStatements (keepResult (before ++ .assign [.name name] expression :: after))) := by
  obtain ⟨beforeFormed, restFormed⟩ :=
    (wellFormedProgram_append_iff (List.cons_ne_nil _ _)).1 isScript
  obtain ⟨-, expressionFormed, afterFormed⟩ := wellFormedProgram_assign_cons.1 restFormed
  have earlierHoists : Hoists (fun table hoisted => (_ ∧ _) ∧ hoisted.length = before.length)
      (hoistStatements before) :=
    ((hoists_hoistStatements beforeFormed).and
      (hoists_statements (fun _ initial => initial.visible) beforeFormed)).and_result
        fun _ => length_hoistStatements
  have valueHoists : Hoists (fun table hoisted =>
      (_ ∧ _) ∧ hoisted.randomCalls = expression.randomCalls) (hoistExpr expression) :=
    ((hoists_hoistExpr expressionFormed).and
      (hoists_hasMeaning (fun _ isKnown => visible_of_knownAfter beforeFormed isKnown)
        expressionFormed)).and_result (randomCalls_hoistExpr expressionFormed)
  rw [keepResult_before_append (List.cons_ne_nil _ _), keepResult, hoistStatements_before_append]
  · refine earlierHoists.bind fun earlier => ?_
    rw [hoistStatements, hoistStatement, bind_assoc, bind_assoc]
    refine valueHoists.bind fun value => ?_
    rw [pure_bind, bind_assoc]
    refine (hoists_compilation afterFormed).bind fun later => ?_
    rw [pure_bind]
    refine Hoists.pure fun table _ valueHolds earlierHolds => ?_
    obtain ⟨⟨valueFormed, valueMeans⟩, randomCalls⟩ := valueHolds
    obtain ⟨⟨⟨earlierFormed, sameKnown⟩, earlierRelates⟩, length⟩ := earlierHolds
    rw [← sameKnown] at valueFormed
    exact ⟨earlier, value, later, rfl, length, earlierFormed, earlierRelates, valueFormed,
      valueMeans, randomCalls⟩
  · simp

/-! ## Taking an assignment out -/

/-- Whether the first statements of a script run for a cell without a fault. -/
def passes (script : Script) (count : Nat) (inputs : Inputs) (stream : RandomStream) : Bool :=
  (runStatements ⟨inputs.names, script.shared⟩ (script.statements.take count) stream).1.isOk

variable {source : String} {inputs : Inputs} {stream between : RandomStream} {scope : Scope}

theorem exists_ok_of_runStatements_assign {value : Expr}
    (runs : (runStatements scope [.assign [.name name] value] stream).1.isOk = true) :
    ∃ result, (evaluateExpr scope value stream).1 = .ok result := by
  rw [runStatements, runStatement, bind_assoc, bind_apply] at runs
  rcases outcome : evaluateExpr scope value stream with ⟨fault | result, afterValue⟩
  · rw [outcome] at runs
    cases runs
  · exact ⟨result, rfl⟩

/-- The part of a compiled script up to an assignment runs like the statements before it, and then
evaluates the expression. -/
theorem CompiledAssignment.exists_expr_eq_pure {table : List (String × Float)}
    {earlier : List Statement} {value : Expr} {start written : Scope}
    (assignment : CompiledAssignment before expression table earlier value)
    (serves : start.Serves (KnownOrHoisted IsInitial table) (sharedNames table))
    (compiles : start.Compiles table written) (noRandom : expression.randomCalls = 0)
    (reached : Reading.plain.statements written before stream = (.ok scope, between))
    (runs : (runStatements start (earlier ++ [.assign [.name name] value]) stream).1.isOk = true) :
    ∃ result, Reading.plain.expr scope expression = pure result := by
  obtain ⟨compiled, ranEarlier, stillCompiles⟩ :=
    (assignment.earlierRelates compiles).ok_left reached
  rw [runStatements_append, bind_apply, ranEarlier] at runs
  obtain ⟨result, success⟩ := exists_ok_of_runStatements_assign runs
  have holds : HoldsFunctions (sharedNames table) := holdsFunctions_standardNames
  have stillServes := (ensures_runStatements serves holds assignment.earlierFormed).of_ok ranEarlier
  have takes : TakesAtMost 0 (evaluateExpr compiled value) := by
    rw [← noRandom, ← assignment.randomCalls]
    exact takesAtMost_evaluateExpr stillServes holds assignment.valueFormed
  refine ⟨result, funext fun other => ?_⟩
  rw [← assignment.valueMeans stillCompiles, takes.apply_eq between other, success]
  rfl

/-- An expression that asks for no random number has a single value after some statements, if its
assignment does not fail there. -/
theorem exists_expr_eq_pure
    (isScript : IsScript (before ++ .assign [.name name] expression :: after))
    (noRandom : expression.randomCalls = 0)
    (succeeds : passes (ofTree source (before ++ .assign [.name name] expression :: after))
        before.length inputs stream →
      passes (ofTree source (before ++ .assign [.name name] expression :: after))
        (before.length + 1) inputs stream)
    (reached : Reading.plain.statements ⟨inputs.names, standardNames⟩ before stream =
      (.ok scope, between)) :
    ∃ result, Reading.plain.expr scope expression = pure result := by
  obtain ⟨earlier, value, later, split, assignment⟩ :=
    (hoists_compiledAssignment isScript []).2 _ (List.suffix_refl _)
  have statements :
      (ofTree source (before ++ .assign [.name name] expression :: after)).statements =
        earlier ++ .assign [.name name] value :: later := split
  have takeEarlier : (earlier ++ .assign [.name name] value :: later).take before.length =
      earlier := by
    rw [← assignment.length, List.take_left]
  have takeAssignment : (earlier ++ .assign [.name name] value :: later).take (before.length + 1) =
      earlier ++ [.assign [.name name] value] := by
    rw [← assignment.length, List.take_length_add_append]
    rfl
  have compiles :=
    compiles_inputs source (before ++ .assign [.name name] expression :: after) inputs
  obtain ⟨compiled, ranEarlier, -⟩ := (assignment.earlierRelates compiles).ok_left reached
  have passesEarlier : passes (ofTree source (before ++ .assign [.name name] expression :: after))
      before.length inputs stream = true := by
    rw [passes, statements, takeEarlier, ranEarlier]
    rfl
  have runs := succeeds passesEarlier
  rw [passes, statements, takeAssignment] at runs
  exact assignment.exists_expr_eq_pure (serves_inputs inputs _) compiles noRandom reached runs

/-- The statements before an assignment and those after it, with its expression in the place of its
name. -/
def inlined (before : List Statement) (name : String) (expression : Expr)
    (after : List Statement) : List Statement :=
  before ++ after.map (Statement.substitute (Expr.instead name expression))

theorem map_substitute_ne_nil {replacement : String → Expr}
    (formed : WellFormedProgram known after) :
    after.map (Statement.substitute replacement) ≠ [] := by
  rw [ne_eq, List.map_eq_nil_iff]
  rintro rfl
  exact not_wellFormedProgram_nil formed

theorem isScript_inlined
    (isScript : IsScript (before ++ .assign [.name name] expression :: after))
    (spare : ∀ statement ∈ after, statement.Spares name expression) :
    IsScript (inlined before name expression after) := by
  obtain ⟨beforeFormed, restFormed⟩ :=
    (wellFormedProgram_append_iff (List.cons_ne_nil _ _)).1 isScript
  obtain ⟨assignable, expressionFormed, afterFormed⟩ := wellFormedProgram_assign_cons.1 restFormed
  exact (wellFormedProgram_append_iff (map_substitute_ne_nil afterFormed)).2 ⟨beforeFormed,
    afterFormed.substitute assignable expressionFormed fun statement member =>
      (spare statement member).1⟩

/-- Where an expression has a single value, its assignment has no other effect than its inlining. -/
theorem body_assign_eq (formed : WellFormedProgram known after)
    (spare : ∀ statement ∈ after, statement.Spares name expression) {value : Value}
    (hasValue : Reading.plain.expr scope expression = pure value) :
    Reading.plain.body scope (.assign [.name name] expression :: after) =
      Reading.plain.body scope
        (after.map (Statement.substitute (Expr.instead name expression))) := by
  have inlines : Scope.Inlines name expression (scope.assign name value) scope := by
    refine ⟨fun other different => ?_, value, ?_, hasValue⟩
    · rw [Scope.lookup?_assign, if_neg different]
    · rw [Scope.lookup?_assign, if_pos rfl]
  obtain ⟨first, rest, rfl⟩ := List.exists_cons_of_ne_nil
    (show after ≠ [] from fun none => not_wellFormedProgram_nil (none ▸ formed))
  rw [← inlines.body_eq formed spare, Reading.body_cons_cons, Reading.statement, hasValue,
    pure_bind, pure_bind]

/-- An assignment may be taken out of a script, with its expression in the place of its name, if the
expression asks for no random number and nothing that it depends on changes. The cells for which the
assignment does not fail are what they were. -/
theorem inline_assignment {tree : List Statement}
    (split : tree = before ++ .assign [.name name] expression :: after)
    (accepted : checkTree tree = .ok ()) (noRandom : expression.randomCalls = 0)
    (spare : ∀ statement ∈ after, statement.Spares name expression) :
    checkTree (inlined before name expression after) = .ok () ∧
      ∀ source inlinedSource inputs stream,
        (passes (ofTree source tree) before.length inputs stream →
          passes (ofTree source tree) (before.length + 1) inputs stream) →
        (ofTree inlinedSource (inlined before name expression after)).evaluate inputs stream =
          (ofTree source tree).evaluate inputs stream := by
  rw [checkTree, checkStatements_eq_ok_iff, ← isInitial_eq] at accepted ⊢
  rw [split] at accepted ⊢
  have isScript : IsScript (before ++ .assign [.name name] expression :: after) := accepted
  have inlinedIsScript := isScript_inlined isScript spare
  refine ⟨inlinedIsScript, fun source inlinedSource inputs stream succeeds => ?_⟩
  obtain ⟨-, restFormed⟩ := (wellFormedProgram_append_iff (List.cons_ne_nil _ _)).1 isScript
  obtain ⟨-, -, afterFormed⟩ := wellFormedProgram_assign_cons.1 restFormed
  rw [evaluate_ofTree source isScript, evaluate_ofTree inlinedSource inlinedIsScript, meaning,
    meaning, Reading.tree, Reading.tree, Reading.plain.body_append (List.cons_ne_nil _ _), inlined,
    Reading.plain.body_append (map_substitute_ne_nil afterFormed), bind_assoc, bind_assoc,
    bind_apply, bind_apply]
  rcases reached : Reading.plain.statements ⟨inputs.names, standardNames⟩ before stream with
    ⟨fault | scope, between⟩
  · rfl
  · obtain ⟨value, hasValue⟩ := exists_expr_eq_pure isScript noRandom succeeds reached
    dsimp only
    rw [body_assign_eq afterFormed spare hasValue]

/-- The square of a difference that has a name. -/
theorem inline_assignment_square :
    ∃ tree inlinedTree, Grammar.parse? "n=x-1;n*n" = some tree ∧
      Grammar.parse? "(x-1)*(x-1)" = some inlinedTree ∧ checkTree inlinedTree = .ok () ∧
        (ofTree "(x-1)*(x-1)" inlinedTree).evaluate ⟨0, 0, 3, 0, 0, 0⟩ ⟨fun _ => 0, 0⟩ =
          (ofTree "n=x-1;n*n" tree).evaluate ⟨0, 0, 3, 0, 0, 0⟩ ⟨fun _ => 0, 0⟩ := by
  have parsed : Grammar.parse? "n=x-1;n*n" =
      some [.assign [.name "n"] (.binary .subtract (.name "x") (.literal (.whole 1))),
        .expression (.binary .multiply (.name "n") (.name "n"))] :=
    parse?_eq_some_of_sameTree (by decide +kernel)
  have parsedInlined : Grammar.parse? "(x-1)*(x-1)" =
      some (inlined [] "n" (.binary .subtract (.name "x") (.literal (.whole 1)))
        [.expression (.binary .multiply (.name "n") (.name "n"))]) :=
    parse?_eq_some_of_sameTree (by decide +kernel)
  have spare : ∀ statement ∈ [Statement.expression (.binary .multiply (.name "n") (.name "n"))],
      statement.Spares "n" (.binary .subtract (.name "x") (.literal (.whole 1))) :=
    List.forall_mem_singleton.2 ⟨id, fun _ _ => id⟩
  obtain ⟨inlinedAccepted, same⟩ := inline_assignment (List.nil_append _).symm
    (checkTree_eq_ok_of_isOk (by decide +kernel)) (by decide +kernel) spare
  exact ⟨_, _, parsed, parsedInlined, inlinedAccepted, same "n=x-1;n*n" "(x-1)*(x-1)" _ _
    fun _ => by decide +kernel⟩

end LiveGrid.Script
