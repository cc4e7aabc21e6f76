import LiveGrid.Proofs.Script.Compiled

/-!
Contract: a compiled script can only reach its inputs, its own names, the constants and
the functions of the table.

Owns:
- the names that compiling introduces, and that no script reads or writes them;
- the scopes in which the statements of a compiled script run;
- compiled scripts never read an unbound name, and call nothing but the table.

Does not own: which texts compile.
-/

namespace LiveGrid.Script

open Evaluation

/-! ## What statements mention -/

/-- The nodes of a statement's value. -/
def Statement.nodes : Statement → List Node
  | .assign _ value => value.nodes
  | .augmentedAssign _ _ value => value.nodes
  | .expression value => value.nodes
  | .foreign _ => []

/-- Whether a statement assigns to a name. -/
def Statement.Writes (name : String) : Statement → Prop
  | .assign targets _ => .name name ∈ targets
  | .augmentedAssign target _ _ => target = .name name
  | _ => False

/-- Whether a statement reads a name: in its value, or to change it by an operator. -/
def Statement.Reads (name : String) (statement : Statement) : Prop :=
  .expr (.name name) ∈ statement.nodes ∨
    ∃ operator value, statement = .augmentedAssign (.name name) operator value

/-- Whether compiling introduces a name. -/
def IsGenerated (name : String) : Prop :=
  name = resultName ∨ ∃ index, name = literalName index

/-! ## Scripts that are shut off -/

/-- A statement of a script runs in a scope, after the statements before it have run for the
inputs of a cell. -/
def RunsIn (script : Script) (inputs : Inputs) (statement : Statement) (scope : Scope) : Prop :=
  ∃ before rest stream after, script.statements = before ++ statement :: rest ∧
    runStatements ⟨inputs.names, script.shared⟩ before stream = (.ok scope, after)

/-- The script of a tree is shut off from everything but its names and the table. -/
structure IsSandboxed (tree : List Statement) (script : Script) : Prop where
  /-- The text neither reads nor writes a name that compiling introduces. -/
  hidesGenerated : ∀ statement ∈ tree, ∀ name, IsGenerated name →
    ¬ statement.Reads name ∧ ¬ statement.Writes name
  /-- No cell fails for a name without a value. -/
  failsByComputing : ∀ inputs stream fault after,
    script.evaluate inputs stream = (.error fault, after) →
      fault.className ≠ "NameError" ∧ fault.className ≠ "KeyError"
  /-- Where a statement runs, the names it reads have values. -/
  bindsReads : ∀ inputs statement scope, RunsIn script inputs statement scope →
    ∀ name, statement.Reads name → (scope.lookup? name).isSome = true
  /-- Where a call runs, it calls the function that the table has for the written name. -/
  callsTable : ∀ inputs statement scope, RunsIn script inputs statement scope →
    ∀ callee arguments keywordCount,
      .expr (.call callee arguments keywordCount) ∈ statement.nodes →
        ∃ name function, callee = .name name ∧ functionTable.lookup name = some function ∧
          evaluateExpr scope (.call callee arguments keywordCount) =
            evaluateAll scope arguments >>= callValue (.function function)
  /-- Until the last statement has run, nothing has been stored under the name of the result,
  and the names of literals stand for what they were bound to. -/
  keepsGenerated : ∀ inputs statement scope, RunsIn script inputs statement scope →
    scope.locals.lookup resultName = none ∧
      ∀ index, scope.lookup? (literalName index) = script.shared.lookup (literalName index)

/-! ## Hidden names -/

theorem literalName_startsWith {index : Nat} : (literalName index).startsWith "_" = true := by
  rw [String.startsWith_string_iff, literalName, String.toList_append]
  exact ⟨'k' :: (Number.Decimal.numeral index).toList, rfl⟩

theorem IsGenerated.startsWith {name : String} (generated : IsGenerated name) :
    name.startsWith "_" = true := by
  rcases generated with rfl | ⟨index, rfl⟩
  · decide +kernel
  · exact literalName_startsWith

theorem IsGenerated.not_isAssignable {name : String} (generated : IsGenerated name) :
    ¬ IsAssignable name :=
  fun assignable => assignable.visible generated.startsWith

theorem IsFunction.visible {name : String} (isFunction : IsFunction name) :
    ¬ name.startsWith "_" = true := by
  have each : ∀ name ∈ functionTable.map Prod.fst, ¬ name.startsWith "_" = true := by
    decide +kernel
  exact each name isFunction

theorem IsInitial.visible {name : String} (initial : IsInitial name) :
    ¬ name.startsWith "_" = true := by
  have each : ∀ name ∈ initialNames, ¬ name.startsWith "_" = true := by decide +kernel
  rw [isInitial_eq] at initial
  exact each name initial

/-- No name that is known anywhere in a script is hidden. -/
theorem visible_of_knownAfter {earlier : List Statement}
    (formed : WellFormedStatements IsInitial earlier) {name : String}
    (isKnown : KnownAfter IsInitial earlier name) : ¬ name.startsWith "_" = true := by
  rcases isKnown with initial | ⟨value, member⟩
  · exact initial.visible
  · obtain ⟨before, after, split⟩ := List.append_of_mem member
    cases formed before _ after split with
    | assign assignable _ => exact assignable.visible

/-! ## Statements that are well-formed where they stand -/

/-- A statement of a compiled script: a well-formed one, or the assignment of the result. -/
inductive WellFormedStep (known : String → Prop) : Statement → Prop where
  | statement {statement : Statement} (formed : WellFormedStatement known statement) :
      WellFormedStep known statement
  | result {value : Expr} (valueFormed : WellFormed known value) :
      WellFormedStep known (.assign [.name resultName] value)

namespace WellFormedStatement

variable {known : String → Prop} {statement : Statement}

/-- Whatever stands in the value of a well-formed statement is well-formed. -/
theorem of_mem_nodes (formed : WellFormedStatement known statement) {inner : Expr}
    (inside : .expr inner ∈ statement.nodes) : WellFormed known inner := by
  cases formed with
  | expression valueFormed => exact valueFormed.of_mem_nodes inside
  | assign _ valueFormed => exact valueFormed.of_mem_nodes inside
  | augmentedAssign _ _ _ valueFormed => exact valueFormed.of_mem_nodes inside

theorem reachable_of_reads (formed : WellFormedStatement known statement) {name : String}
    (reads : statement.Reads name) : known name ∨ IsFunction name := by
  rcases reads with inside | ⟨operator, value, rfl⟩
  · exact WellFormed.name_iff.1 (formed.of_mem_nodes inside)
  · cases formed with
    | augmentedAssign _ isKnown _ _ => exact .inl isKnown

theorem isAssignable_of_writes (formed : WellFormedStatement known statement) {name : String}
    (writes : statement.Writes name) : IsAssignable name := by
  cases formed with
  | expression _ => exact writes.elim
  | assign assignable _ =>
      obtain ⟨rfl⟩ := List.mem_singleton.1 writes
      exact assignable
  | augmentedAssign assignable _ _ _ =>
      cases writes
      exact assignable

end WellFormedStatement

namespace WellFormedStep

variable {known : String → Prop} {statement : Statement}

theorem of_mem_nodes (formed : WellFormedStep known statement) {inner : Expr}
    (inside : .expr inner ∈ statement.nodes) : WellFormed known inner := by
  cases formed with
  | statement formed => exact formed.of_mem_nodes inside
  | result valueFormed => exact valueFormed.of_mem_nodes inside

theorem reachable_of_reads (formed : WellFormedStep known statement) {name : String}
    (reads : statement.Reads name) : known name ∨ IsFunction name := by
  cases formed with
  | statement formed => exact formed.reachable_of_reads reads
  | result valueFormed =>
      rcases reads with inside | ⟨operator, value, same⟩
      · exact WellFormed.name_iff.1 (valueFormed.of_mem_nodes inside)
      · cases same

end WellFormedStep

/-- A compiled script up to one of its statements: those before it are well-formed, and so is
the statement where it stands. -/
theorem WellFormedCompilation.of_split {known : String → Prop} {statement : Statement}
    {statements before rest : List Statement} (formed : WellFormedCompilation known statements)
    (split : statements = before ++ statement :: rest) :
    WellFormedStatements known before ∧ WellFormedStep (KnownAfter known before) statement := by
  obtain ⟨earlier, value, rfl, earlierFormed, valueFormed⟩ := formed
  rcases List.eq_nil_or_concat rest with rfl | ⟨others, last, rfl⟩
  · obtain ⟨rfl, same⟩ := List.append_inj' split rfl
    cases same
    exact ⟨earlierFormed, .result valueFormed⟩
  · rw [List.concat_eq_append, ← List.cons_append, ← List.append_assoc] at split
    obtain ⟨rfl, -⟩ := List.append_inj' split rfl
    exact ⟨earlierFormed.of_append, .statement (earlierFormed before statement others rfl)⟩

/-! ## Compiled scripts -/

variable {source : String} {tree : List Statement} {script : Script}

/-- Wherever a statement runs, the scope serves the names over which it is well-formed. -/
theorem serves_of_runsIn (formed : WellFormedProgram IsInitial tree) {inputs : Inputs}
    {statement : Statement} {scope : Scope}
    (runs : RunsIn (ofTree source tree) inputs statement scope) :
    HoldsFunctions (ofTree source tree).shared ∧
      ∃ known, scope.Serves known (ofTree source tree).shared ∧
        WellFormedStep known statement := by
  obtain ⟨before, rest, stream, after, split, success⟩ := runs
  obtain ⟨table, shared, compilation⟩ := wellFormedCompilation_ofTree source formed
  obtain ⟨beforeFormed, stepFormed⟩ := compilation.of_split split
  have holds : HoldsFunctions (sharedNames table) := holdsFunctions_standardNames
  rw [shared] at success ⊢
  have ran := ensures_runStatements (serves_inputs inputs table) holds beforeFormed
  exact ⟨holds, _, ran.of_ok success, stepFormed⟩

theorem Fault.IsComputed.className_ne {fault : Fault} (computed : fault.IsComputed) :
    fault.className ≠ "NameError" ∧ fault.className ≠ "KeyError" := by
  cases fault with
  | unboundName name => exact absurd rfl (computed name)
  | _ => simp [className]

/-- In a scope of a compiled script a written call is a call of the table's function. -/
theorem Scope.Serves.evaluateExpr_call {known : String → Prop}
    {shared : List (String × Value)} {scope : Scope} (serves : scope.Serves known shared)
    (holds : HoldsFunctions shared) {callee : Expr} {arguments : List Expr} {keywordCount : Nat}
    (formed : WellFormed known (.call callee arguments keywordCount)) :
    ∃ name function, callee = .name name ∧ functionTable.lookup name = some function ∧
      evaluateExpr scope (.call callee arguments keywordCount) =
        evaluateAll scope arguments >>= callValue (.function function) := by
  obtain ⟨⟨name, rfl, isFunction, -⟩, -⟩ := WellFormed.call_iff.1 formed
  obtain ⟨function, entry⟩ := isFunction_iff.1 isFunction
  refine ⟨name, function, rfl, entry, ?_⟩
  rw [evaluateExpr, evaluateExpr, readName, serves.lookup?_function holds entry]
  exact pure_bind _ _

/-- A text mentions no name that compiling introduces. -/
theorem hidesGenerated_of_wellFormedProgram (formed : WellFormedProgram IsInitial tree)
    {statement : Statement} (member : statement ∈ tree) {name : String}
    (generated : IsGenerated name) : ¬ statement.Reads name ∧ ¬ statement.Writes name := by
  obtain ⟨earlier, value, rfl, earlierFormed, valueFormed⟩ := formed
  have notReachable : ∀ before, WellFormedStatements IsInitial before →
      ¬ (KnownAfter IsInitial before name ∨ IsFunction name) := by
    rintro before beforeFormed (isKnown | isFunction)
    · exact visible_of_knownAfter beforeFormed isKnown generated.startsWith
    · exact isFunction.visible generated.startsWith
  rcases List.mem_append.1 member with inEarlier | isLast
  · obtain ⟨before, after, rfl⟩ := List.append_of_mem inEarlier
    have statementFormed := earlierFormed before statement after rfl
    constructor
    · intro reads
      exact notReachable before earlierFormed.of_append (statementFormed.reachable_of_reads reads)
    · intro writes
      exact generated.not_isAssignable (statementFormed.isAssignable_of_writes writes)
  · obtain ⟨rfl⟩ := List.mem_singleton.1 isLast
    constructor
    · intro reads
      exact notReachable earlier earlierFormed
        (WellFormedStatement.expression valueFormed |>.reachable_of_reads reads)
    · exact id

/-- Compiled scripts are shut off. -/
theorem isSandboxed_of_compile (compiled : compile source = .ok script) :
    ∃ tree, Grammar.parse? source = some tree ∧ IsSandboxed tree script := by
  obtain ⟨tree, parsed, formed, -, rfl⟩ := compile_eq_ok_iff.1 compiled
  refine ⟨tree, parsed, ?_, ?_, ?_, ?_, ?_⟩
  · intro statement member name generated
    exact hidesGenerated_of_wellFormedProgram formed member generated
  · intro inputs stream fault after failure
    exact ((readsBound_evaluate formed inputs).of_error failure).className_ne
  · intro inputs statement scope runs name reads
    obtain ⟨holds, known, serves, stepFormed⟩ := serves_of_runsIn formed runs
    exact serves.isSome_lookup? holds (stepFormed.reachable_of_reads reads)
  · intro inputs statement scope runs callee arguments keywordCount inside
    obtain ⟨holds, known, serves, stepFormed⟩ := serves_of_runsIn formed runs
    exact serves.evaluateExpr_call holds (stepFormed.of_mem_nodes inside)
  · intro inputs statement scope runs
    obtain ⟨-, known, serves, -⟩ := serves_of_runsIn formed runs
    have hidden : ∀ name, IsGenerated name → ¬ IsAssignable name :=
      fun name generated => generated.not_isAssignable
    constructor
    · rw [← Option.not_isSome_iff_eq_none]
      exact fun isLocal => hidden resultName (.inl rfl) (serves.localsAssignable resultName isLocal)
    · exact fun index => serves.lookup?_of_not_assignable (hidden _ (.inr ⟨index, rfl⟩))

/-- A script that assigns to a constant and to an input, and has literals of its own. -/
theorem isSandboxed_reused_names :
    ∃ script, compile "PI=1;t+=2.5;max(PI,t)*0.5" = .ok script ∧
      ∃ tree, Grammar.parse? "PI=1;t+=2.5;max(PI,t)*0.5" = some tree ∧
        IsSandboxed tree script := by
  have compiles : (compile "PI=1;t+=2.5;max(PI,t)*0.5").isOk = true := by decide +kernel
  cases compiled : compile "PI=1;t+=2.5;max(PI,t)*0.5" with
  | ok script => exact ⟨script, rfl, isSandboxed_of_compile compiled⟩
  | error cause =>
      rw [compiled] at compiles
      cases compiles

end LiveGrid.Script
