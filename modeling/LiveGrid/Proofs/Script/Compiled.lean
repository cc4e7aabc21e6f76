import LiveGrid.Proofs.Script.Check
import LiveGrid.Proofs.Script.Hoisting
import LiveGrid.Proofs.Script.Scope

/-!
Contract: what a text compiles to, and the scope in which its cells start.

Owns:
- the names that cells share hold the functions of the table;
- a cell starts in a scope that serves its inputs, the constants and the hoisted
  literals;
- a text compiles exactly if its tree is a script without a reserved target, to statements that
  are well-formed over that scope;
- no cell of a compiled script reads an unbound name.

Does not own: where in a script its names and calls stand.
-/

namespace LiveGrid.Script

open Evaluation

/-! ## The scope of a cell -/

theorem lookup_map_snd {First Second : Type} (convert : First → Second)
    {entries : List (String × First)} {name : String} :
    (entries.map fun (key, value) => (key, convert value)).lookup name =
      (entries.lookup name).map convert := by
  induction entries with
  | nil => rfl
  | cons first rest inductionHypothesis =>
      rw [List.map_cons, List.lookup_cons, List.lookup_cons, inductionHypothesis]
      split <;> rfl

theorem IsFunction.not_mem_constants {name : String} (isFunction : IsFunction name) :
    name ∉ constantTable.map Prod.fst := by
  have each : ∀ name ∈ functionTable.map Prod.fst, name ∉ constantTable.map Prod.fst := by
    decide +kernel
  exact each name isFunction

/-- No constant and no literal covers a function. -/
theorem holdsFunctions_standardNames {more : List (String × Value)} :
    HoldsFunctions (standardNames ++ more) := by
  intro name function entry
  have noConstant : constantTable.lookup name = none := by
    rw [← Option.not_isSome_iff_eq_none, isSome_lookup_iff]
    exact (isFunction_iff.2 ⟨function, entry⟩).not_mem_constants
  rw [standardNames, List.lookup_append, List.lookup_append,
    lookup_map_snd (fun value => Value.machine (Machine.double value)), noConstant,
    lookup_map_snd Value.function, entry]
  rfl

theorem isAssignable_of_mem_inputNames {name : String} (member : name ∈ inputNames) :
    IsAssignable name := by
  have each : ∀ name ∈ inputNames,
      name.startsWith "_" = false ∧ isFunctionName name = false := by decide +kernel
  exact isAssignable_iff.2 (each name member)

/-- The names that cells share: constants, functions and the names of hoisted literals. -/
def sharedNames (table : List (String × Float)) : List (String × Value) :=
  standardNames ++ table.reverse.map fun (name, value) => (name, .machine (.double value))

/-- A cell starts in a scope that serves its inputs, the constants and the hoisted literals. -/
theorem serves_inputs (inputs : Inputs) (table : List (String × Float)) :
    (⟨inputs.names, sharedNames table⟩ : Scope).Serves (KnownOrHoisted IsInitial table)
      (sharedNames table) where
  sharedSame := rfl
  bound name reachable := by
    have keys : inputs.names.map Prod.fst = inputNames := rfl
    cases found : inputs.names.lookup name with
    | some value => rw [Scope.lookup?, found, Option.isSome_some]
    | none =>
        rw [Scope.lookup?, found, isSome_lookup_iff, sharedNames, standardNames]
        have notInput : name ∉ inputNames := by
          rw [← keys, ← isSome_lookup_iff, found]
          simp
        rcases reachable with initial | hoisted
        · have isConstant := initial.resolve_left notInput
          simp only [List.map_append, List.map_map, List.mem_append]
          exact .inl (.inl isConstant)
        · simp only [List.map_append, List.map_map, List.mem_append, List.map_reverse,
            List.mem_reverse]
          exact .inr hoisted
  localsAssignable name isLocal := isAssignable_of_mem_inputNames (isSome_lookup_iff.1 isLocal)

/-! ## Compiled scripts -/

variable {source : String} {tree : List Statement} {script : Script}

theorem compile_of_parse? (parsed : Grammar.parse? source = some tree) :
    compile source = compileTree source tree := by
  rw [compile, parsed]

/-- The check, as a condition on the tree. -/
theorem isScript_iff_checkTree : IsScript tree ↔ checkTree tree = .ok () := by
  rw [IsScript, isInitial_eq, ← checkStatements_eq_ok_iff, checkTree]

/-- A text whose tree is known compiles exactly if the tree is a script without a reserved target. -/
theorem compile_eq_ok_iff_of_parse? (parsed : Grammar.parse? source = some tree) :
    compile source = .ok script ↔
      IsScript tree ∧ reservedTarget? tree = none ∧ ofTree source tree = script := by
  rw [compile_of_parse? parsed, isScript_iff_checkTree, compileTree]
  rcases checkTree tree with cause | ⟨⟩
  · simp
  · cases reservedTarget? tree <;> simp

theorem compile_eq_ok_iff :
    compile source = .ok script ↔
      ∃ tree, Grammar.parse? source = some tree ∧ WellFormedProgram IsInitial tree ∧
        reservedTarget? tree = none ∧ ofTree source tree = script := by
  cases parsed : Grammar.parse? source with
  | none => simp [compile, parsed]
  | some tree =>
      simp only [compile_eq_ok_iff_of_parse? parsed, Option.some.injEq, exists_eq_left', IsScript]

theorem checkTree_eq_ok_of_isOk (accepted : (checkTree tree).isOk = true) :
    checkTree tree = .ok () := by
  cases checked : checkTree tree with
  | ok => rfl
  | error cause =>
      rw [checked] at accepted
      cases accepted

theorem compile_eq_ok_of_parse? (parsed : Grammar.parse? source = some tree)
    (accepted : ((checkTree tree).isOk && (reservedTarget? tree).isNone) = true) :
    compile source = .ok (ofTree source tree) := by
  obtain ⟨isChecked, isUnreserved⟩ := Bool.and_eq_true_iff.1 accepted
  rw [compile_of_parse? parsed, compileTree, checkTree_eq_ok_of_isOk isChecked,
    Option.isNone_iff_eq_none.1 isUnreserved]

/-- The compiler breaks off exactly at scripts with a reserved target. -/
theorem compile_eq_reserved_iff {target : ReservedTarget} :
    compile source = .error (.reserved target) ↔
      ∃ tree, Grammar.parse? source = some tree ∧ IsScript tree ∧
        reservedTarget? tree = some target := by
  cases parsed : Grammar.parse? source with
  | none => simp [compile, parsed]
  | some tree =>
      simp only [compile_of_parse? parsed, isScript_iff_checkTree, Option.some.injEq,
        exists_eq_left', compileTree]
      rcases checkTree tree with cause | ⟨⟩
      · simp
      · cases reservedTarget? tree <;> simp

theorem parse?_eq_some_of_sameTree
    (isSame : (Grammar.parse? source).any (sameTree tree) = true) :
    Grammar.parse? source = some tree := by
  cases parsed : Grammar.parse? source with
  | none =>
      rw [parsed] at isSame
      cases isSame
  | some other =>
      rw [parsed, Option.any_some] at isSame
      rw [eq_of_sameTree isSame]

/-- A target is known by its normal form, so that other letters can stand for those of a constant. -/
theorem compile_reserved_false : compile "Fªlse=1;x" = .error (.reserved ⟨"False"⟩) := by
  have parsed : Grammar.parse? "Fªlse=1;x" =
      some [.assign [.name "False"] (.literal (.whole 1)), .expression (.name "x")] :=
    parse?_eq_some_of_sameTree (by decide +kernel)
  have isScript :
      IsScript [.assign [.name "False"] (.literal (.whole 1)), .expression (.name "x")] :=
    isScript_iff_checkTree.2 (checkTree_eq_ok_of_isOk (by decide +kernel))
  exact compile_eq_reserved_iff.2 ⟨_, parsed, isScript, rfl⟩

/-- The statements of a compiled script are well-formed over what its cells start with. -/
theorem wellFormedCompilation_ofTree (source : String)
    (formed : WellFormedProgram IsInitial tree) :
    ∃ table, (ofTree source tree).shared = sharedNames table ∧
      WellFormedCompilation (KnownOrHoisted IsInitial table) (ofTree source tree).statements :=
  ⟨_, rfl, (hoists_compilation formed []).2 _ (List.suffix_refl _)⟩

theorem runStatements_append {scope : Scope} {before after : List Statement} :
    runStatements scope (before ++ after) =
      runStatements scope before >>= fun scope => runStatements scope after := by
  induction before generalizing scope with
  | nil => simp [runStatements]
  | cons first rest inductionHypothesis =>
      simp [runStatements, inductionHypothesis]

/-- A cell whose last statement keeps its result computes the value of that statement after the
others. -/
theorem evaluate_eq_bind {earlier : List Statement} {value : Expr} {inputs : Inputs}
    (statements : script.statements = earlier ++ [.assign [.name resultName] value]) :
    script.evaluate inputs =
      runStatements ⟨inputs.names, script.shared⟩ earlier >>= fun scope =>
        evaluateExpr scope value >>= fun result => Evaluation.ofExcept result.toCell := by
  rw [evaluate, statements, runStatements_append, bind_assoc]
  refine bind_congr fun scope => ?_
  rw [runStatements, runStatement, bind_assoc, bind_assoc]
  refine bind_congr fun result => ?_
  rw [pure_bind, runStatements, pure_bind, readName, Scope.lookup?, Scope.assign,
    List.lookup_cons_self]
  exact pure_bind result _

/-- A cell of a compiled script never reads an unbound name. -/
theorem readsBound_evaluate (formed : WellFormedProgram IsInitial tree) (inputs : Inputs) :
    ReadsBound ((ofTree source tree).evaluate inputs) := by
  obtain ⟨table, shared, earlier, value, statements, earlierFormed, valueFormed⟩ :=
    wellFormedCompilation_ofTree source formed
  have holds : HoldsFunctions (sharedNames table) := holdsFunctions_standardNames
  rw [evaluate_eq_bind statements, shared]
  refine (ensures_runStatements (serves_inputs inputs table) holds earlierFormed).bind
    fun scope serves => ?_
  exact (readsBound_evaluateExpr serves holds valueFormed).bind fun result _ =>
    readsBound_ofExcept Value.computed_toCell

end LiveGrid.Script
