import LiveGrid.Proofs.Script.Literals
import LiveGrid.Proofs.Script.Simulation

/-!
Contract: an assignment with an operator stands for a plain assignment.

Owns:
- trees in which some assignments with an operator are written out;
- evaluations that differ at most in the text of their fault;
- a tree is a script exactly if it is one written out, and both have the same outcomes.

The texts of faults differ, because an operator of an assignment is shown with its equals sign.

Does not own: how the assignments are written.
-/

namespace LiveGrid.Script

open Evaluation

/-! ## Trees that are written out -/

/-- A statement next to itself, or an assignment with an operator next to the plain one. -/
inductive WritesOut : Statement → Statement → Prop where
  | same (statement : Statement) : WritesOut statement statement
  | augmentedAssign (target : Expr) (operator : BinaryOperator) (value : Expr) :
      WritesOut (.augmentedAssign target operator value)
        (.assign [target] (.binary operator target value))

/-! ## The check -/

variable {known : String → Prop}

theorem wellFormedStatement_assign_binary_iff {target value : Expr} {operator : BinaryOperator} :
    WellFormedStatement known (.assign [target] (.binary operator target value)) ↔
      WellFormedStatement known (.augmentedAssign target operator value) := by
  constructor
  · intro formed
    cases formed with
    | assign assignable resultFormed =>
        obtain ⟨allowed, targetFormed, valueFormed⟩ := WellFormed.binary_iff.1 resultFormed
        have isKnown := (WellFormed.name_iff.1 targetFormed).resolve_right assignable.notFunction
        exact .augmentedAssign assignable isKnown allowed valueFormed
  · intro formed
    cases formed with
    | augmentedAssign assignable isKnown allowed valueFormed =>
        exact .assign assignable (.binary allowed (.name (.inl isKnown)) valueFormed)

namespace WritesOut

variable {statement writtenOut : Statement}

theorem isExpression_iff (writesOut : WritesOut statement writtenOut) :
    (∃ value, statement = .expression value) ↔ ∃ value, writtenOut = .expression value := by
  cases writesOut with
  | same => exact Iff.rfl
  | augmentedAssign => simp

theorem wellFormedStatement_iff (writesOut : WritesOut statement writtenOut) :
    WellFormedStatement known statement ↔ WellFormedStatement known writtenOut := by
  cases writesOut with
  | same => exact Iff.rfl
  | augmentedAssign => exact wellFormedStatement_assign_binary_iff.symm

/-- The plain assignment makes no name known that was not known before. -/
theorem knownAfter_eq (writesOut : WritesOut statement writtenOut)
    (formed : WellFormedStatement known statement) :
    KnownAfter known [statement] = KnownAfter known [writtenOut] := by
  cases writesOut with
  | same => rfl
  | augmentedAssign =>
      cases formed with
      | @augmentedAssign name _ _ _ isKnown _ _ =>
          funext other
          refine propext ?_
          rw [knownAfter_singleton, knownAfter_singleton]
          constructor
          · rintro (knownBefore | assigned)
            · exact .inl knownBefore
            · cases assigned
          · rintro (knownBefore | assigned)
            · exact .inl knownBefore
            · cases assigned
              exact .inl isKnown

end WritesOut

/-! ## Outcomes -/

/-- The result of an evaluation or the class of its fault, and the random numbers that are left. -/
def outcome {Result : Type} (action : Evaluation Result) (stream : RandomStream) :
    Except String Result × RandomStream :=
  ((action stream).1.mapError Fault.className, (action stream).2)

/-- Whether two faults have the same class. -/
def Fault.SameClass (fault other : Fault) : Prop := fault.className = other.className

theorem Fault.SameClass.refl (fault : Fault) : fault.SameClass fault := Eq.refl fault.className

variable {First Second : Type}

theorem Relates.outcome_eq {action other : Evaluation First}
    (relates : Relates Fault.SameClass Eq action other) : outcome action = outcome other := by
  funext stream
  have outcomesMatch := relates stream
  rw [outcome, outcome]
  generalize action stream = first, other stream = second at outcomesMatch ⊢
  cases outcomesMatch with
  | ok same => rw [same]
  | error sameClass => rw [Except.mapError, Except.mapError, sameClass]

/-- Two results that agree up to the text of their fault. -/
theorem relates_ofExcept {result other : Except Fault First}
    (same : result.mapError Fault.className = other.mapError Fault.className) :
    Relates Fault.SameClass Eq (Evaluation.ofExcept result) (Evaluation.ofExcept other) := by
  intro stream
  cases result with
  | ok value =>
      cases other with
      | ok otherValue => exact .ok (Except.ok.inj same)
      | error fault => cases same
  | error fault =>
      cases other with
      | ok value => cases same
      | error otherFault => exact .error (Except.error.inj same)

/-! ## Operators that assign -/

theorem Plain.className_binary {operator : BinaryOperator} {mark other : String}
    {left right : Plain} :
    (Plain.binary operator mark left right).mapError Fault.className =
      (Plain.binary operator other left right).mapError Fault.className := by
  unfold Plain.binary
  split <;> rfl

theorem mapError_map {result : Except Fault First} {function : First → Second} :
    (result.map function).mapError Fault.className =
      (result.mapError Fault.className).map function := by
  cases result <;> rfl

/-- Only the text of a fault tells whether an operator assigns. -/
theorem Value.className_binary {operator : BinaryOperator} {left right : Value} :
    (Value.binary operator true left right).mapError Fault.className =
      (Value.binary operator false left right).mapError Fault.className := by
  unfold Value.binary
  split
  · rw [mapError_map, mapError_map, Plain.className_binary]
  · rfl
  · rfl
  · split
    · rw [mapError_map, mapError_map, Plain.className_binary]
    · rfl
  · rfl
  · rfl

/-! ## Evaluation -/

theorem WritesOut.relates_statement {statement writtenOut : Statement}
    (writesOut : WritesOut statement writtenOut) (scope : Scope) :
    Relates Fault.SameClass Eq (Reading.plain.statement scope statement)
      (Reading.plain.statement scope writtenOut) := by
  cases writesOut with
  | same => exact Relates.refl Fault.SameClass.refl
  | augmentedAssign target operator value =>
      cases target with
      | name name =>
          rw [Reading.statement, Reading.statement, Reading.expr, Reading.expr, bind_assoc]
          refine Relates.bind_same Fault.SameClass.refl fun current => ?_
          rw [bind_assoc]
          refine Relates.bind_same Fault.SameClass.refl fun operand => ?_
          refine (relates_ofExcept Value.className_binary).bind fun result _ same => ?_
          rw [← same]
          exact Relates.pure rfl
      | _ => exact fun _ => .error rfl

theorem simulates_sameClass : Reading.plain.Simulates Reading.plain
    (Relates Fault.SameClass Eq) where
  pure _ := Relates.pure rfl
  bind relates next := relates.bind fun value _ same => same ▸ next value
  literal _ := Relates.refl Fault.SameClass.refl
  readName _ _ := Relates.refl Fault.SameClass.refl
  foreign _ := Relates.refl Fault.SameClass.refl
  perform _ := Relates.refl Fault.SameClass.refl

theorem relates_body_writesOut {body writtenOut : List Statement} {scope : Scope}
    (writesOut : List.Forall₂ WritesOut body writtenOut) :
    Relates Fault.SameClass Eq (Reading.plain.body scope body)
      (Reading.plain.body scope writtenOut) := by
  refine simulates_sameClass.body (fun each scope => each.relates_statement scope) ?_ writesOut
  intro statement counterpart last scope
  have relates := last.relates_statement scope
  cases last with
  | same => exact Relates.refl Fault.SameClass.refl
  | augmentedAssign => exact simulates_sameClass.body_singleton (by simp) (by simp) relates

/-! ## Scripts -/

/-- A tree is a script exactly if it is one when assignments are written out, and then its cells
have the same outcomes. -/
theorem writesOut_script {tree writtenOut : List Statement}
    (writesOut : List.Forall₂ WritesOut tree writtenOut) :
    (checkTree tree = .ok () ↔ checkTree writtenOut = .ok ()) ∧
      (checkTree tree = .ok () → ∀ source writtenSource inputs,
        outcome ((ofTree source tree).evaluate inputs) =
          outcome ((ofTree writtenSource writtenOut).evaluate inputs)) := by
  have sameScripts : IsScript tree ↔ IsScript writtenOut :=
    wellFormedProgram_iff_of_forall₂ WritesOut.isExpression_iff WritesOut.wellFormedStatement_iff
      WritesOut.knownAfter_eq writesOut
  rw [checkTree, checkTree, checkStatements_eq_ok_iff, checkStatements_eq_ok_iff, ← isInitial_eq]
  refine ⟨sameScripts, fun isScript source writtenSource inputs => ?_⟩
  rw [evaluate_ofTree source isScript, evaluate_ofTree writtenSource (sameScripts.1 isScript)]
  refine Relates.outcome_eq ((relates_body_writesOut writesOut).bind fun result _ same => ?_)
  rw [← same]
  exact Relates.refl Fault.SameClass.refl

/-- A sum that is kept under the name of an input. -/
theorem writesOut_script_sum :
    ∃ tree writtenOut, Grammar.parse? "x+=y;x" = some tree ∧
      Grammar.parse? "x=x+y;x" = some writtenOut ∧ List.Forall₂ WritesOut tree writtenOut ∧
        checkTree tree = .ok () ∧ checkTree writtenOut = .ok () ∧
          ∀ inputs, outcome ((ofTree "x+=y;x" tree).evaluate inputs) =
            outcome ((ofTree "x=x+y;x" writtenOut).evaluate inputs) := by
  have parsed : Grammar.parse? "x+=y;x" =
      some [.augmentedAssign (.name "x") .add (.name "y"), .expression (.name "x")] :=
    parse?_eq_some_of_sameTree (by decide +kernel)
  have parsedOut : Grammar.parse? "x=x+y;x" =
      some [.assign [.name "x"] (.binary .add (.name "x") (.name "y")),
        .expression (.name "x")] :=
    parse?_eq_some_of_sameTree (by decide +kernel)
  have writesOut : List.Forall₂ WritesOut
      [.augmentedAssign (.name "x") .add (.name "y"), .expression (.name "x")]
      [.assign [.name "x"] (.binary .add (.name "x") (.name "y")), .expression (.name "x")] :=
    .cons (.augmentedAssign _ _ _) (.cons (.same _) .nil)
  have accepted : checkTree [.augmentedAssign (.name "x") .add (.name "y"),
      .expression (.name "x")] = .ok () := checkTree_eq_ok_of_isOk (by decide +kernel)
  exact ⟨_, _, parsed, parsedOut, writesOut, accepted,
    (writesOut_script writesOut).1.1 accepted,
    (writesOut_script writesOut).2 accepted "x+=y;x" "x=x+y;x"⟩

end LiveGrid.Script
