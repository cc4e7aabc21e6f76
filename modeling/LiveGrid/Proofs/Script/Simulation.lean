import LiveGrid.Proofs.Script.Meaning
import LiveGrid.Proofs.Script.Tree
import Mathlib.Data.List.Forall2

/-!
Contract: evaluations of trees that agree step by step.

Owns:
- relations between two readings that hold of every step and are passed on by chains;
- lists of expressions and of statements do the same if their members do, one by one;
- readings that do the same step by step do the same with a whole tree.

Does not own: which readings there are.
-/

namespace LiveGrid.Script

namespace Reading

variable {First Second : Type → Type} [Monad First] [Monad Second]

/-- A relation between what two readings do that holds of each step and is passed on by chains. -/
structure Simulates (reading : Reading First) (other : Reading Second)
    (relation : ∀ {Result : Type}, First Result → Second Result → Prop) : Prop where
  pure : ∀ {Result : Type} (value : Result), relation (pure value) (pure value)
  bind : ∀ {Result More : Type} {action : First Result} {otherAction : Second Result}
    {next : Result → First More} {otherNext : Result → Second More},
    relation action otherAction → (∀ value, relation (next value) (otherNext value)) →
      relation (action >>= next) (otherAction >>= otherNext)
  literal : ∀ value,
    relation (reading.embed (literalMeaning value)) (other.embed (literalMeaning value))
  readName : ∀ scope name,
    relation (reading.embed (readName scope name)) (other.embed (readName scope name))
  foreign : ∀ {Result : Type} nodeName,
    relation (reading.embed (throw (.foreignNode nodeName) : Evaluation Result))
      (other.embed (throw (.foreignNode nodeName)))
  perform : ∀ operation, relation (reading.perform operation) (other.perform operation)

namespace Simulates

variable {reading : Reading First} {other : Reading Second}
  {relation : ∀ {Result : Type}, First Result → Second Result → Prop}
  (simulates : reading.Simulates other relation) {scope otherScope : Scope}

include simulates

theorem exprs {expressions others : List Expr}
    (each : List.Forall₂ (fun expression counterpart =>
      relation (reading.expr scope expression) (other.expr otherScope counterpart))
        expressions others) :
    relation (reading.exprs scope expressions) (other.exprs otherScope others) := by
  induction each with
  | nil =>
      rw [Reading.exprs, Reading.exprs]
      exact simulates.pure _
  | cons firstRelates restRelate inductionHypothesis =>
      rw [Reading.exprs, Reading.exprs]
      exact simulates.bind firstRelates fun _ =>
        simulates.bind inductionHypothesis fun _ => simulates.pure _

theorem junction {operator : BoolOperator} {operands others : List Expr}
    (each : List.Forall₂ (fun operand counterpart =>
      relation (reading.expr scope operand) (other.expr otherScope counterpart)) operands others) :
    relation (reading.junction scope operator operands)
      (other.junction otherScope operator others) := by
  induction each with
  | nil =>
      rw [Reading.junction, Reading.junction]
      exact simulates.pure _
  | cons firstRelates restRelate inductionHypothesis =>
      cases restRelate with
      | nil =>
          rw [Reading.junction, Reading.junction]
          exact firstRelates
      | cons secondRelates othersRelate =>
          rw [junction_cons_cons, junction_cons_cons]
          refine simulates.bind firstRelates fun value => ?_
          split
          · exact simulates.pure _
          · exact inductionHypothesis

theorem chain {left : Value} {links others : List (CompareOperator × Expr)}
    (each : List.Forall₂ (fun link counterpart => link.1 = counterpart.1 ∧
      relation (reading.expr scope link.2) (other.expr otherScope counterpart.2)) links others) :
    relation (reading.chain scope left links) (other.chain otherScope left others) := by
  induction each generalizing left with
  | nil =>
      rw [Reading.chain, Reading.chain]
      exact simulates.pure _
  | @cons first firstOther rest restOther firstRelates restRelate inductionHypothesis =>
      obtain ⟨operator, expression⟩ := first
      obtain ⟨_, counterpart⟩ := firstOther
      obtain ⟨rfl, expressionRelates⟩ := firstRelates
      cases restRelate with
      | nil =>
          rw [Reading.chain, Reading.chain]
          exact simulates.bind expressionRelates fun _ => simulates.perform _
      | cons secondRelates othersRelate =>
          rw [chain_cons_cons, chain_cons_cons]
          refine simulates.bind expressionRelates fun right =>
            simulates.bind (simulates.perform _) fun outcome => ?_
          split
          · exact inductionHypothesis
          · exact simulates.pure _

theorem expr {expression : Expr} :
    relation (reading.expr scope expression) (other.expr scope expression) := by
  induction expression using Expr.structuralInduction with
  | literal value =>
      rw [Reading.expr, Reading.expr]
      exact simulates.literal value
  | name identifier =>
      rw [Reading.expr, Reading.expr]
      exact simulates.readName scope identifier
  | unary operator operand operandRelates =>
      rw [Reading.expr, Reading.expr]
      exact simulates.bind operandRelates fun _ => simulates.perform _
  | binary operator left right leftRelates rightRelates =>
      rw [Reading.expr, Reading.expr]
      exact simulates.bind leftRelates fun _ => simulates.bind rightRelates fun _ =>
        simulates.perform _
  | bool operator operands operandsRelate =>
      rw [Reading.expr, Reading.expr]
      exact simulates.junction (List.forall₂_same.2 operandsRelate)
  | compare first links firstRelates linksRelate =>
      rw [Reading.expr, Reading.expr]
      exact simulates.bind firstRelates fun _ =>
        simulates.chain (List.forall₂_same.2 fun link member => ⟨rfl, linksRelate link member⟩)
  | conditional test body otherwise testRelates bodyRelates otherwiseRelates =>
      rw [Reading.expr, Reading.expr]
      refine simulates.bind testRelates fun test => ?_
      split
      · exact bodyRelates
      · exact otherwiseRelates
  | call function arguments keywordCount functionRelates argumentsRelate =>
      rw [Reading.expr, Reading.expr]
      exact simulates.bind functionRelates fun _ =>
        simulates.bind (simulates.exprs (List.forall₂_same.2 argumentsRelate)) fun _ =>
          simulates.perform _
  | foreign kind parts =>
      rw [Reading.expr, Reading.expr]
      exact simulates.foreign kind.nodeName

theorem assign {targets : List Expr} {value counterpart : Expr}
    (relates : relation (reading.expr scope value) (other.expr scope counterpart)) :
    relation (reading.statement scope (.assign targets value))
      (other.statement scope (.assign targets counterpart)) := by
  by_cases isName : ∃ name, targets = [.name name]
  · obtain ⟨name, rfl⟩ := isName
    rw [Reading.statement, Reading.statement]
    exact simulates.bind relates fun _ => simulates.pure _
  · rw [Reading.statement, Reading.statement]
    · exact simulates.foreign "Assign"
    · exact fun name same => isName ⟨name, same⟩
    · exact fun name same => isName ⟨name, same⟩

theorem augmentedAssign {target : Expr} {operator : BinaryOperator} {value counterpart : Expr}
    (relates : ∀ current name, relation
      (reading.expr scope value >>= fun operand =>
        reading.perform (.binary operator true current operand) >>= fun result =>
          Pure.pure (scope.assign name result))
      (other.expr scope counterpart >>= fun operand =>
        other.perform (.binary operator true current operand) >>= fun result =>
          Pure.pure (scope.assign name result))) :
    relation (reading.statement scope (.augmentedAssign target operator value))
      (other.statement scope (.augmentedAssign target operator counterpart)) := by
  by_cases isName : ∃ name, target = .name name
  · obtain ⟨name, rfl⟩ := isName
    rw [Reading.statement, Reading.statement]
    exact simulates.bind (simulates.readName scope name) fun current => relates current name
  · rw [Reading.statement, Reading.statement]
    · exact simulates.foreign "AugAssign"
    · exact fun name same => isName ⟨name, same⟩
    · exact fun name same => isName ⟨name, same⟩

theorem statement {statement : Statement} :
    relation (reading.statement scope statement) (other.statement scope statement) := by
  cases statement with
  | assign targets value => exact simulates.assign simulates.expr
  | augmentedAssign target operator value =>
      exact simulates.augmentedAssign fun _ _ => simulates.bind simulates.expr fun _ =>
        simulates.bind (simulates.perform _) fun _ => simulates.pure _
  | expression value =>
      rw [Reading.statement, Reading.statement]
      exact simulates.bind simulates.expr fun _ => simulates.pure _
  | foreign kind =>
      rw [Reading.statement, Reading.statement]
      exact simulates.foreign kind.nodeName

/-- Statements do the same if each does the same as its counterpart, also as the last one. -/
theorem body {Counterpart : Statement → Statement → Prop}
    (each : ∀ {statement counterpart}, Counterpart statement counterpart → ∀ scope,
      relation (reading.statement scope statement) (other.statement scope counterpart))
    (last : ∀ {statement counterpart}, Counterpart statement counterpart → ∀ scope,
      relation (reading.body scope [statement]) (other.body scope [counterpart]))
    {statements others : List Statement} (all : List.Forall₂ Counterpart statements others) :
    relation (reading.body scope statements) (other.body scope others) := by
  induction all generalizing scope with
  | nil =>
      rw [Reading.body, Reading.body]
      exact simulates.foreign "Module"
  | cons first rest inductionHypothesis =>
      cases rest with
      | nil => exact last first scope
      | cons second more =>
          rw [body_cons_cons, body_cons_cons]
          exact simulates.bind (each first scope) fun _ => inductionHypothesis

/-- Statements that are no expressions give nothing at the end of a tree. -/
theorem body_singleton {statement counterpart : Statement}
    (isNone : ∀ value, statement ≠ .expression value)
    (isNoneOther : ∀ value, counterpart ≠ .expression value)
    (relates : relation (reading.statement scope statement) (other.statement scope counterpart)) :
    relation (reading.body scope [statement]) (other.body scope [counterpart]) := by
  rw [Reading.body, Reading.body]
  · refine simulates.bind relates fun scope => ?_
    rw [Reading.body, Reading.body]
    exact simulates.foreign "Module"
  · exact fun value isExpression _ => isNoneOther value isExpression
  · exact fun value isExpression _ => isNone value isExpression

theorem last {statement : Statement} :
    relation (reading.body scope [statement]) (other.body scope [statement]) := by
  cases statement with
  | expression value =>
      rw [Reading.body, Reading.body]
      exact simulates.expr
  | _ => exact simulates.body_singleton (by simp) (by simp) simulates.statement

/-- Readings that do the same step by step do the same with a whole tree. -/
theorem tree {inputs : Inputs} {statements : List Statement} :
    relation (reading.tree inputs statements) (other.tree inputs statements) := by
  refine simulates.body (fun same scope => ?_) (fun same scope => ?_)
    (List.forall₂_same.2 fun statement _ => Eq.refl statement)
  · rw [same]
    exact simulates.statement
  · rw [same]
    exact simulates.last

end Simulates

variable {reading : Reading First}

theorem simulates_eq : reading.Simulates reading Eq where
  pure _ := rfl
  bind same next := by
    rw [same]
    exact bind_congr next
  literal _ := rfl
  readName _ _ := rfl
  foreign _ := rfl
  perform _ := rfl

end Reading

end LiveGrid.Script
