import LiveGrid.Proofs.Outcome
import LiveGrid.Proofs.Script.Language
import Mathlib.Logic.Basic

/-!
Contract: the check decides the language of scripts.

Owns:
- which nodes, expressions, targets and statements pass the check;
- the check succeeds exactly on scripts.

Does not own: which of several faults the check tells.
-/

namespace LiveGrid.Script

/-! ## Expressions -/

theorem BinaryOperator.isAllowed_iff {operator : BinaryOperator} :
    operator.isAllowed = true ↔ operator ∈ arithmeticOperators := by
  cases operator <;> decide

theorem UnaryOperator.isAllowed_iff {operator : UnaryOperator} :
    operator.isAllowed = true ↔ operator ∈ signOperators := by
  cases operator <;> decide

theorem CompareOperator.isAllowed_iff {operator : CompareOperator} :
    operator.isAllowed = true ↔ operator ∈ orderOperators := by
  cases operator <;> decide

theorem allow_eq_ok_iff {isAllowed : Bool} {nodeName : String} :
    allow isAllowed nodeName = .ok () ↔ isAllowed = true := by
  cases isAllowed <;> simp [allow]

theorem checkNodes_eq_ok_iff {known : List String} {nodes : List Node} :
    checkNodes known nodes = .ok () ↔ ∀ node ∈ nodes, checkNode known node = .ok () := by
  induction nodes with
  | nil => simp [checkNodes]
  | cons first rest inductionHypothesis =>
      rw [List.forall_mem_cons, ← inductionHypothesis, checkNodes]
      cases checkNode known first <;> simp [bind, Except.bind]

theorem checkCall_eq_ok_iff {function : Expr} {keywordCount : Nat} :
    checkCall function keywordCount = .ok () ↔
      ∃ name, function = .name name ∧ IsFunction name ∧ keywordCount = 0 := by
  cases function with
  | name name =>
      by_cases isFunction : isFunctionName name = true
      · simp [checkCall, isFunction, isFunctionName_iff.1 isFunction]
      · have notFunction : ¬ IsFunction name := mt isFunctionName_iff.2 isFunction
        simp [checkCall, isFunction, notFunction]
  | _ => simp [checkCall]

section Nodes

variable {known : List String}

/-- Every node of an expression passes the check. -/
private def Passes (known : List String) (expression : Expr) : Prop :=
  ∀ node ∈ expression.nodes, checkNode known node = .ok ()

private theorem forall_inside_iff {Item : Type} {items : List Item} {inside : Item → List Node}
    {property : Node → Prop} :
    (∀ node, (∃ item ∈ items, node ∈ inside item) → property node) ↔
      ∀ item ∈ items, ∀ node ∈ inside item, property node := by
  constructor
  · exact fun each item member node isInside => each node ⟨item, member, isInside⟩
  · rintro each node ⟨item, member, isInside⟩
    exact each item member node isInside

private theorem passes_literal_iff {value : Literal} :
    Passes known (.literal value) ↔ value.isNumber = true := by
  simp [Passes, checkNode]

private theorem passes_name_iff {identifier : String} :
    Passes known (.name identifier) ↔ identifier ∈ known ∨ IsFunction identifier := by
  rw [← isFunctionName_iff]
  simp [Passes, checkNode, ← Classical.or_iff_not_imp_left]

private theorem passes_unary_iff {operator : UnaryOperator} {operand : Expr} :
    Passes known (.unary operator operand) ↔
      operator ∈ signOperators ∧ Passes known operand := by
  have own : checkNode known (.expr (.unary operator operand)) = .ok () := rfl
  have mark : checkNode known (.unary operator) = .ok () ↔ operator ∈ signOperators :=
    allow_eq_ok_iff.trans UnaryOperator.isAllowed_iff
  simp only [Passes, Expr.mem_nodes_unary, forall_eq_or_imp, own, mark, true_and]

private theorem passes_binary_iff {operator : BinaryOperator} {left right : Expr} :
    Passes known (.binary operator left right) ↔
      operator ∈ arithmeticOperators ∧ Passes known left ∧ Passes known right := by
  have own : checkNode known (.expr (.binary operator left right)) = .ok () := rfl
  have mark : checkNode known (.binary operator) = .ok () ↔ operator ∈ arithmeticOperators :=
    allow_eq_ok_iff.trans BinaryOperator.isAllowed_iff
  simp only [Passes, Expr.mem_nodes_binary, or_imp, forall_and, forall_eq, own, mark, true_and]
  exact and_left_comm

private theorem passes_bool_iff {operator : BoolOperator} {operands : List Expr} :
    Passes known (.bool operator operands) ↔ ∀ operand ∈ operands, Passes known operand := by
  have own : checkNode known (.expr (.bool operator operands)) = .ok () := rfl
  have mark : checkNode known (.bool operator) = .ok () := rfl
  simp only [Passes, Expr.mem_nodes_bool, forall_eq_or_imp, own, mark, true_and]
  exact forall_inside_iff

private theorem passes_compare_iff {first : Expr} {links : List (CompareOperator × Expr)} :
    Passes known (.compare first links) ↔
      Passes known first ∧ (∀ link ∈ links, link.1 ∈ orderOperators) ∧
        ∀ link ∈ links, Passes known link.2 := by
  have own : checkNode known (.expr (.compare first links)) = .ok () := rfl
  have mark : ∀ operator : CompareOperator,
      checkNode known (.compare operator) = .ok () ↔ operator ∈ orderOperators :=
    fun _ => allow_eq_ok_iff.trans CompareOperator.isAllowed_iff
  simp only [Passes, Expr.mem_nodes_compare, or_imp, forall_and, forall_eq, own, true_and]
  refine and_congr_right' (and_congr ⟨fun marks link member => ?_, ?_⟩ forall_inside_iff)
  · exact (mark link.1).1 (marks _ ⟨link, member, rfl⟩)
  · rintro allowed node ⟨link, member, rfl⟩
    exact (mark link.1).2 (allowed link member)

private theorem passes_conditional_iff {test body otherwise : Expr} :
    Passes known (.conditional test body otherwise) ↔
      Passes known test ∧ Passes known body ∧ Passes known otherwise := by
  have own : checkNode known (.expr (.conditional test body otherwise)) = .ok () := rfl
  simp only [Passes, Expr.mem_nodes_conditional, or_imp, forall_and, forall_eq, own, true_and]

private theorem passes_call_iff {function : Expr} {arguments : List Expr} {keywordCount : Nat} :
    Passes known (.call function arguments keywordCount) ↔
      (∃ name, function = .name name ∧ IsFunction name ∧ keywordCount = 0) ∧
        ∀ argument ∈ arguments, Passes known argument := by
  have own : checkNode known (.expr (.call function arguments keywordCount)) = .ok () ↔
      ∃ name, function = .name name ∧ IsFunction name ∧ keywordCount = 0 := checkCall_eq_ok_iff
  simp only [Passes, Expr.mem_nodes_call, or_imp, forall_and, forall_eq, own, forall_inside_iff]
  constructor
  · rintro ⟨direct, -, argumentsPass⟩
    exact ⟨direct, argumentsPass⟩
  · rintro ⟨⟨name, rfl, isFunction, rfl⟩, argumentsPass⟩
    have functionPasses : Passes known (.name name) := passes_name_iff.2 (.inr isFunction)
    exact ⟨⟨name, rfl, isFunction, rfl⟩, functionPasses, argumentsPass⟩

private theorem not_passes_foreign {kind : ForeignExpr} {parts : List Expr} :
    ¬ Passes known (.foreign kind parts) := by
  simp [Passes, checkNode]

/-- The nodes of an expression pass exactly if the expression is well-formed. The levels of a
tree hold the same nodes as its form, so the order of the walk does not matter. -/
private theorem passes_iff {expression : Expr} :
    Passes known expression ↔ WellFormed (· ∈ known) expression := by
  induction expression using Expr.structuralInduction with
  | literal value => rw [passes_literal_iff, WellFormed.literal_iff]
  | name identifier => rw [passes_name_iff, WellFormed.name_iff]
  | unary operator operand operandHypothesis =>
      rw [passes_unary_iff, WellFormed.unary_iff, operandHypothesis]
  | binary operator left right leftHypothesis rightHypothesis =>
      rw [passes_binary_iff, WellFormed.binary_iff, leftHypothesis, rightHypothesis]
  | bool operator operands operandsHypothesis =>
      rw [passes_bool_iff, WellFormed.bool_iff]
      exact forall₂_congr operandsHypothesis
  | compare first links firstHypothesis linksHypothesis =>
      rw [passes_compare_iff, WellFormed.compare_iff, firstHypothesis]
      exact and_congr_right' (and_congr_right' (forall₂_congr linksHypothesis))
  | conditional test body otherwise testHypothesis bodyHypothesis otherwiseHypothesis =>
      rw [passes_conditional_iff, WellFormed.conditional_iff, testHypothesis, bodyHypothesis,
        otherwiseHypothesis]
  | call function arguments keywordCount _ argumentsHypothesis =>
      rw [passes_call_iff, WellFormed.call_iff]
      exact and_congr_right' (forall₂_congr argumentsHypothesis)
  | foreign kind parts => exact iff_of_false not_passes_foreign WellFormed.not_foreign

end Nodes

/-- The check of an expression accepts the well-formed ones. -/
theorem checkExpr_eq_ok_iff {known : List String} {expression : Expr} :
    checkExpr known expression = .ok () ↔ WellFormed (· ∈ known) expression :=
  checkNodes_eq_ok_iff.trans passes_iff

/-! ## Statements -/

theorem checkTarget_eq_ok_iff {target : Expr} {name : String} :
    checkTarget target = .ok name ↔ target = .name name ∧ IsAssignable name := by
  rw [isAssignable_iff]
  cases target with
  | name own =>
      rw [checkTarget, Expr.name.injEq]
      grind
  | _ => simp [checkTarget]

theorem checkStatement_expression_eq_ok_iff {known after : List String} {value : Expr} :
    checkStatement known (.expression value) = .ok after ↔
      WellFormed (· ∈ known) value ∧ after = known := by
  rw [← checkExpr_eq_ok_iff, checkStatement, bind_eq_ok_iff]
  constructor
  · rintro ⟨_, valueChecks, ⟨rfl⟩⟩
    exact ⟨valueChecks, rfl⟩
  · rintro ⟨valueChecks, rfl⟩
    exact ⟨(), valueChecks, rfl⟩

theorem checkStatement_assign_eq_ok_iff {known after : List String} {target value : Expr} :
    checkStatement known (.assign [target] value) = .ok after ↔
      WellFormed (· ∈ known) value ∧
        ∃ name, target = .name name ∧ IsAssignable name ∧ after = name :: known := by
  rw [← checkExpr_eq_ok_iff, checkStatement, bind_eq_ok_iff]
  constructor
  · rintro ⟨_, valueChecks, afterValue⟩
    obtain ⟨name, targetChecks, ⟨rfl⟩⟩ := bind_eq_ok_iff.1 afterValue
    obtain ⟨rfl, assignable⟩ := checkTarget_eq_ok_iff.1 targetChecks
    exact ⟨valueChecks, name, rfl, assignable, rfl⟩
  · rintro ⟨valueChecks, name, rfl, assignable, rfl⟩
    refine ⟨(), valueChecks, ?_⟩
    rw [checkTarget_eq_ok_iff.2 ⟨rfl, assignable⟩]
    rfl

theorem checkStatement_augmentedAssign_eq_ok_iff {known after : List String}
    {target value : Expr} {operator : BinaryOperator} :
    checkStatement known (.augmentedAssign target operator value) = .ok after ↔
      ∃ name, target = .name name ∧ IsAssignable name ∧ name ∈ known ∧
        operator ∈ arithmeticOperators ∧ WellFormed (· ∈ known) value ∧ after = known := by
  rw [checkStatement, bind_eq_ok_iff]
  constructor
  · rintro ⟨name, targetChecks, afterTarget⟩
    obtain ⟨rfl, assignable⟩ := checkTarget_eq_ok_iff.1 targetChecks
    by_cases isKnown : known.contains name = true
    · simp only [isKnown, Bool.not_true, Bool.false_eq_true, ↓reduceIte] at afterTarget
      obtain ⟨_, operatorChecks, afterOperator⟩ := bind_eq_ok_iff.1 afterTarget
      obtain ⟨_, valueChecks, ⟨rfl⟩⟩ := bind_eq_ok_iff.1 afterOperator
      have allowed := BinaryOperator.isAllowed_iff.1 (allow_eq_ok_iff.1 operatorChecks)
      exact ⟨name, rfl, assignable, List.contains_iff_mem.1 isKnown, allowed,
        checkExpr_eq_ok_iff.1 valueChecks, rfl⟩
    · simp only [isKnown, Bool.not_false, ↓reduceIte] at afterTarget
      cases afterTarget
  · rintro ⟨name, rfl, assignable, isKnown, allowed, valueFormed, rfl⟩
    refine ⟨name, checkTarget_eq_ok_iff.2 ⟨rfl, assignable⟩, ?_⟩
    rw [allow_eq_ok_iff.2 (BinaryOperator.isAllowed_iff.2 allowed),
      checkExpr_eq_ok_iff.2 valueFormed, List.contains_iff_mem.2 isKnown]
    rfl

/-- A statement checks exactly if it is well-formed; then it makes known what it assigns to. -/
theorem checkStatement_eq_ok_iff {known after : List String} {statement : Statement} :
    checkStatement known statement = .ok after ↔
      WellFormedStatement (· ∈ known) statement ∧
        after = statement.assigned?.toList ++ known := by
  constructor
  · intro success
    unfold checkStatement at success
    split at success
    · obtain ⟨valueFormed, name, rfl, assignable, rfl⟩ :=
        checkStatement_assign_eq_ok_iff.1 success
      exact ⟨.assign assignable valueFormed, rfl⟩
    · cases success
    · obtain ⟨name, rfl, assignable, isKnown, allowed, valueFormed, rfl⟩ :=
        checkStatement_augmentedAssign_eq_ok_iff.1 success
      exact ⟨.augmentedAssign assignable isKnown allowed valueFormed, rfl⟩
    · obtain ⟨valueFormed, rfl⟩ := checkStatement_expression_eq_ok_iff.1 success
      exact ⟨.expression valueFormed, rfl⟩
    · cases success
  · rintro ⟨formed, rfl⟩
    cases formed with
    | expression valueFormed =>
        exact checkStatement_expression_eq_ok_iff.2 ⟨valueFormed, rfl⟩
    | assign assignable valueFormed =>
        exact checkStatement_assign_eq_ok_iff.2 ⟨valueFormed, _, rfl, assignable, rfl⟩
    | augmentedAssign assignable isKnown allowed valueFormed =>
        exact checkStatement_augmentedAssign_eq_ok_iff.2
          ⟨_, rfl, assignable, isKnown, allowed, valueFormed, rfl⟩

/-- Statements check exactly if they are well-formed from the names that are known on. -/
theorem checkStatements_eq_ok_iff {known : List String} {body : List Statement} :
    checkStatements known body = .ok () ↔ WellFormedProgram (· ∈ known) body := by
  induction body generalizing known with
  | nil => exact iff_of_false (by simp [checkStatements]) not_wellFormedProgram_nil
  | cons first rest inductionHypothesis =>
      cases rest with
      | nil =>
          rw [wellFormedProgram_singleton]
          cases first with
          | expression value => simp [checkStatements, checkExpr_eq_ok_iff]
          | _ => simp [checkStatements]
      | cons second others =>
          have unfolded : checkStatements known (first :: second :: others) =
              checkStatement known first >>= fun known =>
                checkStatements known (second :: others) := by
            cases first <;> rfl
          rw [unfolded, bind_eq_ok_iff, wellFormedProgram_cons_cons, knownAfter_mem,
            ← inductionHypothesis]
          simp only [checkStatement_eq_ok_iff, and_assoc, exists_and_left, exists_eq_left]

/-- The check accepts exactly the scripts. -/
theorem checkTree_eq_ok_iff_isScript (body : List Statement) :
    checkTree body = .ok () ↔ IsScript body := by
  rw [checkTree, checkStatements_eq_ok_iff, IsScript, isInitial_eq]

end LiveGrid.Script
