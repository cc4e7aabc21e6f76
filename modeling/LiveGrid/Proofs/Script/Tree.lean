import LiveGrid.Script.Syntax

/-!
Contract: induction over syntax trees, their equality, and the nodes of a tree.

Owns:
- an induction principle for expressions that reaches into lists of operands;
- a test for the equality of trees that can be computed;
- which nodes an expression has, and how many of them pass a test, as a recursion over its form, in
  any order.

Does not own: which trees are scripts.
-/

namespace LiveGrid.Script

namespace Expr

/-- Induction over expressions. What holds of every operand in a list may be used for the
expression that has the list. -/
@[elab_as_elim]
theorem structuralInduction {motive : Expr → Prop}
    (literal : ∀ value, motive (.literal value))
    (name : ∀ identifier, motive (.name identifier))
    (unary : ∀ operator operand, motive operand → motive (.unary operator operand))
    (binary : ∀ operator left right, motive left → motive right →
      motive (.binary operator left right))
    (bool : ∀ operator operands, (∀ operand ∈ operands, motive operand) →
      motive (.bool operator operands))
    (compare : ∀ first links, motive first →
      (∀ link ∈ links, motive (Prod.snd link)) → motive (.compare first links))
    (conditional : ∀ test body otherwise, motive test → motive body → motive otherwise →
      motive (.conditional test body otherwise))
    (call : ∀ function arguments keywordCount, motive function →
      (∀ argument ∈ arguments, motive argument) →
      motive (.call function arguments keywordCount))
    (foreign : ∀ kind parts, motive (.foreign kind parts))
    (expression : Expr) : motive expression :=
  @Expr.rec motive (fun operands => ∀ operand ∈ operands, motive operand)
    (fun links => ∀ link ∈ links, motive link.2) (fun link => motive link.2)
    literal name unary binary bool compare conditional call (fun kind parts _ => foreign kind parts)
    (by simp)
    (fun _ _ first rest => List.forall_mem_cons.2 ⟨first, rest⟩)
    (by simp)
    (fun _ _ first rest => List.forall_mem_cons.2 ⟨first, rest⟩)
    (fun _ _ operand => operand)
    expression

end Expr

/-! ## Equality -/

deriving instance DecidableEq for Literal

namespace Expr

mutual

/-- Whether two expressions are the same and have no node outside the language. -/
def same : Expr → Expr → Bool
  | .literal value, .literal other => value == other
  | .name identifier, .name other => identifier == other
  | .unary operator operand, .unary otherOperator other =>
      operator == otherOperator && same operand other
  | .binary operator left right, .binary otherOperator otherLeft otherRight =>
      operator == otherOperator && same left otherLeft && same right otherRight
  | .bool operator operands, .bool otherOperator others =>
      operator == otherOperator && allSame operands others
  | .compare first links, .compare otherFirst others =>
      same first otherFirst && linksSame links others
  | .conditional test body otherwise, .conditional otherTest otherBody otherOtherwise =>
      same test otherTest && same body otherBody && same otherwise otherOtherwise
  | .call function arguments keywordCount, .call otherFunction others otherCount =>
      same function otherFunction && allSame arguments others && keywordCount == otherCount
  | _, _ => false

/-- Whether expressions are the same, one by one. -/
def allSame : List Expr → List Expr → Bool
  | [], [] => true
  | first :: rest, other :: others => same first other && allSame rest others
  | _, _ => false

/-- Whether the links of two comparisons are the same, one by one. -/
def linksSame : List (CompareOperator × Expr) → List (CompareOperator × Expr) → Bool
  | [], [] => true
  | (operator, first) :: rest, (otherOperator, other) :: others =>
      operator == otherOperator && same first other && linksSame rest others
  | _, _ => false

end

theorem eq_of_allSame {items others : List Expr}
    (each : ∀ item ∈ items, ∀ other, same item other = true → item = other)
    (areSame : allSame items others = true) : items = others := by
  induction items generalizing others with
  | nil =>
      cases others with
      | nil => rfl
      | cons => cases areSame
  | cons first rest inductionHypothesis =>
      obtain ⟨firstEq, restEq⟩ := List.forall_mem_cons.1 each
      cases others with
      | nil => cases areSame
      | cons other others =>
          rw [allSame, Bool.and_eq_true] at areSame
          rw [firstEq other areSame.1, inductionHypothesis restEq areSame.2]

theorem eq_of_linksSame {links others : List (CompareOperator × Expr)}
    (each : ∀ link ∈ links, ∀ other, same link.2 other = true → link.2 = other)
    (areSame : linksSame links others = true) : links = others := by
  induction links generalizing others with
  | nil =>
      cases others with
      | nil => rfl
      | cons => cases areSame
  | cons first rest inductionHypothesis =>
      obtain ⟨firstEq, restEq⟩ := List.forall_mem_cons.1 each
      obtain ⟨operator, expression⟩ := first
      cases others with
      | nil => cases areSame
      | cons other others =>
          simp only [linksSame, Bool.and_eq_true, beq_iff_eq] at areSame
          obtain ⟨⟨sameOperator, isSame⟩, restSame⟩ := areSame
          have expressionEq : expression = other.2 := firstEq other.2 isSame
          rw [sameOperator, expressionEq, inductionHypothesis restEq restSame]

theorem eq_of_same {expression other : Expr} (isSame : same expression other = true) :
    expression = other := by
  induction expression using structuralInduction generalizing other with
  | literal value =>
      cases other with
      | literal otherValue =>
          rw [same, beq_iff_eq] at isSame
          rw [isSame]
      | _ => cases isSame
  | name identifier =>
      cases other with
      | name otherIdentifier =>
          rw [same, beq_iff_eq] at isSame
          rw [isSame]
      | _ => cases isSame
  | unary operator operand operandEq =>
      cases other with
      | unary otherOperator otherOperand =>
          simp only [same, Bool.and_eq_true, beq_iff_eq] at isSame
          rw [isSame.1, operandEq isSame.2]
      | _ => cases isSame
  | binary operator left right leftEq rightEq =>
      cases other with
      | binary otherOperator otherLeft otherRight =>
          simp only [same, Bool.and_eq_true, beq_iff_eq] at isSame
          rw [isSame.1.1, leftEq isSame.1.2, rightEq isSame.2]
      | _ => cases isSame
  | bool operator operands operandsEq =>
      cases other with
      | bool otherOperator others =>
          simp only [same, Bool.and_eq_true, beq_iff_eq] at isSame
          rw [isSame.1, eq_of_allSame (fun item member _ => operandsEq item member) isSame.2]
      | _ => cases isSame
  | compare first links firstEq linksEq =>
      cases other with
      | compare otherFirst others =>
          simp only [same, Bool.and_eq_true] at isSame
          rw [firstEq isSame.1, eq_of_linksSame (fun link member _ => linksEq link member) isSame.2]
      | _ => cases isSame
  | conditional test body otherwise testEq bodyEq otherwiseEq =>
      cases other with
      | conditional otherTest otherBody otherOtherwise =>
          simp only [same, Bool.and_eq_true] at isSame
          rw [testEq isSame.1.1, bodyEq isSame.1.2, otherwiseEq isSame.2]
      | _ => cases isSame
  | call function arguments keywordCount functionEq argumentsEq =>
      cases other with
      | call otherFunction others otherCount =>
          simp only [same, Bool.and_eq_true, beq_iff_eq] at isSame
          rw [functionEq isSame.1.1,
            eq_of_allSame (fun item member _ => argumentsEq item member) isSame.1.2, isSame.2]
      | _ => cases isSame
  | foreign kind parts => cases other <;> cases isSame

end Expr

/-- Whether two statements are the same and have no node outside the language. -/
def Statement.same : Statement → Statement → Bool
  | .assign targets value, .assign others other =>
      Expr.allSame targets others && Expr.same value other
  | .augmentedAssign target operator value, .augmentedAssign otherTarget otherOperator other =>
      Expr.same target otherTarget && operator == otherOperator && Expr.same value other
  | .expression value, .expression other => Expr.same value other
  | _, _ => false

theorem Statement.eq_of_same {statement other : Statement}
    (isSame : same statement other = true) : statement = other := by
  cases statement with
  | assign targets value =>
      cases other with
      | assign others otherValue =>
          rw [same, Bool.and_eq_true] at isSame
          rw [Expr.eq_of_allSame (fun _ _ _ => Expr.eq_of_same) isSame.1,
            Expr.eq_of_same isSame.2]
      | _ => cases isSame
  | augmentedAssign target operator value =>
      cases other with
      | augmentedAssign otherTarget otherOperator otherValue =>
          simp only [same, Bool.and_eq_true, beq_iff_eq] at isSame
          rw [Expr.eq_of_same isSame.1.1, isSame.1.2, Expr.eq_of_same isSame.2]
      | _ => cases isSame
  | expression value =>
      cases other with
      | expression otherValue => rw [Expr.eq_of_same isSame]
      | _ => cases isSame
  | foreign kind => cases other <;> cases isSame

/-- Whether two trees are the same and have no node outside the language. -/
def sameTree : List Statement → List Statement → Bool
  | [], [] => true
  | first :: rest, other :: others => first.same other && sameTree rest others
  | _, _ => false

theorem eq_of_sameTree {tree other : List Statement} (isSame : sameTree tree other = true) :
    tree = other := by
  induction tree generalizing other with
  | nil =>
      cases other with
      | nil => rfl
      | cons => cases isSame
  | cons first rest inductionHypothesis =>
      cases other with
      | nil => cases isSame
      | cons otherFirst others =>
          rw [sameTree, Bool.and_eq_true] at isSame
          rw [Statement.eq_of_same isSame.1, inductionHypothesis isSame.2]

/-! ## Nodes

The levels of a tree mix the nodes of trees that stand side by side. Up to their order they are the
nodes of one tree after those of the other.
-/

theorem perm_flatten_besides {left right : List (List Node)} :
    (besides left right).flatten.Perm (left.flatten ++ right.flatten) := by
  induction left generalizing right with
  | nil => exact .refl _
  | cons first rest inductionHypothesis =>
      cases right with
      | nil =>
          rw [List.flatten_nil, List.append_nil]
          exact .refl _
      | cons second others =>
          have swapped : (second ++ (rest.flatten ++ others.flatten)).Perm
              (rest.flatten ++ (second ++ others.flatten)) := by
            rw [← List.append_assoc, ← List.append_assoc]
            exact List.perm_append_comm.append_right _
          show ((first ++ second) ++ (besides rest others).flatten).Perm
            ((first ++ rest.flatten) ++ (second ++ others.flatten))
          rw [List.append_assoc, List.append_assoc]
          exact ((inductionHypothesis.append_left second).trans swapped).append_left first

theorem perm_flatten_levelsOfAll {expressions : List Expr} :
    (levelsOfAll expressions).flatten.Perm (expressions.flatMap Expr.nodes) := by
  induction expressions with
  | nil => exact .refl _
  | cons first rest inductionHypothesis =>
      show (besides first.levels (levelsOfAll rest)).flatten.Perm
        (first.nodes ++ rest.flatMap Expr.nodes)
      exact perm_flatten_besides.trans (inductionHypothesis.append_left _)

theorem perm_flatten_levelsOfLinks {links : List (CompareOperator × Expr)} :
    (levelsOfLinks links).flatten.Perm ((links.map Prod.snd).flatMap Expr.nodes) := by
  induction links with
  | nil => exact .refl _
  | cons first rest inductionHypothesis =>
      show (besides first.2.levels (levelsOfLinks rest)).flatten.Perm
        (first.2.nodes ++ (rest.map Prod.snd).flatMap Expr.nodes)
      exact perm_flatten_besides.trans (inductionHypothesis.append_left _)

namespace Expr

theorem nodes_literal {value : Literal} : (literal value).nodes = [.expr (literal value)] := rfl

theorem nodes_name {identifier : String} : (name identifier).nodes = [.expr (name identifier)] := rfl

theorem nodes_foreign {kind : ForeignExpr} {parts : List Expr} :
    (foreign kind parts).nodes = [.expr (foreign kind parts)] := rfl

theorem perm_nodes_unary {operator : UnaryOperator} {operand : Expr} :
    (unary operator operand).nodes.Perm
      (.expr (unary operator operand) :: .unary operator :: operand.nodes) := by
  show (Node.expr _ :: (besides [[.unary operator]] operand.levels).flatten).Perm _
  exact perm_flatten_besides.cons _

theorem perm_nodes_binary {operator : BinaryOperator} {left right : Expr} :
    (binary operator left right).nodes.Perm
      (.expr (binary operator left right) :: (left.nodes ++ .binary operator :: right.nodes)) := by
  show (Node.expr _ ::
    (besides left.levels (besides [[.binary operator]] right.levels)).flatten).Perm _
  exact (perm_flatten_besides.trans (perm_flatten_besides.append_left _)).cons _

theorem perm_nodes_bool {operator : BoolOperator} {operands : List Expr} :
    (bool operator operands).nodes.Perm
      (.expr (bool operator operands) :: .bool operator :: operands.flatMap nodes) := by
  show (Node.expr _ :: (besides [[.bool operator]] (levelsOfAll operands)).flatten).Perm _
  exact (perm_flatten_besides.trans (perm_flatten_levelsOfAll.append_left _)).cons _

theorem perm_nodes_compare {first : Expr} {links : List (CompareOperator × Expr)} :
    (compare first links).nodes.Perm
      (.expr (compare first links) :: (first.nodes ++
        ((links.map fun link => .compare link.1) ++ (links.map Prod.snd).flatMap nodes))) := by
  let marks := links.map fun link => Node.compare link.1
  have linkNodes : (besides [marks] (levelsOfLinks links)).flatten.Perm
      (marks ++ (links.map Prod.snd).flatMap nodes) := by
    have apart : (besides [marks] (levelsOfLinks links)).flatten.Perm
      ([marks].flatten ++ (levelsOfLinks links).flatten) := perm_flatten_besides
    rw [List.flatten_singleton] at apart
    exact apart.trans (perm_flatten_levelsOfLinks.append_left _)
  show (Node.expr _ ::
    (besides first.levels (besides [marks] (levelsOfLinks links))).flatten).Perm _
  exact (perm_flatten_besides.trans (linkNodes.append_left _)).cons _

theorem perm_nodes_conditional {test body otherwise : Expr} :
    (conditional test body otherwise).nodes.Perm
      (.expr (conditional test body otherwise) ::
        (test.nodes ++ (body.nodes ++ otherwise.nodes))) := by
  show (Node.expr _ ::
    (besides test.levels (besides body.levels otherwise.levels)).flatten).Perm _
  exact (perm_flatten_besides.trans (perm_flatten_besides.append_left _)).cons _

theorem perm_nodes_call {function : Expr} {arguments : List Expr} {keywordCount : Nat} :
    (call function arguments keywordCount).nodes.Perm
      (.expr (call function arguments keywordCount) ::
        (function.nodes ++ arguments.flatMap nodes)) := by
  show (Node.expr _ :: (besides function.levels (levelsOfAll arguments)).flatten).Perm _
  exact (perm_flatten_besides.trans (perm_flatten_levelsOfAll.append_left _)).cons _

/-! ### Counts

How many nodes pass a test that no operator passes: those of the parts, and maybe the node itself.
-/

section Counts

variable {counts : Node → Bool}

theorem countP_nodes_unary {operator : UnaryOperator} {operand : Expr}
    (noMark : counts (.unary operator) = false) :
    (unary operator operand).nodes.countP counts =
      operand.nodes.countP counts + if counts (.expr (unary operator operand)) then 1 else 0 := by
  rw [perm_nodes_unary.countP_eq, List.countP_cons, List.countP_cons, noMark]
  rfl

theorem countP_nodes_binary {operator : BinaryOperator} {left right : Expr}
    (noMark : counts (.binary operator) = false) :
    (binary operator left right).nodes.countP counts =
      left.nodes.countP counts + right.nodes.countP counts +
        if counts (.expr (binary operator left right)) then 1 else 0 := by
  rw [perm_nodes_binary.countP_eq, List.countP_cons, List.countP_append, List.countP_cons, noMark]
  rfl

theorem countP_nodes_bool {operator : BoolOperator} {operands : List Expr}
    (noMark : counts (.bool operator) = false) :
    (bool operator operands).nodes.countP counts =
      (operands.flatMap nodes).countP counts +
        if counts (.expr (bool operator operands)) then 1 else 0 := by
  rw [perm_nodes_bool.countP_eq, List.countP_cons, List.countP_cons, noMark]
  rfl

theorem countP_nodes_compare {first : Expr} {links : List (CompareOperator × Expr)}
    (noMark : ∀ operator, counts (.compare operator) = false) :
    (compare first links).nodes.countP counts =
      first.nodes.countP counts + ((links.map Prod.snd).flatMap nodes).countP counts +
        if counts (.expr (compare first links)) then 1 else 0 := by
  have noMarks : (links.map fun link => Node.compare link.1).countP counts = 0 := by
    simp [List.countP_eq_zero, noMark]
  rw [perm_nodes_compare.countP_eq, List.countP_cons, List.countP_append, List.countP_append,
    noMarks, Nat.zero_add]

theorem countP_nodes_conditional {test body otherwise : Expr} :
    (conditional test body otherwise).nodes.countP counts =
      test.nodes.countP counts + (body.nodes.countP counts + otherwise.nodes.countP counts) +
        if counts (.expr (conditional test body otherwise)) then 1 else 0 := by
  rw [perm_nodes_conditional.countP_eq, List.countP_cons, List.countP_append, List.countP_append]

theorem countP_nodes_call {function : Expr} {arguments : List Expr} {keywordCount : Nat} :
    (call function arguments keywordCount).nodes.countP counts =
      function.nodes.countP counts + (arguments.flatMap nodes).countP counts +
        if counts (.expr (call function arguments keywordCount)) then 1 else 0 := by
  rw [perm_nodes_call.countP_eq, List.countP_cons, List.countP_append]

end Counts

/-! ### Members -/

variable {node : Node}

@[simp] theorem mem_nodes_literal {value : Literal} :
    node ∈ (literal value).nodes ↔ node = .expr (literal value) := by
  simp [nodes_literal]

@[simp] theorem mem_nodes_name {identifier : String} :
    node ∈ (name identifier).nodes ↔ node = .expr (name identifier) := by
  simp [nodes_name]

@[simp] theorem mem_nodes_unary {operator : UnaryOperator} {operand : Expr} :
    node ∈ (unary operator operand).nodes ↔
      node = .expr (unary operator operand) ∨ node = .unary operator ∨ node ∈ operand.nodes := by
  rw [perm_nodes_unary.mem_iff, List.mem_cons, List.mem_cons]

@[simp] theorem mem_nodes_binary {operator : BinaryOperator} {left right : Expr} :
    node ∈ (binary operator left right).nodes ↔
      node = .expr (binary operator left right) ∨ node ∈ left.nodes ∨
        node = .binary operator ∨ node ∈ right.nodes := by
  rw [perm_nodes_binary.mem_iff, List.mem_cons, List.mem_append, List.mem_cons]

@[simp] theorem mem_nodes_bool {operator : BoolOperator} {operands : List Expr} :
    node ∈ (bool operator operands).nodes ↔
      node = .expr (bool operator operands) ∨ node = .bool operator ∨
        ∃ operand ∈ operands, node ∈ operand.nodes := by
  rw [perm_nodes_bool.mem_iff, List.mem_cons, List.mem_cons, List.mem_flatMap]

@[simp] theorem mem_nodes_compare {first : Expr} {links : List (CompareOperator × Expr)} :
    node ∈ (compare first links).nodes ↔
      node = .expr (compare first links) ∨ node ∈ first.nodes ∨
        (∃ link ∈ links, node = .compare link.1) ∨ ∃ link ∈ links, node ∈ link.2.nodes := by
  rw [perm_nodes_compare.mem_iff, List.mem_cons, List.mem_append, List.mem_append, List.mem_map,
    List.flatMap_map, List.mem_flatMap]
  simp only [eq_comm]

@[simp] theorem mem_nodes_conditional {test body otherwise : Expr} :
    node ∈ (conditional test body otherwise).nodes ↔
      node = .expr (conditional test body otherwise) ∨ node ∈ test.nodes ∨
        node ∈ body.nodes ∨ node ∈ otherwise.nodes := by
  rw [perm_nodes_conditional.mem_iff, List.mem_cons, List.mem_append, List.mem_append]

@[simp] theorem mem_nodes_call {function : Expr} {arguments : List Expr} {keywordCount : Nat} :
    node ∈ (call function arguments keywordCount).nodes ↔
      node = .expr (call function arguments keywordCount) ∨ node ∈ function.nodes ∨
        ∃ argument ∈ arguments, node ∈ argument.nodes := by
  rw [perm_nodes_call.mem_iff, List.mem_cons, List.mem_append, List.mem_flatMap]

@[simp] theorem mem_nodes_foreign {kind : ForeignExpr} {parts : List Expr} :
    node ∈ (foreign kind parts).nodes ↔ node = .expr (foreign kind parts) := by
  simp [nodes_foreign]

end Expr

end LiveGrid.Script
