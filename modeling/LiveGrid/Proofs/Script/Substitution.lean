import LiveGrid.Proofs.Script.Literals
import LiveGrid.Proofs.Script.Simulation

/-!
Contract: putting expressions in the place of names.

Owns:
- the expression and the statement with an expression for every name that occurs in it;
- what is well-formed stays so, if what takes the place of its names is well-formed;
- an expression and the one with replacements have the same value, if every name has the value of
  its replacement.

Does not own: which expressions have the value of a name.
-/

namespace LiveGrid.Script

/-! ## Expressions and statements -/

namespace Expr

mutual

/-- The expression with a replacement for every name. -/
def substitute (replacement : String → Expr) : Expr → Expr
  | .literal value => .literal value
  | .name identifier => replacement identifier
  | .unary operator operand => .unary operator (substitute replacement operand)
  | .binary operator left right =>
      .binary operator (substitute replacement left) (substitute replacement right)
  | .bool operator operands => .bool operator (substituteAll replacement operands)
  | .compare first links =>
      .compare (substitute replacement first) (substituteLinks replacement links)
  | .conditional test body otherwise =>
      .conditional (substitute replacement test) (substitute replacement body)
        (substitute replacement otherwise)
  | .call function arguments keywordCount =>
      .call (substitute replacement function) (substituteAll replacement arguments) keywordCount
  | .foreign kind parts => .foreign kind parts

/-- Expressions with a replacement for every name. -/
def substituteAll (replacement : String → Expr) : List Expr → List Expr
  | [] => []
  | expression :: rest =>
      substitute replacement expression :: substituteAll replacement rest

/-- The links of a comparison with a replacement for every name. -/
def substituteLinks (replacement : String → Expr) :
    List (CompareOperator × Expr) → List (CompareOperator × Expr)
  | [] => []
  | (operator, expression) :: rest =>
      (operator, substitute replacement expression) :: substituteLinks replacement rest

end

/-- The replacement of a single name. -/
def instead (name : String) (replacement : Expr) (identifier : String) : Expr :=
  if identifier = name then replacement else .name identifier

variable {replacement : String → Expr}

theorem substituteAll_eq_map {expressions : List Expr} :
    substituteAll replacement expressions = expressions.map (substitute replacement) := by
  induction expressions with
  | nil => rw [substituteAll, List.map_nil]
  | cons first rest inductionHypothesis => rw [substituteAll, List.map_cons, inductionHypothesis]

theorem substituteLinks_eq_map {links : List (CompareOperator × Expr)} :
    substituteLinks replacement links =
      links.map fun link => (link.1, substitute replacement link.2) := by
  induction links with
  | nil => rw [substituteLinks, List.map_nil]
  | cons first rest inductionHypothesis => rw [substituteLinks, List.map_cons, inductionHypothesis]

theorem substitute_name {expression : Expr} : expression.substitute .name = expression := by
  induction expression using structuralInduction with
  | literal value => rw [substitute]
  | name identifier => rw [substitute]
  | unary operator operand operandSame => rw [substitute, operandSame]
  | binary operator left right leftSame rightSame => rw [substitute, leftSame, rightSame]
  | bool operator operands operandsSame =>
      rw [substitute, substituteAll_eq_map, List.map_congr_left operandsSame, List.map_id']
  | compare first links firstSame linksSame =>
      have linkSame : ∀ link ∈ links, (link.1, substitute .name link.2) = link :=
        fun link member => congrArg (link.1, ·) (linksSame link member)
      rw [substitute, substituteLinks_eq_map, firstSame, List.map_congr_left linkSame,
        List.map_id']
  | conditional test body otherwise testSame bodySame otherwiseSame =>
      rw [substitute, testSame, bodySame, otherwiseSame]
  | call function arguments keywordCount functionSame argumentsSame =>
      rw [substitute, substituteAll_eq_map, functionSame, List.map_congr_left argumentsSame,
        List.map_id']
  | foreign kind parts => rw [substitute]

end Expr

/-- The statement with a replacement for every name in its value. -/
def Statement.substitute (replacement : String → Expr) : Statement → Statement
  | .assign targets value => .assign targets (value.substitute replacement)
  | .augmentedAssign target operator value =>
      .augmentedAssign target operator (value.substitute replacement)
  | .expression value => .expression (value.substitute replacement)
  | .foreign kind => .foreign kind

theorem Statement.assigned?_substitute {replacement : String → Expr} {statement : Statement} :
    (statement.substitute replacement).assigned? = statement.assigned? := by
  ext name
  simp only [assigned?_eq_some_iff]
  cases statement <;> simp [substitute]

/-! ## The check -/

variable {known more : String → Prop}

/-- A replacement for the names that are known, which leaves the names of functions as they are. -/
structure Replaces (known more : String → Prop) (replacement : String → Expr) : Prop where
  formed : ∀ name, known name → WellFormed more (replacement name)
  keepsFunctions : ∀ name, IsFunction name → replacement name = .name name

theorem WellFormed.substitute {replacement : String → Expr}
    (replaces : Replaces known more replacement) {expression : Expr}
    (formed : WellFormed known expression) :
    WellFormed more (expression.substitute replacement) := by
  induction formed with
  | whole value =>
      rw [Expr.substitute]
      exact .whole value
  | real value =>
      rw [Expr.substitute]
      exact .real value
  | truth value =>
      rw [Expr.substitute]
      exact .truth value
  | name reachable =>
      rw [Expr.substitute]
      rcases reachable with isKnown | isFunction
      · exact replaces.formed _ isKnown
      · rw [replaces.keepsFunctions _ isFunction]
        exact .name (.inr isFunction)
  | unary allowed _ operandFormed =>
      rw [Expr.substitute]
      exact .unary allowed operandFormed
  | binary allowed _ _ leftFormed rightFormed =>
      rw [Expr.substitute]
      exact .binary allowed leftFormed rightFormed
  | bool _ operandsFormed =>
      rw [Expr.substitute, Expr.substituteAll_eq_map]
      exact .bool (List.forall_mem_map.2 operandsFormed)
  | compare allowed _ _ firstFormed linksFormed =>
      rw [Expr.substitute, Expr.substituteLinks_eq_map]
      exact .compare (List.forall_mem_map.2 allowed) firstFormed (List.forall_mem_map.2 linksFormed)
  | conditional _ _ _ testFormed bodyFormed otherwiseFormed =>
      rw [Expr.substitute]
      exact .conditional testFormed bodyFormed otherwiseFormed
  | call isFunction _ argumentsFormed =>
      rw [Expr.substitute, Expr.substitute, replaces.keepsFunctions _ isFunction,
        Expr.substituteAll_eq_map]
      exact .call isFunction (List.forall_mem_map.2 argumentsFormed)

theorem WellFormed.mono {expression : Expr} (implies : ∀ name, known name → more name)
    (formed : WellFormed known expression) : WellFormed more expression := by
  have replaces : Replaces known more .name :=
    ⟨fun name isKnown => .name (.inl (implies name isKnown)), fun _ _ => rfl⟩
  have substituted := formed.substitute replaces
  rw [Expr.substitute_name] at substituted
  exact substituted

/-! ## Evaluation -/

namespace Reading

variable {Action : Type → Type} [Monad Action] {reading : Reading Action} {scope other : Scope}
  {replacement : String → Expr}

theorem exprs_substitute {expressions : List Expr}
    (each : ∀ expression ∈ expressions,
      reading.expr other (expression.substitute replacement) = reading.expr scope expression) :
    reading.exprs other (Expr.substituteAll replacement expressions) =
      reading.exprs scope expressions := by
  rw [Expr.substituteAll_eq_map]
  exact simulates_eq.exprs (List.forall₂_map_left_iff.2 (List.forall₂_same.2 each))

theorem junction_substitute {operator : BoolOperator} {operands : List Expr}
    (each : ∀ operand ∈ operands,
      reading.expr other (operand.substitute replacement) = reading.expr scope operand) :
    reading.junction other operator (Expr.substituteAll replacement operands) =
      reading.junction scope operator operands := by
  rw [Expr.substituteAll_eq_map]
  exact simulates_eq.junction (List.forall₂_map_left_iff.2 (List.forall₂_same.2 each))

theorem chain_substitute {left : Value} {links : List (CompareOperator × Expr)}
    (each : ∀ link ∈ links,
      reading.expr other (link.2.substitute replacement) = reading.expr scope link.2) :
    reading.chain other left (Expr.substituteLinks replacement links) =
      reading.chain scope left links := by
  rw [Expr.substituteLinks_eq_map]
  refine simulates_eq.chain (List.forall₂_map_left_iff.2 (List.forall₂_same.2 ?_))
  exact fun link member => ⟨rfl, each link member⟩

/-- An expression has the value of the one with replacements, if each of its names has the value of
its replacement. -/
theorem expr_substitute {expression : Expr}
    (each : ∀ name, .expr (.name name) ∈ expression.nodes →
      reading.expr other (replacement name) = reading.expr scope (.name name)) :
    reading.expr other (expression.substitute replacement) = reading.expr scope expression := by
  induction expression using Expr.structuralInduction with
  | literal value => rw [Expr.substitute, expr, expr]
  | name identifier =>
      rw [Expr.substitute]
      exact each identifier (by simp)
  | unary operator operand operandSame =>
      rw [Expr.substitute, expr, expr, operandSame fun name inside => each name (by simp [inside])]
  | binary operator left right leftSame rightSame =>
      rw [Expr.substitute, expr, expr, leftSame fun name inside => each name (by simp [inside]),
        rightSame fun name inside => each name (by simp [inside])]
  | bool operator operands operandsSame =>
      rw [Expr.substitute, expr, expr]
      refine junction_substitute fun operand member => operandsSame operand member
        fun name inside => each name ?_
      exact Expr.mem_nodes_bool.2 (.inr (.inr ⟨operand, member, inside⟩))
  | compare first links firstSame linksSame =>
      rw [Expr.substitute, expr, expr, firstSame fun name inside => each name (by simp [inside])]
      refine bind_congr fun left => chain_substitute fun link member => linksSame link member
        fun name inside => each name ?_
      exact Expr.mem_nodes_compare.2 (.inr (.inr (.inr ⟨link, member, inside⟩)))
  | conditional test body otherwise testSame bodySame otherwiseSame =>
      rw [Expr.substitute, expr, expr, testSame fun name inside => each name (by simp [inside]),
        bodySame fun name inside => each name (by simp [inside]),
        otherwiseSame fun name inside => each name (by simp [inside])]
  | call function arguments keywordCount functionSame argumentsSame =>
      rw [Expr.substitute, expr, expr,
        functionSame fun name inside => each name (by simp [inside])]
      have argumentsOutcome : reading.exprs other (Expr.substituteAll replacement arguments) =
          reading.exprs scope arguments := by
        refine exprs_substitute fun argument member => argumentsSame argument member
          fun name inside => each name ?_
        exact Expr.mem_nodes_call.2 (.inr (.inr ⟨argument, member, inside⟩))
      rw [argumentsOutcome]
  | foreign kind parts => rw [Expr.substitute, expr, expr]

/-- An expression has the same value in scopes that agree on its names. -/
theorem expr_congr {expression : Expr}
    (agree : ∀ name, .expr (.name name) ∈ expression.nodes →
      other.lookup? name = scope.lookup? name) :
    reading.expr other expression = reading.expr scope expression := by
  have same : reading.expr other (expression.substitute .name) = reading.expr scope expression := by
    refine expr_substitute fun name inside => ?_
    rw [expr, expr, readName, readName, agree name inside]
  rw [Expr.substitute_name] at same
  exact same

end Reading

end LiveGrid.Script
