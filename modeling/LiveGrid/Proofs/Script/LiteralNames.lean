import LiveGrid.Proofs.Script.Substitution
import Mathlib.Data.List.Nodup

/-!
Contract: compiling gives each real literal of a tree a name of its own, and changes nothing else.

Owns:
- a compiled script beside its tree: the names that stand for literals, and the result;
- with the literals in the place of their names, hoisted statements are the written ones;
- hoisting leaves no real literal, and puts each name that it binds in one place.

Names are counted by an equation that holds of every step: the occurrences of a name that a step
adds to an expression are the entries that it adds to the table.

Does not own: what the statements of a tree mean.
-/

namespace LiveGrid.Script

/-! ## Trees and their scripts -/

/-- What stands in a tree for a name of its script: the literal that the name is bound to, or else
the name. -/
def writtenFor (literals : List (String × Float)) (name : String) : Expr :=
  match literals.lookup name with
  | some value => .literal (.real value)
  | none => .name name

/-- Whether a node is a given name. -/
def Node.isName (name : String) : Node → Bool
  | .expr (.name identifier) => identifier == name
  | _ => false

/-- How often a name stands in an expression. -/
def Expr.occurrences (name : String) (expression : Expr) : Nat :=
  expression.nodes.countP (Node.isName name)

/-- How often a name stands in expressions. -/
def occurrencesOf (name : String) (expressions : List Expr) : Nat :=
  (expressions.flatMap Expr.nodes).countP (Node.isName name)

/-- How often a name stands in the value of a statement. -/
def Statement.occurrences (name : String) (statement : Statement) : Nat :=
  statement.nodes.countP (Node.isName name)

/-- How often a name stands in the values of statements. -/
def occurrences (name : String) (statements : List Statement) : Nat :=
  (statements.flatMap Statement.nodes).countP (Node.isName name)

/-- A script computes what a tree says, with names of their own for the real literals. -/
structure NamesLiterals (tree : List Statement) (script : Script)
    (literals : List (String × Float)) : Prop where
  /-- All cells share the constants, the functions, and the doubles of the literals. -/
  shared : script.shared =
    standardNames ++ literals.map fun (name, value) => (name, .machine (.double value))
  /-- With the literals in the place of their names, the statements are those of the tree, but that
  the last expression is assigned to the name of the result. -/
  restored : ∃ earlier value, tree = earlier ++ [.expression value] ∧
    script.statements.map (Statement.substitute (writtenFor literals)) =
      earlier ++ [.assign [.name resultName] value]
  /-- No real literal is left in the statements. -/
  noneLeft : ∀ statement ∈ script.statements, ∀ value,
    .expr (.literal (.real value)) ∉ statement.nodes
  /-- No two literals have the same name. -/
  distinct : (literals.map Prod.fst).Nodup
  /-- The name of a literal stands in one place. -/
  own : ∀ name ∈ literals.map Prod.fst, occurrences name script.statements = 1
  /-- The name of a literal is no input, constant, function or result, and the text neither reads
  nor assigns it. -/
  fresh : ∀ name ∈ literals.map Prod.fst,
    ¬ IsInitial name ∧ ¬ IsFunction name ∧ name ≠ resultName ∧
      ∀ statement ∈ tree, ¬ statement.Reads name ∧ ¬ statement.Writes name
  /-- Every cell computes the value of the tree or fails like it, and draws the same random
  numbers. -/
  sameValue : ∀ inputs, script.lastValue inputs = Reading.plain.tree inputs tree
  /-- Every cell gives the double that the tree means, or the same fault. -/
  sameDouble : script.evaluate = meaning tree

/-! ## Literals in the place of their names -/

/-- Whether a hoisted expression becomes the written one again when the literals of a table stand in
the place of their names. -/
def Restores (expression : Expr) (table : List (String × Float)) (hoisted : Expr) : Prop :=
  IsNumbered table → hoisted.substitute (writtenFor table.reverse) = expression

theorem hoists_restores_all {expressions : List Expr}
    (each : ∀ expression ∈ expressions, Hoists (Restores expression) (hoistExpr expression)) :
    Hoists (fun table hoisted => IsNumbered table →
      Expr.substituteAll (writtenFor table.reverse) hoisted = expressions)
      (hoistAll expressions) := by
  induction expressions with
  | nil =>
      apply Hoists.pure
      intro table _
      rw [Expr.substituteAll]
  | cons first rest inductionHypothesis =>
      obtain ⟨firstHoists, restHoist⟩ := List.forall_mem_cons.1 each
      rw [hoistAll]
      refine firstHoists.bind fun first' => (inductionHypothesis restHoist).bind fun rest' => ?_
      apply Hoists.pure
      intro table restRestored firstRestored numbered
      rw [Expr.substituteAll, firstRestored numbered, restRestored numbered]

theorem hoists_restores_links {links : List (CompareOperator × Expr)}
    (each : ∀ link ∈ links, Hoists (Restores link.2) (hoistExpr link.2)) :
    Hoists (fun table hoisted => IsNumbered table →
      Expr.substituteLinks (writtenFor table.reverse) hoisted = links) (hoistLinks links) := by
  induction links with
  | nil =>
      apply Hoists.pure
      intro table _
      rw [Expr.substituteLinks]
  | cons first rest inductionHypothesis =>
      obtain ⟨firstHoists, restHoist⟩ := List.forall_mem_cons.1 each
      rw [hoistLinks]
      refine firstHoists.bind fun first' => (inductionHypothesis restHoist).bind fun rest' => ?_
      apply Hoists.pure
      intro table restRestored firstRestored numbered
      rw [Expr.substituteLinks, firstRestored numbered, restRestored numbered]

/-- An expression without the name of a literal is found again in the hoisted one. -/
theorem hoists_restores {expression : Expr}
    (spares : ∀ index, .expr (.name (literalName index)) ∉ expression.nodes) :
    Hoists (Restores expression) (hoistExpr expression) := by
  induction expression using Expr.structuralInduction with
  | literal value =>
      cases value with
      | real value =>
          intro bound
          refine ⟨List.suffix_cons _ _, fun table ends numbered => ?_⟩
          show (Expr.name (literalName bound.length)).substitute _ = _
          rw [Expr.substitute, writtenFor, numbered.lookup_reverse_literalName ends]
      | _ =>
          apply Hoists.pure
          intro table _
          rw [Expr.substitute]
  | name identifier =>
      apply Hoists.pure
      intro table numbered
      have other : ∀ index, identifier ≠ literalName index := by
        rintro index rfl
        exact spares index (Expr.mem_nodes_name.2 rfl)
      rw [Expr.substitute, writtenFor, numbered.lookup_reverse_eq_none other]
  | unary operator operand operandRestored =>
      rw [hoistExpr]
      refine (operandRestored fun index inside => spares index (by simp [inside])).bind
        fun operand' => ?_
      apply Hoists.pure
      intro table operandRestored numbered
      rw [Expr.substitute, operandRestored numbered]
  | binary operator left right leftRestored rightRestored =>
      rw [hoistExpr]
      refine (leftRestored fun index inside => spares index (by simp [inside])).bind fun left' =>
        (rightRestored fun index inside => spares index (by simp [inside])).bind fun right' => ?_
      apply Hoists.pure
      intro table rightRestored leftRestored numbered
      rw [Expr.substitute, leftRestored numbered, rightRestored numbered]
  | bool operator operands operandsRestored =>
      have each : ∀ operand ∈ operands, Hoists (Restores operand) (hoistExpr operand) := by
        intro operand member
        apply operandsRestored operand member
        intro index inside
        exact spares index (Expr.mem_nodes_bool.2 (.inr (.inr ⟨operand, member, inside⟩)))
      rw [hoistExpr]
      refine (hoists_restores_all each).bind fun operands' => ?_
      apply Hoists.pure
      intro table operandsRestored numbered
      rw [Expr.substitute, operandsRestored numbered]
  | compare first links firstRestored linksRestored =>
      have each : ∀ link ∈ links, Hoists (Restores link.2) (hoistExpr link.2) := by
        intro link member
        apply linksRestored link member
        intro index inside
        exact spares index (Expr.mem_nodes_compare.2 (.inr (.inr (.inr ⟨link, member, inside⟩))))
      rw [hoistExpr]
      refine (firstRestored fun index inside => spares index (by simp [inside])).bind fun first' =>
        (hoists_restores_links each).bind fun links' => ?_
      apply Hoists.pure
      intro table linksRestored firstRestored numbered
      rw [Expr.substitute, firstRestored numbered, linksRestored numbered]
  | conditional test body otherwise testRestored bodyRestored otherwiseRestored =>
      rw [hoistExpr]
      refine (testRestored fun index inside => spares index (by simp [inside])).bind fun test' =>
        (bodyRestored fun index inside => spares index (by simp [inside])).bind fun body' =>
          (otherwiseRestored fun index inside => spares index (by simp [inside])).bind
            fun otherwise' => ?_
      apply Hoists.pure
      intro table otherwiseRestored bodyRestored testRestored numbered
      rw [Expr.substitute, testRestored numbered, bodyRestored numbered,
        otherwiseRestored numbered]
  | call function arguments keywordCount functionRestored argumentsRestored =>
      have each : ∀ argument ∈ arguments, Hoists (Restores argument) (hoistExpr argument) := by
        intro argument member
        apply argumentsRestored argument member
        intro index inside
        exact spares index (Expr.mem_nodes_call.2 (.inr (.inr ⟨argument, member, inside⟩)))
      rw [hoistExpr]
      refine (functionRestored fun index inside => spares index (by simp [inside])).bind
        fun function' => (hoists_restores_all each).bind fun arguments' => ?_
      apply Hoists.pure
      intro table argumentsRestored functionRestored numbered
      rw [Expr.substitute, functionRestored numbered, argumentsRestored numbered]
  | foreign kind parts =>
      apply Hoists.pure
      intro table _
      rw [Expr.substitute]

theorem hoists_restores_statement {statement : Statement}
    (spares : ∀ index, .expr (.name (literalName index)) ∉ statement.nodes) :
    Hoists (fun table hoisted => IsNumbered table →
      hoisted.substitute (writtenFor table.reverse) = statement) (hoistStatement statement) := by
  cases statement with
  | foreign kind =>
      apply Hoists.pure
      intro table _
      rw [Statement.substitute]
  | _ =>
      rw [hoistStatement]
      refine (hoists_restores spares).bind fun value' => ?_
      apply Hoists.pure
      intro table valueRestored numbered
      rw [Statement.substitute, valueRestored numbered]

theorem hoists_restores_statements {statements : List Statement}
    (spare : ∀ statement ∈ statements, ∀ index,
      .expr (.name (literalName index)) ∉ statement.nodes) :
    Hoists (fun table hoisted => IsNumbered table →
      hoisted.map (Statement.substitute (writtenFor table.reverse)) = statements)
      (hoistStatements statements) := by
  induction statements with
  | nil =>
      apply Hoists.pure
      intro table _
      rw [List.map_nil]
  | cons first rest inductionHypothesis =>
      obtain ⟨firstSpares, restSpare⟩ := List.forall_mem_cons.1 spare
      rw [hoistStatements]
      refine (hoists_restores_statement firstSpares).bind fun first' =>
        (inductionHypothesis restSpare).bind fun rest' => ?_
      apply Hoists.pure
      intro table restRestored firstRestored numbered
      rw [List.map_cons, firstRestored numbered, restRestored numbered]

/-! ## Literals that are left -/

/-- A hoisted expression has no real literal. -/
theorem hoists_noReal {expression : Expr} :
    Hoists (fun _ hoisted => ∀ value, .expr (.literal (.real value)) ∉ hoisted.nodes)
      (hoistExpr expression) := by
  induction expression using Expr.structuralInduction with
  | literal value =>
      cases value with
      | real value =>
          intro bound
          refine ⟨List.suffix_cons _ _, fun table ends other inside => ?_⟩
          cases Expr.mem_nodes_name.1 inside
      | _ => exact Hoists.pure (by simp)
  | name identifier => exact Hoists.pure (by simp)
  | unary operator operand operandHoists =>
      rw [hoistExpr]
      refine operandHoists.bind fun operand' => ?_
      apply Hoists.pure
      intro table operandNone
      simpa using operandNone
  | binary operator left right leftHoists rightHoists =>
      rw [hoistExpr]
      refine leftHoists.bind fun left' => rightHoists.bind fun right' => ?_
      apply Hoists.pure
      intro table rightNone leftNone value
      simp [leftNone value, rightNone value]
  | bool operator operands operandsHoist =>
      rw [hoistExpr]
      refine (hoists_hoistAll operandsHoist).bind fun operands' => ?_
      apply Hoists.pure
      intro table operandsNone value
      simpa using fun operand member => operandsNone operand member value
  | compare first links firstHoists linksHoist =>
      rw [hoistExpr]
      refine firstHoists.bind fun first' => (hoists_hoistLinks linksHoist).bind fun links' => ?_
      apply Hoists.pure
      intro table linksHoisted firstNone value inside
      rcases Expr.mem_nodes_compare.1 inside with own | inFirst | ⟨_, _, mark⟩ |
        ⟨link, member, inLink⟩
      · cases own
      · exact firstNone value inFirst
      · cases mark
      · exact linksHoisted.2 link member value inLink
  | conditional test body otherwise testHoists bodyHoists otherwiseHoists =>
      rw [hoistExpr]
      refine testHoists.bind fun test' => bodyHoists.bind fun body' =>
        otherwiseHoists.bind fun otherwise' => ?_
      apply Hoists.pure
      intro table otherwiseNone bodyNone testNone value
      simp [testNone value, bodyNone value, otherwiseNone value]
  | call function arguments keywordCount functionHoists argumentsHoist =>
      rw [hoistExpr]
      refine functionHoists.bind fun function' =>
        (hoists_hoistAll argumentsHoist).bind fun arguments' => ?_
      apply Hoists.pure
      intro table argumentsNone functionNone value inside
      rcases Expr.mem_nodes_call.1 inside with own | inFunction | ⟨argument, member, inArgument⟩
      · cases own
      · exact functionNone value inFunction
      · exact argumentsNone argument member value inArgument
  | foreign kind parts => exact Hoists.pure (by simp)

theorem hoists_noReal_statements {statements : List Statement} :
    Hoists (fun _ hoisted => ∀ statement ∈ hoisted, ∀ value,
      .expr (.literal (.real value)) ∉ statement.nodes) (hoistStatements statements) := by
  induction statements with
  | nil => exact Hoists.pure (by simp)
  | cons first rest inductionHypothesis =>
      have firstHoists : Hoists (fun _ hoisted => ∀ value,
          .expr (.literal (.real value)) ∉ hoisted.nodes) (hoistStatement first) := by
        cases first with
        | foreign kind => exact Hoists.pure (by simp [Statement.nodes])
        | _ => exact hoists_noReal.bind fun value' => Hoists.pure fun table none => none
      rw [hoistStatements]
      refine firstHoists.bind fun first' => inductionHypothesis.bind fun rest' => ?_
      apply Hoists.pure
      intro table restNone firstNone
      exact List.forall_mem_cons.2 ⟨firstNone, restNone⟩

/-! ## Occurrences of names -/

theorem Node.isName_iff {name : String} {node : Node} :
    node.isName name = true ↔ node = .expr (.name name) := by
  unfold Node.isName
  split
  · rw [beq_iff_eq, Node.expr.injEq, Expr.name.injEq]
  · rename_i different
    refine iff_of_false Bool.false_ne_true fun same => ?_
    exact different name same

namespace Expr

variable {name : String}

theorem occurrences_name {identifier : String} :
    (Expr.name identifier).occurrences name = if identifier == name then 1 else 0 := by
  rw [occurrences, nodes_name, List.countP_singleton]
  rfl

theorem occurrences_unary {operator : UnaryOperator} {operand : Expr} :
    (unary operator operand).occurrences name = operand.occurrences name := by
  rw [occurrences, countP_nodes_unary rfl]
  rfl

theorem occurrences_binary {operator : BinaryOperator} {left right : Expr} :
    (binary operator left right).occurrences name =
      left.occurrences name + right.occurrences name := by
  rw [occurrences, countP_nodes_binary rfl]
  rfl

theorem occurrences_bool {operator : BoolOperator} {operands : List Expr} :
    (bool operator operands).occurrences name = occurrencesOf name operands := by
  rw [occurrences, countP_nodes_bool rfl]
  rfl

theorem occurrences_compare {first : Expr} {links : List (CompareOperator × Expr)} :
    (compare first links).occurrences name =
      first.occurrences name + occurrencesOf name (links.map Prod.snd) := by
  rw [occurrences, countP_nodes_compare fun _ => rfl]
  rfl

theorem occurrences_conditional {test body otherwise : Expr} :
    (conditional test body otherwise).occurrences name =
      test.occurrences name + (body.occurrences name + otherwise.occurrences name) := by
  rw [occurrences, countP_nodes_conditional]
  rfl

theorem occurrences_call {function : Expr} {arguments : List Expr} {keywordCount : Nat} :
    (call function arguments keywordCount).occurrences name =
      function.occurrences name + occurrencesOf name arguments := by
  rw [occurrences, countP_nodes_call]
  rfl

end Expr

section Counts

variable {name : String}

theorem occurrencesOf_cons {first : Expr} {rest : List Expr} :
    occurrencesOf name (first :: rest) = first.occurrences name + occurrencesOf name rest := by
  rw [occurrencesOf, List.flatMap_cons, List.countP_append]
  rfl

theorem occurrences_cons {first : Statement} {rest : List Statement} :
    occurrences name (first :: rest) = first.occurrences name + occurrences name rest := by
  rw [occurrences, List.flatMap_cons, List.countP_append]
  rfl

end Counts

/-- How often a table binds a name. -/
def bindings (name : String) (table : List (String × Float)) : Nat :=
  (table.map Prod.fst).count name

/-- A step adds as many occurrences of a name to those before it as entries that bind the name. -/
def AddsBound {Result : Type} (name : String) (before : Nat) (after : Result → Nat)
    (action : Hoisting Result) : Prop :=
  ∀ bound, after (action.run bound).1 + bindings name bound =
    before + bindings name (action.run bound).2

namespace AddsBound

variable {First Second : Type} {name : String} {before more : Nat} {onFirst : First → Nat}
  {onSecond : Second → Nat}

protected theorem pure {value : First} (same : onFirst value = before) :
    AddsBound name before onFirst (pure value) := by
  intro bound
  show onFirst value + bindings name bound = before + bindings name bound
  rw [same]

/-- What the first step leaves to the second one is what it has itself and what is still to come. -/
protected theorem bind {action : Hoisting First} {next : First → Hoisting Second}
    (first : AddsBound name before onFirst action)
    (second : ∀ value, AddsBound name (onFirst value + more) onSecond (next value)) :
    AddsBound name (before + more) onSecond (action >>= next) := by
  intro bound
  let middle := action.run bound
  have firstCount : onFirst middle.1 + bindings name bound = before + bindings name middle.2 :=
    first bound
  have secondCount := second middle.1 middle.2
  show onSecond ((next middle.1).run middle.2).1 + bindings name bound =
    before + more + bindings name ((next middle.1).run middle.2).2
  omega

theorem add {action : Hoisting First} (adds : AddsBound name before onFirst action) (more : Nat) :
    AddsBound name (more + before) (fun result => more + onFirst result) action := by
  intro bound
  have count := adds bound
  dsimp only
  omega

theorem map {action : Hoisting First} {next : First → Second}
    (adds : AddsBound name before onFirst action)
    (same : ∀ result, onSecond (next result) = onFirst result) :
    AddsBound name before onSecond (action >>= fun result => pure (next result)) := by
  intro bound
  show onSecond (next (action.run bound).1) + bindings name bound =
    before + bindings name (action.run bound).2
  rw [same]
  exact adds bound

end AddsBound

variable {name : String}

theorem addsBound_hoistReal {value : Float} :
    AddsBound name 0 (Expr.occurrences name) (hoistReal value) := by
  intro bound
  show (Expr.name (literalName bound.length)).occurrences name + bindings name bound =
    0 + ((literalName bound.length) :: bound.map Prod.fst).count name
  rw [Expr.occurrences_name, List.count_cons, bindings]
  omega

theorem addsBound_hoistAll {expressions : List Expr}
    (each : ∀ expression ∈ expressions,
      AddsBound name (expression.occurrences name) (Expr.occurrences name)
        (hoistExpr expression)) :
    AddsBound name (occurrencesOf name expressions) (occurrencesOf name) (hoistAll expressions) := by
  induction expressions with
  | nil => exact AddsBound.pure rfl
  | cons first rest inductionHypothesis =>
      obtain ⟨firstAdds, restAdd⟩ := List.forall_mem_cons.1 each
      rw [hoistAll, occurrencesOf_cons]
      apply firstAdds.bind
      intro first'
      exact ((inductionHypothesis restAdd).add _).map fun _ => occurrencesOf_cons

theorem addsBound_hoistLinks {links : List (CompareOperator × Expr)}
    (each : ∀ link ∈ links,
      AddsBound name (link.2.occurrences name) (Expr.occurrences name) (hoistExpr link.2)) :
    AddsBound name (occurrencesOf name (links.map Prod.snd))
      (fun hoisted => occurrencesOf name (hoisted.map Prod.snd)) (hoistLinks links) := by
  induction links with
  | nil => exact AddsBound.pure rfl
  | cons first rest inductionHypothesis =>
      obtain ⟨firstAdds, restAdd⟩ := List.forall_mem_cons.1 each
      rw [hoistLinks, List.map_cons, occurrencesOf_cons]
      apply firstAdds.bind
      intro first'
      apply ((inductionHypothesis restAdd).add _).map
      intro rest'
      rw [List.map_cons, occurrencesOf_cons]

/-- A name stands in a hoisted expression where it was written, and for each literal that is bound
to it. -/
theorem addsBound_hoistExpr {expression : Expr} :
    AddsBound name (expression.occurrences name) (Expr.occurrences name) (hoistExpr expression) := by
  induction expression using Expr.structuralInduction with
  | literal value =>
      cases value with
      | real value => exact addsBound_hoistReal
      | _ => exact AddsBound.pure rfl
  | name identifier => exact AddsBound.pure rfl
  | unary operator operand operandAdds =>
      rw [hoistExpr, Expr.occurrences_unary]
      exact operandAdds.map fun _ => Expr.occurrences_unary
  | binary operator left right leftAdds rightAdds =>
      rw [hoistExpr, Expr.occurrences_binary]
      apply leftAdds.bind
      intro left'
      exact (rightAdds.add _).map fun _ => Expr.occurrences_binary
  | bool operator operands operandsAdd =>
      rw [hoistExpr, Expr.occurrences_bool]
      exact (addsBound_hoistAll operandsAdd).map fun _ => Expr.occurrences_bool
  | compare first links firstAdds linksAdd =>
      rw [hoistExpr, Expr.occurrences_compare]
      apply firstAdds.bind
      intro first'
      exact ((addsBound_hoistLinks linksAdd).add _).map fun _ => Expr.occurrences_compare
  | conditional test body otherwise testAdds bodyAdds otherwiseAdds =>
      rw [hoistExpr, Expr.occurrences_conditional]
      apply testAdds.bind
      intro test'
      rw [← Nat.add_assoc]
      apply (bodyAdds.add _).bind
      intro body'
      apply (otherwiseAdds.add _).map
      intro otherwise'
      rw [Expr.occurrences_conditional, Nat.add_assoc]
  | call function arguments keywordCount functionAdds argumentsAdd =>
      rw [hoistExpr, Expr.occurrences_call]
      apply functionAdds.bind
      intro function'
      exact ((addsBound_hoistAll argumentsAdd).add _).map fun _ => Expr.occurrences_call
  | foreign kind parts => exact AddsBound.pure rfl

theorem addsBound_hoistStatement {statement : Statement} :
    AddsBound name (statement.occurrences name) (Statement.occurrences name)
      (hoistStatement statement) := by
  cases statement with
  | foreign kind => exact AddsBound.pure rfl
  | _ =>
      rw [hoistStatement]
      exact addsBound_hoistExpr.map fun _ => rfl

theorem addsBound_hoistStatements {statements : List Statement} :
    AddsBound name (occurrences name statements) (occurrences name)
      (hoistStatements statements) := by
  induction statements with
  | nil => exact AddsBound.pure rfl
  | cons first rest inductionHypothesis =>
      rw [hoistStatements, occurrences_cons]
      apply addsBound_hoistStatement.bind
      intro first'
      exact (inductionHypothesis.add _).map fun _ => occurrences_cons

/-! ## Names of literals -/

theorem literalName_ne_resultName {index : Nat} : literalName index ≠ resultName := by
  intro same
  have sameText : ("_k" ++ Number.Decimal.numeral index).toList = resultName.toList :=
    congrArg String.toList same
  rw [String.toList_append] at sameText
  cases (List.cons.inj (List.cons.inj sameText).2).1

variable {tree : List Statement}

/-- The name of a literal is none that a script may spell, and not the one of the result. -/
theorem fresh_literalName (isScript : IsScript tree) {index : Nat} :
    ¬ IsInitial (literalName index) ∧ ¬ IsFunction (literalName index) ∧
      literalName index ≠ resultName ∧
        ∀ statement ∈ tree,
          ¬ statement.Reads (literalName index) ∧ ¬ statement.Writes (literalName index) := by
  refine ⟨?_, ?_, literalName_ne_resultName, ?_⟩
  · intro initial
    exact initial.visible literalName_startsWith
  · exact not_isFunction_literalName
  · intro statement member
    exact hidesGenerated_of_wellFormedProgram isScript member (.inr ⟨index, rfl⟩)

theorem nodes_keepResult :
    (keepResult tree).flatMap Statement.nodes = tree.flatMap Statement.nodes := by
  fun_induction keepResult tree with
  | case1 => rfl
  | case2 value => rfl
  | case3 statement rest _ inductionHypothesis =>
      rw [List.flatMap_cons, List.flatMap_cons, inductionHypothesis]

theorem exists_keepResult_eq (isScript : IsScript tree) :
    ∃ earlier value, tree = earlier ++ [.expression value] ∧
      keepResult tree = earlier ++ [.assign [.name resultName] value] := by
  obtain ⟨earlier, value, rfl, -, -⟩ := isScript
  exact ⟨earlier, value, rfl, keepResult_append⟩

/-- The statements whose literals are hoisted do not spell the name of a literal. -/
theorem spares_keepResult (isScript : IsScript tree) {index : Nat} :
    .expr (.name (literalName index)) ∉ (keepResult tree).flatMap Statement.nodes := by
  rw [nodes_keepResult, List.mem_flatMap]
  rintro ⟨statement, member, inside⟩
  obtain ⟨-, -, -, hides⟩ := fresh_literalName isScript
  exact (hides statement member).1 (.inl inside)

/-- The name of a hoisted literal stands in one place. -/
theorem occurrences_hoisted (isScript : IsScript tree) {index : Nat}
    (hoisted : literalName index ∈
      ((hoistStatements (keepResult tree)).run []).2.map Prod.fst) :
    occurrences (literalName index) ((hoistStatements (keepResult tree)).run []).1 = 1 := by
  have numbered : IsNumbered ((hoistStatements (keepResult tree)).run []).2 :=
    KeepsNumbered.hoistStatements [] IsNumbered.nil
  have boundOnce : bindings (literalName index) ((hoistStatements (keepResult tree)).run []).2 = 1 :=
    List.count_eq_one_of_mem numbered.nodup hoisted
  have notWritten : occurrences (literalName index) (keepResult tree) = 0 := by
    rw [occurrences, List.countP_eq_zero]
    intro node inside isName
    rw [Node.isName_iff] at isName
    rw [isName] at inside
    exact spares_keepResult isScript inside
  have count : occurrences (literalName index) ((hoistStatements (keepResult tree)).run []).1 + 0 =
      occurrences (literalName index) (keepResult tree) +
        bindings (literalName index) ((hoistStatements (keepResult tree)).run []).2 :=
    addsBound_hoistStatements []
  rw [boundOnce, notWritten] at count
  exact count

/-! ## Compiled scripts -/

/-- Compiling a tree that is a script moves its real literals to the names that all cells share. Each
of them gets a name of its own, which the text does not use, and every cell computes what the tree
says with the literals in their places. -/
theorem namesLiterals_of_checkTree (accepted : checkTree tree = .ok ()) (source : String) :
    ∃ literals, NamesLiterals tree (ofTree source tree) literals := by
  rw [checkTree, checkStatements_eq_ok_iff, ← isInitial_eq] at accepted
  have isScript : IsScript tree := accepted
  let table := ((hoistStatements (keepResult tree)).run []).2
  have ends : table <:+ table := List.suffix_refl table
  have numbered : IsNumbered table := KeepsNumbered.hoistStatements [] IsNumbered.nil
  have indexOf {name : String} (member : name ∈ table.reverse.map Prod.fst) :
      name ∈ table.map Prod.fst ∧ ∃ index, name = literalName index := by
    rw [List.map_reverse, List.mem_reverse] at member
    obtain ⟨index, -, same⟩ := numbered.exists_index member
    exact ⟨member, index, same⟩
  refine ⟨table.reverse, rfl, ?_, ?_, ?_, ?_, ?_, ?_, ?_⟩
  · obtain ⟨earlier, value, same, kept⟩ := exists_keepResult_eq isScript
    have spare : ∀ statement ∈ keepResult tree, ∀ index,
        .expr (.name (literalName index)) ∉ statement.nodes := by
      intro statement member index inside
      exact spares_keepResult isScript (List.mem_flatMap.2 ⟨statement, member, inside⟩)
    have restored := (hoists_restores_statements spare []).2 table ends numbered
    exact ⟨earlier, value, same, restored.trans kept⟩
  · exact (hoists_noReal_statements []).2 table ends
  · rw [List.map_reverse, List.nodup_reverse]
    exact numbered.nodup
  · intro name member
    obtain ⟨hoisted, index, rfl⟩ := indexOf member
    exact occurrences_hoisted isScript hoisted
  · intro name member
    obtain ⟨-, index, rfl⟩ := indexOf member
    exact fresh_literalName isScript
  · exact lastValue_ofTree source isScript
  · exact evaluate_ofTree source isScript

/-- A literal that is written twice gets two names, next to a whole number and a truth value. -/
theorem namesLiterals_written_twice :
    ∃ tree, Grammar.parse? "n=0.5;n*=2;n+0.5+True" = some tree ∧ checkTree tree = .ok () ∧
      ∃ literals, NamesLiterals tree (ofTree "n=0.5;n*=2;n+0.5+True" tree) literals := by
  have parsed : Grammar.parse? "n=0.5;n*=2;n+0.5+True" =
      some [.assign [.name "n"] (.literal (.real 0.5)),
        .augmentedAssign (.name "n") .multiply (.literal (.whole 2)),
        .expression (.binary .add (.binary .add (.name "n") (.literal (.real 0.5)))
          (.literal (.truth true)))] :=
    parse?_eq_some_of_sameTree (by decide +kernel)
  refine ⟨_, parsed, checkTree_eq_ok_of_isOk (by decide +kernel), ?_⟩
  exact namesLiterals_of_checkTree (checkTree_eq_ok_of_isOk (by decide +kernel)) _

/-- Two literals of the same value have two names. -/
example :
    (ofTree "0.5+0.5"
      [.expression (.binary .add (.literal (.real 0.5)) (.literal (.real 0.5)))]).statements =
      [.assign [.name "_result"] (.binary .add (.name "_k0") (.name "_k1"))] := by
  rfl

end LiveGrid.Script
