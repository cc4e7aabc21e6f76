import LiveGrid.Proofs.Script.Tree
import LiveGrid.Script.Check
import Mathlib.Data.List.Forall2

/-!
Contract: the language of scripts as a grammar.

Owns:
- well-formed expressions over a set of known names;
- the names that are known after some statements, and well-formed statements;
- scripts: statements that are well-formed where they stand, the last one an expression;
- the forms of well-formed expressions, and scripts from their first statement on;
- scripts next to statements that are well-formed in the same places.

The grammar is a recursion over the form of a tree and says nothing about levels or
the order in which nodes are looked at.

Does not own: how a tree is checked.
-/

namespace LiveGrid.Script

/-- Whether a name is the name of a function. -/
def IsFunction (name : String) : Prop := name ∈ functionTable.map Prod.fst

/-- The operators between two operands that a script may use. -/
def arithmeticOperators : List BinaryOperator :=
  [.add, .subtract, .multiply, .divide, .floorDivide, .modulo, .power]

/-- The operators before an operand that a script may use. -/
def signOperators : List UnaryOperator := [.plus, .minus, .not]

/-- The comparisons that a script may use. -/
def orderOperators : List CompareOperator :=
  [.equal, .notEqual, .less, .lessEqual, .greater, .greaterEqual]

/-- Expressions of scripts over the names that are known. -/
inductive WellFormed (known : String → Prop) : Expr → Prop where
  | whole (value : Nat) : WellFormed known (.literal (.whole value))
  | real (value : Float) : WellFormed known (.literal (.real value))
  | truth (value : Bool) : WellFormed known (.literal (.truth value))
  | name {identifier : String} (reachable : known identifier ∨ IsFunction identifier) :
      WellFormed known (.name identifier)
  | unary {operator : UnaryOperator} {operand : Expr} (allowed : operator ∈ signOperators)
      (operandFormed : WellFormed known operand) : WellFormed known (.unary operator operand)
  | binary {operator : BinaryOperator} {left right : Expr}
      (allowed : operator ∈ arithmeticOperators) (leftFormed : WellFormed known left)
      (rightFormed : WellFormed known right) : WellFormed known (.binary operator left right)
  | bool {operator : BoolOperator} {operands : List Expr}
      (operandsFormed : ∀ operand ∈ operands, WellFormed known operand) :
      WellFormed known (.bool operator operands)
  | compare {first : Expr} {links : List (CompareOperator × Expr)}
      (allowed : ∀ link ∈ links, link.1 ∈ orderOperators)
      (firstFormed : WellFormed known first)
      (linksFormed : ∀ link ∈ links, WellFormed known link.2) :
      WellFormed known (.compare first links)
  | conditional {test body otherwise : Expr} (testFormed : WellFormed known test)
      (bodyFormed : WellFormed known body) (otherwiseFormed : WellFormed known otherwise) :
      WellFormed known (.conditional test body otherwise)
  | call {function : String} {arguments : List Expr} (isFunction : IsFunction function)
      (argumentsFormed : ∀ argument ∈ arguments, WellFormed known argument) :
      WellFormed known (.call (.name function) arguments 0)

/-- Whether a script may assign to a name. -/
structure IsAssignable (name : String) : Prop where
  visible : ¬ name.startsWith "_"
  notFunction : ¬ IsFunction name

/-- Statements before the last one, over the names that are known. -/
inductive WellFormedStatement (known : String → Prop) : Statement → Prop where
  | expression {value : Expr} (valueFormed : WellFormed known value) :
      WellFormedStatement known (.expression value)
  | assign {name : String} {value : Expr} (assignable : IsAssignable name)
      (valueFormed : WellFormed known value) :
      WellFormedStatement known (.assign [.name name] value)
  | augmentedAssign {name : String} {operator : BinaryOperator} {value : Expr}
      (assignable : IsAssignable name) (isKnown : known name)
      (allowed : operator ∈ arithmeticOperators) (valueFormed : WellFormed known value) :
      WellFormedStatement known (.augmentedAssign (.name name) operator value)

/-- The names that are known after statements: those known before, and those that are
assigned to. -/
def KnownAfter (known : String → Prop) (earlier : List Statement) (name : String) : Prop :=
  known name ∨ ∃ value, .assign [.name name] value ∈ earlier

/-- The names that are known before the first statement: inputs and constants. -/
def IsInitial (name : String) : Prop :=
  name ∈ inputNames ∨ name ∈ constantTable.map Prod.fst

/-- Statements before the last one, each well-formed where it stands. -/
def WellFormedStatements (known : String → Prop) (statements : List Statement) : Prop :=
  ∀ before statement after, statements = before ++ statement :: after →
    WellFormedStatement (KnownAfter known before) statement

/-- Statements that are well-formed where they stand, the last one an expression. -/
def WellFormedProgram (known : String → Prop) (body : List Statement) : Prop :=
  ∃ earlier value, body = earlier ++ [.expression value] ∧
    WellFormedStatements known earlier ∧ WellFormed (KnownAfter known earlier) value

/-- Scripts. -/
def IsScript (body : List Statement) : Prop := WellFormedProgram IsInitial body

/-! ## The forms of well-formed expressions -/

namespace WellFormed

variable {known : String → Prop}

theorem literal_iff {value : Literal} :
    WellFormed known (.literal value) ↔ value.isNumber = true := by
  constructor
  · intro formed
    cases formed <;> rfl
  · intro isNumber
    cases value with
    | whole value => exact .whole value
    | real value => exact .real value
    | truth value => exact .truth value
    | _ => simp [Literal.isNumber] at isNumber

theorem name_iff {identifier : String} :
    WellFormed known (.name identifier) ↔ known identifier ∨ IsFunction identifier := by
  constructor
  · intro formed
    cases formed with
    | name reachable => exact reachable
  · exact .name

theorem unary_iff {operator : UnaryOperator} {operand : Expr} :
    WellFormed known (.unary operator operand) ↔
      operator ∈ signOperators ∧ WellFormed known operand := by
  constructor
  · intro formed
    cases formed with
    | unary allowed operandFormed => exact ⟨allowed, operandFormed⟩
  · rintro ⟨allowed, operandFormed⟩
    exact .unary allowed operandFormed

theorem binary_iff {operator : BinaryOperator} {left right : Expr} :
    WellFormed known (.binary operator left right) ↔
      operator ∈ arithmeticOperators ∧ WellFormed known left ∧ WellFormed known right := by
  constructor
  · intro formed
    cases formed with
    | binary allowed leftFormed rightFormed => exact ⟨allowed, leftFormed, rightFormed⟩
  · rintro ⟨allowed, leftFormed, rightFormed⟩
    exact .binary allowed leftFormed rightFormed

theorem bool_iff {operator : BoolOperator} {operands : List Expr} :
    WellFormed known (.bool operator operands) ↔
      ∀ operand ∈ operands, WellFormed known operand := by
  constructor
  · intro formed
    cases formed with
    | bool operandsFormed => exact operandsFormed
  · exact .bool

theorem compare_iff {first : Expr} {links : List (CompareOperator × Expr)} :
    WellFormed known (.compare first links) ↔
      WellFormed known first ∧ (∀ link ∈ links, link.1 ∈ orderOperators) ∧
        ∀ link ∈ links, WellFormed known link.2 := by
  constructor
  · intro formed
    cases formed with
    | compare allowed firstFormed linksFormed => exact ⟨firstFormed, allowed, linksFormed⟩
  · rintro ⟨firstFormed, allowed, linksFormed⟩
    exact .compare allowed firstFormed linksFormed

theorem conditional_iff {test body otherwise : Expr} :
    WellFormed known (.conditional test body otherwise) ↔
      WellFormed known test ∧ WellFormed known body ∧ WellFormed known otherwise := by
  constructor
  · intro formed
    cases formed with
    | conditional testFormed bodyFormed otherwiseFormed =>
        exact ⟨testFormed, bodyFormed, otherwiseFormed⟩
  · rintro ⟨testFormed, bodyFormed, otherwiseFormed⟩
    exact .conditional testFormed bodyFormed otherwiseFormed

theorem call_iff {function : Expr} {arguments : List Expr} {keywordCount : Nat} :
    WellFormed known (.call function arguments keywordCount) ↔
      (∃ name, function = .name name ∧ IsFunction name ∧ keywordCount = 0) ∧
        ∀ argument ∈ arguments, WellFormed known argument := by
  constructor
  · intro formed
    cases formed with
    | call isFunction argumentsFormed => exact ⟨⟨_, rfl, isFunction, rfl⟩, argumentsFormed⟩
  · rintro ⟨⟨name, rfl, isFunction, rfl⟩, argumentsFormed⟩
    exact .call isFunction argumentsFormed

theorem not_foreign {kind : ForeignExpr} {parts : List Expr} :
    ¬ WellFormed known (.foreign kind parts) := by
  intro formed
  cases formed

/-- Whatever stands inside a well-formed expression is well-formed. -/
theorem of_mem_nodes {expression inner : Expr} (formed : WellFormed known expression)
    (inside : .expr inner ∈ expression.nodes) : WellFormed known inner := by
  induction formed with
  | whole value =>
      rw [Expr.mem_nodes_literal] at inside
      cases inside
      exact .whole value
  | real value =>
      rw [Expr.mem_nodes_literal] at inside
      cases inside
      exact .real value
  | truth value =>
      rw [Expr.mem_nodes_literal] at inside
      cases inside
      exact .truth value
  | name reachable =>
      rw [Expr.mem_nodes_name] at inside
      cases inside
      exact .name reachable
  | unary allowed operandFormed operandHypothesis =>
      rcases Expr.mem_nodes_unary.1 inside with own | mark | inOperand
      · cases own
        exact .unary allowed operandFormed
      · cases mark
      · exact operandHypothesis inOperand
  | binary allowed leftFormed rightFormed leftHypothesis rightHypothesis =>
      rcases Expr.mem_nodes_binary.1 inside with own | inLeft | mark | inRight
      · cases own
        exact .binary allowed leftFormed rightFormed
      · exact leftHypothesis inLeft
      · cases mark
      · exact rightHypothesis inRight
  | bool operandsFormed operandsHypothesis =>
      rcases Expr.mem_nodes_bool.1 inside with own | mark | ⟨operand, member, inOperand⟩
      · cases own
        exact .bool operandsFormed
      · cases mark
      · exact operandsHypothesis operand member inOperand
  | compare allowed firstFormed linksFormed firstHypothesis linksHypothesis =>
      rcases Expr.mem_nodes_compare.1 inside with own | inFirst | ⟨_, _, mark⟩ |
        ⟨link, member, inLink⟩
      · cases own
        exact .compare allowed firstFormed linksFormed
      · exact firstHypothesis inFirst
      · cases mark
      · exact linksHypothesis link member inLink
  | conditional testFormed bodyFormed otherwiseFormed testHypothesis bodyHypothesis
      otherwiseHypothesis =>
      rcases Expr.mem_nodes_conditional.1 inside with own | inTest | inBody | inOtherwise
      · cases own
        exact .conditional testFormed bodyFormed otherwiseFormed
      · exact testHypothesis inTest
      · exact bodyHypothesis inBody
      · exact otherwiseHypothesis inOtherwise
  | call isFunction argumentsFormed argumentsHypothesis =>
      rcases Expr.mem_nodes_call.1 inside with own | inFunction | ⟨argument, member, inArgument⟩
      · cases own
        exact .call isFunction argumentsFormed
      · rw [Expr.mem_nodes_name] at inFunction
        cases inFunction
        exact .name (.inr isFunction)
      · exact argumentsHypothesis argument member inArgument

end WellFormed

/-! ## Names -/

theorem isSome_lookup_iff {Item : Type} {entries : List (String × Item)} {name : String} :
    (entries.lookup name).isSome = true ↔ name ∈ entries.map Prod.fst := by
  rw [List.lookup_isSome_iff, List.mem_map]
  constructor
  · rintro ⟨entry, member, same⟩
    exact ⟨entry, member, (beq_iff_eq.1 same).symm⟩
  · rintro ⟨entry, member, same⟩
    exact ⟨entry, member, beq_iff_eq.2 same.symm⟩

theorem isFunctionName_iff {name : String} : isFunctionName name = true ↔ IsFunction name :=
  isSome_lookup_iff

theorem isAssignable_iff {name : String} :
    IsAssignable name ↔ name.startsWith "_" = false ∧ isFunctionName name = false := by
  rw [← Bool.not_eq_true, ← Bool.not_eq_true, isFunctionName_iff]
  exact ⟨fun assignable => ⟨assignable.visible, assignable.notFunction⟩,
    fun both => ⟨both.1, both.2⟩⟩

theorem isInitial_eq : IsInitial = (· ∈ initialNames) := by
  funext name
  simp only [IsInitial, initialNames, List.mem_append]

/-! ## Scripts from their first statement on -/

/-- The name that a statement makes known. -/
def Statement.assigned? : Statement → Option String
  | .assign [.name name] _ => some name
  | _ => none

@[simp] theorem Statement.assigned?_eq_some_iff {statement : Statement} {name : String} :
    statement.assigned? = some name ↔ ∃ value, statement = .assign [.name name] value := by
  constructor
  · intro assigned
    unfold Statement.assigned? at assigned
    split at assigned
    · cases assigned
      exact ⟨_, rfl⟩
    · cases assigned
  · rintro ⟨value, rfl⟩
    rfl

theorem knownAfter_nil {known : String → Prop} : KnownAfter known [] = known := by
  funext name
  simp [KnownAfter]

theorem knownAfter_cons {known : String → Prop} {statement : Statement}
    {rest : List Statement} :
    KnownAfter known (statement :: rest) = KnownAfter (KnownAfter known [statement]) rest := by
  funext name
  simp only [KnownAfter, List.mem_cons, List.not_mem_nil, or_false, exists_or, or_assoc]

theorem knownAfter_singleton {known : String → Prop} {statement : Statement} {name : String} :
    KnownAfter known [statement] name ↔ known name ∨ statement.assigned? = some name := by
  simp only [KnownAfter, List.mem_singleton, Statement.assigned?_eq_some_iff,
    eq_comm (b := statement)]

theorem knownAfter_mem {known : List String} {statement : Statement} :
    KnownAfter (· ∈ known) [statement] = (· ∈ statement.assigned?.toList ++ known) := by
  funext name
  refine propext ?_
  rw [knownAfter_singleton, List.mem_append, Option.mem_toList]
  exact or_comm

theorem wellFormedStatements_nil {known : String → Prop} : WellFormedStatements known [] := by
  intro before statement after split
  simp at split

theorem wellFormedStatements_cons {known : String → Prop} {first : Statement}
    {rest : List Statement} :
    WellFormedStatements known (first :: rest) ↔
      WellFormedStatement known first ∧ WellFormedStatements (KnownAfter known [first]) rest := by
  constructor
  · intro each
    constructor
    · have firstFormed := each [] first rest rfl
      rw [knownAfter_nil] at firstFormed
      exact firstFormed
    · intro before statement after split
      rw [← knownAfter_cons]
      exact each (first :: before) statement after (by rw [split, List.cons_append])
  · rintro ⟨firstFormed, restFormed⟩ before statement after split
    cases before with
    | nil =>
        cases split
        rw [knownAfter_nil]
        exact firstFormed
    | cons head before =>
        obtain ⟨rfl, splitRest⟩ := List.cons.inj split
        rw [knownAfter_cons]
        exact restFormed before statement after splitRest

theorem WellFormedStatements.of_append {known : String → Prop} {before after : List Statement}
    (formed : WellFormedStatements known (before ++ after)) : WellFormedStatements known before := by
  intro first statement rest split
  refine formed first statement (rest ++ after) ?_
  rw [split, List.append_assoc, List.cons_append]

theorem not_wellFormedProgram_nil {known : String → Prop} : ¬ WellFormedProgram known [] := by
  rintro ⟨earlier, value, body, -⟩
  simp at body

theorem wellFormedProgram_singleton {known : String → Prop} {statement : Statement} :
    WellFormedProgram known [statement] ↔
      ∃ value, statement = .expression value ∧ WellFormed known value := by
  constructor
  · rintro ⟨earlier, value, body, -, formed⟩
    obtain ⟨rfl, same⟩ := List.append_eq_singleton_iff.1 body.symm |>.resolve_right (by simp)
    cases same
    rw [knownAfter_nil] at formed
    exact ⟨value, rfl, formed⟩
  · rintro ⟨value, rfl, formed⟩
    refine ⟨[], value, rfl, wellFormedStatements_nil, ?_⟩
    rw [knownAfter_nil]
    exact formed

theorem wellFormedProgram_singleton_iff {known : String → Prop} {statement : Statement} :
    WellFormedProgram known [statement] ↔
      (∃ value, statement = .expression value) ∧ WellFormedStatement known statement := by
  rw [wellFormedProgram_singleton]
  constructor
  · rintro ⟨value, rfl, formed⟩
    exact ⟨⟨value, rfl⟩, .expression formed⟩
  · rintro ⟨⟨value, rfl⟩, formed⟩
    cases formed with
    | expression valueFormed => exact ⟨value, rfl, valueFormed⟩

theorem wellFormedProgram_cons_cons {known : String → Prop} {first second : Statement}
    {rest : List Statement} :
    WellFormedProgram known (first :: second :: rest) ↔
      WellFormedStatement known first ∧
        WellFormedProgram (KnownAfter known [first]) (second :: rest) := by
  constructor
  · rintro ⟨earlier, value, body, earlierFormed, formed⟩
    cases earlier with
    | nil => simp at body
    | cons head tail =>
        obtain ⟨rfl, bodyRest⟩ := List.cons.inj body
        obtain ⟨firstFormed, tailFormed⟩ := wellFormedStatements_cons.1 earlierFormed
        rw [knownAfter_cons] at formed
        exact ⟨firstFormed, tail, value, bodyRest, tailFormed, formed⟩
  · rintro ⟨firstFormed, earlier, value, body, earlierFormed, formed⟩
    rw [← knownAfter_cons] at formed
    exact ⟨first :: earlier, value, by rw [body, List.cons_append],
      wellFormedStatements_cons.2 ⟨firstFormed, earlierFormed⟩, formed⟩

/-- Statements of a script can be exchanged for others that are well-formed in the same places, as
long as an expression stands for an expression and the same names are known afterwards. -/
theorem wellFormedProgram_iff_of_forall₂ {Counterpart : Statement → Statement → Prop}
    (expressions : ∀ {statement counterpart}, Counterpart statement counterpart →
      ((∃ value, statement = .expression value) ↔ ∃ value, counterpart = .expression value))
    (each : ∀ {known statement counterpart}, Counterpart statement counterpart →
      (WellFormedStatement known statement ↔ WellFormedStatement known counterpart))
    (knownAfter : ∀ {known statement counterpart}, Counterpart statement counterpart →
      WellFormedStatement known statement →
        KnownAfter known [statement] = KnownAfter known [counterpart])
    {known : String → Prop} {body others : List Statement}
    (all : List.Forall₂ Counterpart body others) :
    WellFormedProgram known body ↔ WellFormedProgram known others := by
  induction all generalizing known with
  | nil => exact Iff.rfl
  | cons first rest inductionHypothesis =>
      cases rest with
      | nil =>
          rw [wellFormedProgram_singleton_iff, wellFormedProgram_singleton_iff, expressions first,
            each first]
      | cons second more =>
          rw [wellFormedProgram_cons_cons, wellFormedProgram_cons_cons, ← each first]
          refine and_congr_right fun firstFormed => ?_
          rw [← knownAfter first firstFormed]
          exact inductionHypothesis

end LiveGrid.Script
