import LiveGrid.Proofs.Script.Randomness

/-!
Contract: scripts that evaluate all of their parts take a random number for every call that asks for
one.

Owns:
- expressions without parts that may be left out: no conditional, no conjunction or disjunction, and
  no comparison with more than two sides;
- hoisting keeps a script so;
- evaluations that take exactly so many numbers if they succeed, and that a script without such
  parts is one.

An evaluation that fails may do so before its last calls, so it takes fewer numbers.

Does not own: how many numbers other scripts take.
-/

namespace LiveGrid.Script

open Evaluation

/-! ## Parts that are left out -/

/-- Whether the value of a part of a node decides which other parts are evaluated. -/
def Node.branches : Node → Bool
  | .expr (.bool _ _) => true
  | .expr (.conditional _ _ _) => true
  | .expr (.compare _ links) => 1 < links.length
  | _ => false

/-- Whether an expression is evaluated with all of its parts. -/
def Expr.IsStraight (expression : Expr) : Prop :=
  ∀ node ∈ expression.nodes, node.branches = false

def Statement.IsStraight (statement : Statement) : Prop :=
  ∀ node ∈ statement.nodes, node.branches = false

namespace Expr

variable {first second third : Expr} {operands : List Expr}

theorem isStraight_name {identifier : String} : (name identifier).IsStraight := by
  simp [IsStraight, Node.branches]

theorem isStraight_unary_iff {operator : UnaryOperator} :
    (unary operator first).IsStraight ↔ first.IsStraight := by
  simp [IsStraight, Node.branches]

theorem isStraight_binary_iff {operator : BinaryOperator} :
    (binary operator first second).IsStraight ↔ first.IsStraight ∧ second.IsStraight := by
  simp only [IsStraight, mem_nodes_binary, forall_eq_or_imp, Node.branches, true_and]
  constructor
  · intro straight
    exact ⟨fun node inside => straight node (.inl inside),
      fun node inside => straight node (.inr (.inr inside))⟩
  · rintro ⟨firstStraight, secondStraight⟩ node (inside | rfl | inside)
    · exact firstStraight node inside
    · rfl
    · exact secondStraight node inside

theorem not_isStraight_bool {operator : BoolOperator} : ¬ (bool operator operands).IsStraight := by
  simp [IsStraight, Node.branches]

theorem not_isStraight_conditional : ¬ (conditional first second third).IsStraight := by
  simp [IsStraight, Node.branches]

theorem isStraight_compare_iff {links : List (CompareOperator × Expr)} :
    (compare first links).IsStraight ↔
      links.length ≤ 1 ∧ first.IsStraight ∧ ∀ link ∈ links, link.2.IsStraight := by
  simp only [IsStraight, mem_nodes_compare, forall_eq_or_imp, Node.branches, decide_eq_false_iff_not,
    Nat.not_lt]
  constructor
  · rintro ⟨short, straight⟩
    exact ⟨short, fun node inside => straight node (.inl inside),
      fun link member node inside => straight node (.inr (.inr ⟨link, member, inside⟩))⟩
  · rintro ⟨short, firstStraight, linksStraight⟩
    refine ⟨short, ?_⟩
    rintro node (inside | ⟨link, member, rfl⟩ | ⟨link, member, inside⟩)
    · exact firstStraight node inside
    · rfl
    · exact linksStraight link member node inside

theorem isStraight_call_iff {keywordCount : Nat} :
    (call first operands keywordCount).IsStraight ↔
      first.IsStraight ∧ ∀ argument ∈ operands, argument.IsStraight := by
  simp only [IsStraight, mem_nodes_call, forall_eq_or_imp, Node.branches, true_and]
  constructor
  · intro straight
    exact ⟨fun node inside => straight node (.inl inside),
      fun argument member node inside => straight node (.inr ⟨argument, member, inside⟩)⟩
  · rintro ⟨firstStraight, restStraight⟩ node (inside | ⟨argument, member, inside⟩)
    · exact firstStraight node inside
    · exact restStraight argument member node inside

end Expr

/-! ## Hoisting -/

variable {known : String → Prop}

theorem length_eq_of_map_fst_eq {links others : List (CompareOperator × Expr)}
    (same : links.map Prod.fst = others.map Prod.fst) : links.length = others.length := by
  have lengths := congrArg List.length same
  rw [List.length_map, List.length_map] at lengths
  exact lengths

/-- A name takes the place of a literal, so no part is added that may be left out. -/
theorem hoists_hoistExpr_isStraight {expression : Expr} (formed : WellFormed known expression)
    (straight : expression.IsStraight) : Hoists (fun _ => Expr.IsStraight) (hoistExpr expression) := by
  induction formed with
  | whole value | truth value =>
      rw [hoistExpr]
      · exact Hoists.pure fun _ => straight
      · simp
  | real value =>
      rw [hoistExpr]
      exact fun bound => ⟨List.suffix_cons _ _, fun _ _ => Expr.isStraight_name⟩
  | name reachable =>
      rw [hoistExpr]
      exact Hoists.pure fun _ => straight
  | unary _ _ operandHypothesis =>
      rw [hoistExpr]
      refine (operandHypothesis (Expr.isStraight_unary_iff.1 straight)).bind fun operand => ?_
      exact Hoists.pure fun _ => Expr.isStraight_unary_iff.2
  | binary _ _ _ leftHypothesis rightHypothesis =>
      obtain ⟨leftStraight, rightStraight⟩ := Expr.isStraight_binary_iff.1 straight
      rw [hoistExpr]
      refine (leftHypothesis leftStraight).bind fun left =>
        (rightHypothesis rightStraight).bind fun right => ?_
      exact Hoists.pure fun _ rightStraight leftStraight =>
        Expr.isStraight_binary_iff.2 ⟨leftStraight, rightStraight⟩
  | bool => exact absurd straight Expr.not_isStraight_bool
  | compare _ _ _ firstHypothesis linksHypothesis =>
      obtain ⟨short, firstStraight, linksStraight⟩ := Expr.isStraight_compare_iff.1 straight
      rw [hoistExpr]
      refine (firstHypothesis firstStraight).bind fun first =>
        (hoists_hoistLinks fun link member =>
          linksHypothesis link member (linksStraight link member)).bind fun links => ?_
      refine Hoists.pure fun _ => ?_
      rintro ⟨sameOperators, linksStraight⟩ firstStraight
      refine Expr.isStraight_compare_iff.2 ⟨?_, firstStraight, linksStraight⟩
      rw [length_eq_of_map_fst_eq sameOperators]
      exact short
  | conditional => exact absurd straight Expr.not_isStraight_conditional
  | call _ _ argumentsHypothesis =>
      obtain ⟨functionStraight, argumentsStraight⟩ := Expr.isStraight_call_iff.1 straight
      rw [hoistExpr, hoistExpr, pure_bind]
      refine (hoists_hoistAll fun argument member =>
        argumentsHypothesis argument member (argumentsStraight argument member)).bind
          fun arguments => ?_
      exact Hoists.pure fun _ argumentsStraight =>
        Expr.isStraight_call_iff.2 ⟨functionStraight, argumentsStraight⟩

theorem hoists_hoistStatement_isStraight {statement : Statement}
    (formed : ∀ value, statement.value? = some value → ∃ known, WellFormed known value)
    (straight : statement.IsStraight) :
    Hoists (fun _ => Statement.IsStraight) (hoistStatement statement) := by
  cases statement with
  | assign targets value | augmentedAssign target operator value | expression value =>
      obtain ⟨known, valueFormed⟩ := formed value rfl
      refine (hoists_hoistExpr_isStraight valueFormed straight).bind fun value => ?_
      exact Hoists.pure fun _ valueStraight => valueStraight
  | foreign kind => exact Hoists.pure fun _ => straight

theorem hoists_hoistStatements_isStraight {statements : List Statement}
    (formed : HaveFormedValues statements)
    (straight : ∀ statement ∈ statements, statement.IsStraight) :
    Hoists (fun _ hoisted => ∀ statement ∈ hoisted, Statement.IsStraight statement)
      (hoistStatements statements) := by
  induction statements with
  | nil => exact Hoists.pure fun _ => straight
  | cons first rest inductionHypothesis =>
      obtain ⟨firstFormed, restFormed⟩ := List.forall_mem_cons.1 formed
      obtain ⟨firstStraight, restStraight⟩ := List.forall_mem_cons.1 straight
      rw [hoistStatements]
      refine (hoists_hoistStatement_isStraight firstFormed firstStraight).bind fun first' =>
        (inductionHypothesis restFormed restStraight).bind fun rest' => ?_
      exact Hoists.pure fun _ restStraight firstStraight =>
        List.forall_mem_cons.2 ⟨firstStraight, restStraight⟩

/-! ## Evaluations that take an exact number -/

/-- An evaluation that takes exactly so many numbers from a stream if it succeeds. -/
def TakesExactly {Result : Type} (count : Nat) (action : Evaluation Result) : Prop :=
  ∀ stream value after, action stream = (.ok value, after) → after = stream.skip count

namespace TakesExactly

variable {First Second : Type} {count more : Nat}

theorem ofExcept {result : Except Fault First} : TakesExactly 0 (Evaluation.ofExcept result) := by
  intro stream value after success
  cases success
  rfl

protected theorem pure {value : First} : TakesExactly 0 (pure value : Evaluation First) := by
  intro stream value after success
  cases success
  rfl

protected theorem throw {fault : Fault} : TakesExactly count (throw fault : Evaluation First) := by
  intro stream value after success
  cases success

theorem drawRandom : TakesExactly 1 drawRandom := by
  intro stream value after success
  cases success
  rfl

/-- A chain that succeeds takes what both of its parts take. -/
theorem bind_of_ensures {onFault : Fault → Prop} {onFirst : First → Prop}
    {action : Evaluation First} {next : First → Evaluation Second}
    (first : TakesExactly count action) (ensures : Ensures onFault onFirst action)
    (second : ∀ value, onFirst value → TakesExactly more (next value)) :
    TakesExactly (count + more) (action >>= next) := by
  intro stream value after success
  rw [bind_apply] at success
  rcases outcome : action stream with ⟨fault | firstValue, between⟩
  · rw [outcome] at success
    cases success
  · rw [outcome] at success
    have firstTook : between = stream.skip count := first stream firstValue between outcome
    have secondTook : after = between.skip more :=
      second firstValue (ensures.of_ok outcome) between value after success
    rw [secondTook, firstTook, RandomStream.skip_skip]

protected theorem bind {action : Evaluation First} {next : First → Evaluation Second}
    (first : TakesExactly count action) (second : ∀ value, TakesExactly more (next value)) :
    TakesExactly (count + more) (action >>= next) := by
  have anything : Ensures (fun _ => True) (fun _ => True) action := by
    intro stream
    split <;> trivial
  exact first.bind_of_ensures anything fun value _ => second value

theorem zero_bind {action : Evaluation First} {next : First → Evaluation Second}
    (first : TakesExactly 0 action) (second : ∀ value, TakesExactly count (next value)) :
    TakesExactly count (action >>= next) := by
  have chain := first.bind second
  rw [Nat.zero_add] at chain
  exact chain

theorem bind_zero {action : Evaluation First} {next : First → Evaluation Second}
    (first : TakesExactly count action) (second : ∀ value, TakesExactly 0 (next value)) :
    TakesExactly count (action >>= next) :=
  first.bind second

end TakesExactly

/-! ## Expressions -/

variable {shared : List (String × Value)} {scope : Scope}

theorem takesExactly_readName {name : String} : TakesExactly 0 (readName scope name) := by
  unfold readName
  split
  · exact TakesExactly.pure
  · exact TakesExactly.throw

theorem takesExactly_evaluateAll {expressions : List Expr}
    (each : ∀ expression ∈ expressions,
      TakesExactly expression.randomCalls (evaluateExpr scope expression)) :
    TakesExactly (randomCallsOf expressions) (evaluateAll scope expressions) := by
  induction expressions with
  | nil =>
      rw [evaluateAll]
      exact TakesExactly.pure
  | cons first rest inductionHypothesis =>
      obtain ⟨firstTakes, restTake⟩ := List.forall_mem_cons.1 each
      rw [evaluateAll, randomCallsOf]
      exact firstTakes.bind fun value => (inductionHypothesis restTake).bind_zero fun values =>
        TakesExactly.pure

/-- A single link is always evaluated. -/
theorem takesExactly_evaluateLinks {left : Value} {links : List (CompareOperator × Expr)}
    (short : links.length ≤ 1)
    (each : ∀ link ∈ links, TakesExactly link.2.randomCalls (evaluateExpr scope link.2)) :
    TakesExactly (randomCallsOf (links.map Prod.snd)) (evaluateLinks scope left links) := by
  cases links with
  | nil =>
      rw [evaluateLinks]
      exact TakesExactly.pure
  | cons first rest =>
      obtain rfl : rest = [] := by simpa using short
      rw [evaluateLinks]
      exact (each first List.mem_cons_self).bind_zero fun right => TakesExactly.ofExcept

/-- A call of `rand` that succeeds has no arguments, and takes a number. -/
theorem takesExactly_callValue {name : String} {function : Function} {arguments : List Value}
    (entry : functionTable.lookup name = some function) :
    TakesExactly (if name = "rand" then 1 else 0) (callValue (.function function) arguments) := by
  by_cases isRand : name = "rand"
  · obtain rfl : function = .rand := by
      rw [isRand] at entry
      exact (Option.some.inj entry).symm
    rw [if_pos isRand, callValue]
    cases arguments with
    | nil => exact TakesExactly.drawRandom
    | cons first rest =>
        have refused : ∃ fault, Call.apply .rand (first :: rest) = .error fault := ⟨_, rfl⟩
        obtain ⟨fault, failed⟩ := refused
        rw [failed]
        exact TakesExactly.throw
  · rw [if_neg isRand]
    cases function with
    | rand => exact absurd (name_of_lookup_rand entry) isRand
    | _ => exact TakesExactly.ofExcept

/-- An expression of which all parts are evaluated takes a number for each of its calls that ask for
one. -/
theorem takesExactly_evaluateExpr (serves : scope.Serves known shared)
    (holds : HoldsFunctions shared) {expression : Expr} (formed : WellFormed known expression)
    (straight : expression.IsStraight) :
    TakesExactly expression.randomCalls (evaluateExpr scope expression) := by
  induction formed with
  | whole value | real value | truth value => exact TakesExactly.pure
  | name reachable =>
      rw [evaluateExpr]
      exact takesExactly_readName
  | unary _ _ operandHypothesis =>
      rw [evaluateExpr, Expr.randomCalls_unary]
      exact (operandHypothesis (Expr.isStraight_unary_iff.1 straight)).bind_zero fun operand =>
        TakesExactly.ofExcept
  | binary _ _ _ leftHypothesis rightHypothesis =>
      obtain ⟨leftStraight, rightStraight⟩ := Expr.isStraight_binary_iff.1 straight
      rw [evaluateExpr, Expr.randomCalls_binary]
      exact (leftHypothesis leftStraight).bind fun left =>
        (rightHypothesis rightStraight).bind_zero fun right => TakesExactly.ofExcept
  | bool => exact absurd straight Expr.not_isStraight_bool
  | compare _ _ _ firstHypothesis linksHypothesis =>
      obtain ⟨short, firstStraight, linksStraight⟩ := Expr.isStraight_compare_iff.1 straight
      rw [evaluateExpr, Expr.randomCalls_compare]
      exact (firstHypothesis firstStraight).bind fun first =>
        takesExactly_evaluateLinks short fun link member =>
          linksHypothesis link member (linksStraight link member)
  | conditional => exact absurd straight Expr.not_isStraight_conditional
  | call isFunction argumentsFormed argumentsHypothesis =>
      obtain ⟨-, argumentsStraight⟩ := Expr.isStraight_call_iff.1 straight
      obtain ⟨name, function, same, entry, called⟩ :=
        serves.evaluateExpr_call holds (.call isFunction argumentsFormed)
      cases same
      rw [called, Expr.randomCalls_call, Nat.add_comm]
      refine (takesExactly_evaluateAll fun argument member => ?_).bind fun arguments =>
        takesExactly_callValue entry
      exact argumentsHypothesis argument member (argumentsStraight argument member)

/-! ## Statements -/

theorem takesExactly_runStatement (serves : scope.Serves known shared)
    (holds : HoldsFunctions shared) {statement : Statement}
    (formed : WellFormedStatement known statement) (straight : statement.IsStraight) :
    TakesExactly (randomCalls [statement]) (runStatement scope statement) := by
  cases formed with
  | expression valueFormed | assign _ valueFormed =>
      rw [runStatement]
      exact (takesExactly_evaluateExpr serves holds valueFormed straight).bind_zero fun _ =>
        TakesExactly.pure
  | augmentedAssign _ _ _ valueFormed =>
      rw [runStatement]
      refine takesExactly_readName.zero_bind fun current => ?_
      refine (takesExactly_evaluateExpr serves holds valueFormed straight).bind_zero
        fun operand => ?_
      exact TakesExactly.ofExcept.zero_bind fun result => TakesExactly.pure

theorem takesExactly_runStatements (serves : scope.Serves known shared)
    (holds : HoldsFunctions shared) {statements : List Statement}
    (formed : WellFormedStatements known statements)
    (straight : ∀ statement ∈ statements, statement.IsStraight) :
    TakesExactly (randomCalls statements) (runStatements scope statements) := by
  induction statements generalizing known scope with
  | nil =>
      rw [runStatements]
      exact TakesExactly.pure
  | cons first rest inductionHypothesis =>
      obtain ⟨firstFormed, restFormed⟩ := wellFormedStatements_cons.1 formed
      obtain ⟨firstStraight, restStraight⟩ := List.forall_mem_cons.1 straight
      rw [runStatements, randomCalls_cons]
      exact (takesExactly_runStatement serves holds firstFormed firstStraight).bind_of_ensures
        (ensures_runStatement serves holds firstFormed) fun after afterServes =>
          inductionHypothesis afterServes restFormed restStraight

/-! ## Scripts -/

variable {source : String} {tree : List Statement}

/-- A script is compiled to statements of which all parts are evaluated, if its own ones are. -/
theorem isStraight_ofTree (source : String) (formed : WellFormedProgram known tree)
    (straight : ∀ statement ∈ tree, statement.IsStraight) :
    ∀ statement ∈ (ofTree source tree).statements, statement.IsStraight := by
  obtain ⟨earlier, value, rfl, earlierFormed, valueFormed⟩ := formed
  obtain ⟨earlierStraight, lastStraight⟩ := List.forall_mem_append.1 straight
  have valueStraight : value.IsStraight := lastStraight (.expression value) List.mem_cons_self
  have keptFormed := haveFormedValues_append_result earlierFormed valueFormed
  have keptStraight : ∀ statement ∈ earlier ++ [.assign [.name resultName] value],
      statement.IsStraight := by
    refine List.forall_mem_append.2 ⟨earlierStraight, fun statement isLast => ?_⟩
    cases List.mem_singleton.1 isLast
    exact valueStraight
  show ∀ statement ∈ ((hoistStatements (keepResult (earlier ++ [.expression value]))).run []).1, _
  rw [keepResult_append]
  exact (hoists_hoistStatements_isStraight keptFormed keptStraight []).2 _ (List.suffix_refl _)

/-- A cell of a script of which all parts are evaluated takes a number for each call that asks for
one, if it gets a value. -/
theorem takesExactly_evaluate (formed : WellFormedProgram IsInitial tree)
    (straight : ∀ statement ∈ tree, statement.IsStraight) (inputs : Inputs) :
    TakesExactly (randomCalls tree) ((ofTree source tree).evaluate inputs) := by
  have compiledStraight := isStraight_ofTree source formed straight
  rw [← randomCalls_ofTree source formed]
  obtain ⟨table, shared, earlier, value, statements, earlierFormed, valueFormed⟩ :=
    wellFormedCompilation_ofTree source formed
  rw [statements] at compiledStraight
  obtain ⟨earlierStraight, lastStraight⟩ := List.forall_mem_append.1 compiledStraight
  have valueStraight : value.IsStraight := lastStraight _ List.mem_cons_self
  have holds : HoldsFunctions (sharedNames table) := holdsFunctions_standardNames
  have serves := serves_inputs inputs table
  rw [evaluate_eq_bind statements, shared, statements, randomCalls_append]
  refine (takesExactly_runStatements serves holds earlierFormed earlierStraight).bind_of_ensures
    (ensures_runStatements serves holds earlierFormed) fun scope scopeServes => ?_
  show TakesExactly (value.randomCalls + 0) _
  exact (takesExactly_evaluateExpr scopeServes holds valueFormed valueStraight).bind fun result =>
    TakesExactly.ofExcept

end LiveGrid.Script
