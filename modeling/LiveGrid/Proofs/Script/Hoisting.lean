import LiveGrid.Proofs.Script.Language
import LiveGrid.Script.Hoist

/-!
Contract: moving real literals out of a script keeps it well-formed.

Owns:
- steps that only add literals, and what holds of their results over every table that
  has the literals hoisted so far;
- well-formed expressions and statements stay so once the names of the hoisted
  literals are known;
- lists are hoisted member by member, and statements up to any place in their list;
- the statements of a compiled script: well-formed ones, and then the assignment of the
  result.

Does not own: the values that the statements compute.
-/

namespace LiveGrid.Script

variable {known : String → Prop}

/-! ## Steps that hoist -/

/-- The step only adds literals. Its result has a property over every table that ends in the
literals hoisted up to then, whatever is hoisted later. -/
def Hoists {Result : Type} (property : List (String × Float) → Result → Prop)
    (action : Hoisting Result) : Prop :=
  ∀ bound, bound <:+ (action.run bound).2 ∧
    ∀ table, (action.run bound).2 <:+ table → property table (action.run bound).1

namespace Hoists

variable {First Second : Type} {onFirst : List (String × Float) → First → Prop}
  {onSecond : List (String × Float) → Second → Prop}

protected theorem pure {value : First} (holds : ∀ table, onFirst table value) :
    Hoists onFirst (pure value) :=
  fun bound => ⟨List.suffix_refl bound, fun table _ => holds table⟩

/-- What holds of the first result still does when the second step has hoisted more. -/
protected theorem bind {action : Hoisting First} {next : First → Hoisting Second}
    (first : Hoists onFirst action)
    (second : ∀ value, Hoists (fun table result => onFirst table value → onSecond table result)
      (next value)) : Hoists onSecond (action >>= next) := by
  intro bound
  obtain ⟨grows, firstHolds⟩ := first bound
  obtain ⟨growsAgain, secondHolds⟩ := second (action.run bound).1 (action.run bound).2
  refine ⟨grows.trans growsAgain, fun table ends => ?_⟩
  exact secondHolds table ends (firstHolds table (growsAgain.trans ends))

protected theorem and {more : List (String × Float) → First → Prop} {action : Hoisting First}
    (hoists : Hoists onFirst action) (hoistsMore : Hoists more action) :
    Hoists (fun table result => onFirst table result ∧ more table result) action :=
  fun bound => ⟨(hoists bound).1, fun table ends =>
    ⟨(hoists bound).2 table ends, (hoistsMore bound).2 table ends⟩⟩

/-- What holds of the result for any literals hoisted before may be added. -/
theorem and_result {always : First → Prop} {action : Hoisting First}
    (hoists : Hoists onFirst action) (holds : ∀ bound, always (action.run bound).1) :
    Hoists (fun table result => onFirst table result ∧ always result) action :=
  fun bound => ⟨(hoists bound).1, fun table ends => ⟨(hoists bound).2 table ends, holds bound⟩⟩

theorem imp {property weaker : First → Prop} {action : Hoisting First}
    (implies : ∀ {result}, property result → weaker result)
    (hoists : Hoists (fun _ => property) action) : Hoists (fun _ => weaker) action :=
  fun bound => ⟨(hoists bound).1, fun table ends => implies ((hoists bound).2 table ends)⟩

end Hoists

/-! ## Lists -/

theorem length_hoistAll {expressions : List Expr} {bound : List (String × Float)} :
    ((hoistAll expressions).run bound).1.length = expressions.length := by
  induction expressions generalizing bound with
  | nil => rfl
  | cons first rest inductionHypothesis =>
      rw [List.length_cons, ← inductionHypothesis]
      rfl

theorem length_hoistLinks {links : List (CompareOperator × Expr)}
    {bound : List (String × Float)} :
    ((hoistLinks links).run bound).1.length = links.length := by
  induction links generalizing bound with
  | nil => rfl
  | cons first rest inductionHypothesis =>
      rw [List.length_cons, ← inductionHypothesis]
      rfl

theorem length_hoistStatements {statements : List Statement} {bound : List (String × Float)} :
    ((hoistStatements statements).run bound).1.length = statements.length := by
  induction statements generalizing bound with
  | nil => rfl
  | cons first rest inductionHypothesis =>
      rw [List.length_cons, ← inductionHypothesis]
      rfl

/-! ## Expressions -/

/-- Names that are known, or that stand for hoisted literals. -/
def KnownOrHoisted (known : String → Prop) (table : List (String × Float)) (name : String) :
    Prop :=
  known name ∨ name ∈ table.map Prod.fst

theorem hoists_hoistReal {value : Float} :
    Hoists (fun table => WellFormed (KnownOrHoisted known table)) (hoistReal value) := by
  intro bound
  refine ⟨List.suffix_cons _ _, fun table ends => ?_⟩
  have member : (literalName bound.length, value) ∈ table := ends.subset List.mem_cons_self
  exact .name (.inl (.inr (List.mem_map_of_mem member)))

theorem hoists_hoistAll {property : List (String × Float) → Expr → Prop}
    {expressions : List Expr}
    (each : ∀ expression ∈ expressions, Hoists property (hoistExpr expression)) :
    Hoists (fun table hoisted => ∀ expression ∈ hoisted, property table expression)
      (hoistAll expressions) := by
  induction expressions with
  | nil =>
      rw [hoistAll]
      exact Hoists.pure (by simp)
  | cons first rest inductionHypothesis =>
      obtain ⟨firstHoists, restHoist⟩ := List.forall_mem_cons.1 each
      rw [hoistAll]
      refine firstHoists.bind fun first' => (inductionHypothesis restHoist).bind fun rest' => ?_
      exact Hoists.pure fun table restHolds firstHolds =>
        List.forall_mem_cons.2 ⟨firstHolds, restHolds⟩

theorem hoists_hoistLinks {property : List (String × Float) → Expr → Prop}
    {links : List (CompareOperator × Expr)}
    (each : ∀ link ∈ links, Hoists property (hoistExpr link.2)) :
    Hoists (fun table hoisted => hoisted.map Prod.fst = links.map Prod.fst ∧
      ∀ link ∈ hoisted, property table link.2) (hoistLinks links) := by
  induction links with
  | nil =>
      rw [hoistLinks]
      exact Hoists.pure (by simp)
  | cons first rest inductionHypothesis =>
      obtain ⟨firstHoists, restHoist⟩ := List.forall_mem_cons.1 each
      rw [hoistLinks]
      refine firstHoists.bind fun first' => (inductionHypothesis restHoist).bind fun rest' => ?_
      refine Hoists.pure fun table => ?_
      rintro ⟨sameOperators, restHolds⟩ firstHolds
      refine ⟨?_, List.forall_mem_cons.2 ⟨firstHolds, restHolds⟩⟩
      rw [List.map_cons, List.map_cons, sameOperators]

/-- An expression stays well-formed when its literals are hoisted. -/
theorem hoists_hoistExpr {expression : Expr} (formed : WellFormed known expression) :
    Hoists (fun table => WellFormed (KnownOrHoisted known table)) (hoistExpr expression) := by
  induction formed with
  | whole value =>
      rw [hoistExpr]
      · exact Hoists.pure fun table => .whole value
      · simp
  | real value =>
      rw [hoistExpr]
      exact hoists_hoistReal
  | truth value =>
      rw [hoistExpr]
      · exact Hoists.pure fun table => .truth value
      · simp
  | name reachable =>
      rw [hoistExpr]
      exact Hoists.pure fun table => .name (reachable.imp_left .inl)
  | unary allowed _ operandHypothesis =>
      rw [hoistExpr]
      refine operandHypothesis.bind fun operand => ?_
      exact Hoists.pure fun table operandFormed => .unary allowed operandFormed
  | binary allowed _ _ leftHypothesis rightHypothesis =>
      rw [hoistExpr]
      refine leftHypothesis.bind fun left => rightHypothesis.bind fun right => ?_
      exact Hoists.pure fun table rightFormed leftFormed =>
        .binary allowed leftFormed rightFormed
  | bool _ operandsHypothesis =>
      rw [hoistExpr]
      refine (hoists_hoistAll operandsHypothesis).bind fun operands => ?_
      exact Hoists.pure fun table operandsFormed => .bool operandsFormed
  | compare allowed _ _ firstHypothesis linksHypothesis =>
      rw [hoistExpr]
      refine firstHypothesis.bind fun first =>
        (hoists_hoistLinks linksHypothesis).bind fun links => ?_
      refine Hoists.pure fun table => ?_
      rintro ⟨sameOperators, linksFormed⟩ firstFormed
      refine .compare (fun link member => ?_) firstFormed linksFormed
      have inOperators : link.1 ∈ links.map Prod.fst := List.mem_map_of_mem member
      rw [sameOperators] at inOperators
      obtain ⟨original, originalMember, same⟩ := List.mem_map.1 inOperators
      rw [← same]
      exact allowed original originalMember
  | conditional _ _ _ testHypothesis bodyHypothesis otherwiseHypothesis =>
      rw [hoistExpr]
      refine testHypothesis.bind fun test => bodyHypothesis.bind fun body =>
        otherwiseHypothesis.bind fun otherwise => ?_
      exact Hoists.pure fun table otherwiseFormed bodyFormed testFormed =>
        .conditional testFormed bodyFormed otherwiseFormed
  | call isFunction _ argumentsHypothesis =>
      rw [hoistExpr, hoistExpr, pure_bind]
      refine (hoists_hoistAll argumentsHypothesis).bind fun arguments => ?_
      exact Hoists.pure fun table argumentsFormed => .call isFunction argumentsFormed

/-! ## Statements -/

/-- A statement stays well-formed, and assigns to the same name. -/
theorem hoists_hoistStatement {statement : Statement}
    (formed : WellFormedStatement known statement) :
    Hoists (fun table hoisted => WellFormedStatement (KnownOrHoisted known table) hoisted ∧
      hoisted.assigned? = statement.assigned?) (hoistStatement statement) := by
  cases formed with
  | expression valueFormed =>
      refine (hoists_hoistExpr valueFormed).bind fun value => ?_
      exact Hoists.pure fun table valueFormed => ⟨.expression valueFormed, rfl⟩
  | assign assignable valueFormed =>
      refine (hoists_hoistExpr valueFormed).bind fun value => ?_
      exact Hoists.pure fun table valueFormed => ⟨.assign assignable valueFormed, rfl⟩
  | augmentedAssign assignable isKnown allowed valueFormed =>
      refine (hoists_hoistExpr valueFormed).bind fun value => ?_
      exact Hoists.pure fun table valueFormed =>
        ⟨.augmentedAssign assignable (.inl isKnown) allowed valueFormed, rfl⟩

theorem knownAfter_knownOrHoisted {table : List (String × Float)}
    {statement hoisted : Statement} (same : hoisted.assigned? = statement.assigned?) :
    KnownAfter (KnownOrHoisted known table) [hoisted] =
      KnownOrHoisted (KnownAfter known [statement]) table := by
  funext name
  simp only [knownAfter_singleton, KnownOrHoisted, same]
  exact propext or_right_comm

/-- Statements stay well-formed, and make the same names known. -/
theorem hoists_hoistStatements {statements : List Statement}
    (formed : WellFormedStatements known statements) :
    Hoists (fun table hoisted => WellFormedStatements (KnownOrHoisted known table) hoisted ∧
      KnownAfter (KnownOrHoisted known table) hoisted =
        KnownOrHoisted (KnownAfter known statements) table) (hoistStatements statements) := by
  induction statements generalizing known with
  | nil =>
      refine Hoists.pure fun table => ⟨wellFormedStatements_nil, ?_⟩
      rw [knownAfter_nil, knownAfter_nil]
  | cons first rest inductionHypothesis =>
      obtain ⟨firstFormed, restFormed⟩ := wellFormedStatements_cons.1 formed
      rw [hoistStatements]
      refine (hoists_hoistStatement firstFormed).bind fun first' =>
        (inductionHypothesis restFormed).bind fun rest' => ?_
      refine Hoists.pure fun table => ?_
      rintro ⟨restFormed', sameKnown⟩ ⟨firstFormed', sameName⟩
      constructor
      · rw [wellFormedStatements_cons, knownAfter_knownOrHoisted sameName]
        exact ⟨firstFormed', restFormed'⟩
      · rw [knownAfter_cons, knownAfter_knownOrHoisted sameName, sameKnown, ← knownAfter_cons]

/-! ## Compiled statements -/

/-- Well-formed statements, and then one that assigns to the name of the result. -/
def WellFormedCompilation (known : String → Prop) (statements : List Statement) : Prop :=
  ∃ earlier value, statements = earlier ++ [.assign [.name resultName] value] ∧
    WellFormedStatements known earlier ∧ WellFormed (KnownAfter known earlier) value

section Append

variable {before after earlier : List Statement} {last : Statement} {value : Expr}

theorem keepResult_before_append (some : after ≠ []) :
    keepResult (before ++ after) = before ++ keepResult after := by
  induction before with
  | nil => rfl
  | cons first others inductionHypothesis =>
      obtain ⟨second, last, split⟩ := List.exists_cons_of_ne_nil
        (List.append_ne_nil_of_right_ne_nil others some)
      rw [List.cons_append, List.cons_append, ← inductionHypothesis, split, keepResult]
      simp

theorem keepResult_append :
    keepResult (earlier ++ [.expression value]) =
      earlier ++ [.assign [.name resultName] value] :=
  keepResult_before_append (List.cons_ne_nil _ _)

theorem hoistStatements_before_append :
    hoistStatements (before ++ after) =
      hoistStatements before >>= fun before =>
        hoistStatements after >>= fun after => pure (before ++ after) := by
  induction before with
  | nil => simp [hoistStatements]
  | cons first others inductionHypothesis => simp [hoistStatements, inductionHypothesis]

theorem hoistStatements_append :
    hoistStatements (earlier ++ [last]) =
      hoistStatements earlier >>= fun earlier =>
        hoistStatement last >>= fun last => pure (earlier ++ [last]) := by
  rw [hoistStatements_before_append]
  simp [hoistStatements]

end Append

/-- The statements that a script is compiled to are well-formed up to the last one, which
assigns the result. -/
theorem hoists_compilation {body : List Statement} (formed : WellFormedProgram known body) :
    Hoists (fun table => WellFormedCompilation (KnownOrHoisted known table))
      (hoistStatements (keepResult body)) := by
  obtain ⟨earlier, value, rfl, earlierFormed, valueFormed⟩ := formed
  rw [keepResult_append, hoistStatements_append]
  refine (hoists_hoistStatements earlierFormed).bind fun earlier' => ?_
  rw [hoistStatement, bind_assoc]
  refine (hoists_hoistExpr valueFormed).bind fun value' => ?_
  rw [pure_bind]
  refine Hoists.pure fun table => ?_
  rintro valueFormed' ⟨earlierFormed', sameKnown⟩
  refine ⟨earlier', value', rfl, earlierFormed', ?_⟩
  rw [sameKnown]
  exact valueFormed'

end LiveGrid.Script
