import LiveGrid.Proofs.Script.Sandbox
import LiveGrid.Proofs.Script.Typing

/-!
Contract: moving real literals out of a script keeps its types.

Owns:
- typed expressions and statements stay so when names stand for their literals;
- a script that only computes floats is compiled to statements that do.

Does not own: the values that the statements compute.
-/

namespace LiveGrid.Script

/-- The name of a literal is not the name of a function. -/
theorem not_isFunction_literalName {index : Nat} : ¬ IsFunction (literalName index) :=
  fun isFunction => isFunction.visible literalName_startsWith

/-! ## Expressions -/

theorem ne_nil_of_length_eq {Item : Type} {first second : List Item}
    (same : first.length = second.length) (some : second ≠ []) : first ≠ [] := by
  rintro rfl
  exact some (List.length_eq_zero_iff.1 same.symm)

theorem hoists_hoistAll_typed {expressions : List Expr} {type : ExprType}
    (each : ∀ expression ∈ expressions,
      Hoists (fun _ hoisted => HasType .hoisted hoisted type) (hoistExpr expression)) :
    Hoists (fun _ hoisted => (∀ expression ∈ hoisted, HasType .hoisted expression type) ∧
      hoisted.length = expressions.length) (hoistAll expressions) :=
  (hoists_hoistAll each).and_result fun _ => length_hoistAll

/-- An expression keeps its type when its literals are hoisted. -/
theorem hoists_hoistExpr_typed {expression : Expr} {type : ExprType}
    (typed : HasType .written expression type) :
    Hoists (fun _ hoisted => HasType .hoisted hoisted type) (hoistExpr expression) := by
  induction typed with
  | whole fits =>
      rw [hoistExpr]
      · exact Hoists.pure fun table => .whole fits
      · simp
  | wholePlus _ operandHypothesis =>
      rw [hoistExpr]
      refine operandHypothesis.bind fun operand => ?_
      exact Hoists.pure fun table operandTyped => .wholePlus operandTyped
  | wholeMinus _ fits operandHypothesis =>
      rw [hoistExpr]
      refine operandHypothesis.bind fun operand => ?_
      exact Hoists.pure fun table operandTyped => .wholeMinus operandTyped fits
  | wholeBinary computes _ _ fits leftHypothesis rightHypothesis =>
      rw [hoistExpr]
      refine leftHypothesis.bind fun left => rightHypothesis.bind fun right => ?_
      exact Hoists.pure fun table rightTyped leftTyped =>
        .wholeBinary computes leftTyped rightTyped fits
  | real _ value =>
      rw [hoistExpr]
      exact fun bound => ⟨List.suffix_cons _ _, fun _ _ => .name not_isFunction_literalName⟩
  | name notFunction =>
      rw [hoistExpr]
      exact Hoists.pure fun table => .name notFunction
  | sign isSign _ operandHypothesis =>
      rw [hoistExpr]
      refine operandHypothesis.bind fun operand => ?_
      exact Hoists.pure fun table operandTyped => .sign isSign operandTyped
  | binaryFloatFirst allowed _ _ leftHypothesis rightHypothesis =>
      rw [hoistExpr]
      refine leftHypothesis.bind fun left => rightHypothesis.bind fun right => ?_
      exact Hoists.pure fun table rightTyped leftTyped =>
        .binaryFloatFirst allowed leftTyped rightTyped
  | binaryFloatLast allowed _ _ leftHypothesis rightHypothesis =>
      rw [hoistExpr]
      refine leftHypothesis.bind fun left => rightHypothesis.bind fun right => ?_
      exact Hoists.pure fun table rightTyped leftTyped =>
        .binaryFloatLast allowed leftTyped rightTyped
  | call entry count _ argumentsHypothesis =>
      rw [hoistExpr, hoistExpr, pure_bind]
      refine (hoists_hoistAll_typed argumentsHypothesis).bind fun arguments => ?_
      refine Hoists.pure fun table hoisted => ?_
      obtain ⟨argumentsTyped, sameLength⟩ := hoisted
      exact .call entry (sameLength.trans count) argumentsTyped
  | bool some _ operandsHypothesis =>
      rw [hoistExpr]
      refine (hoists_hoistAll_typed operandsHypothesis).bind fun operands => ?_
      refine Hoists.pure fun table hoisted => ?_
      obtain ⟨operandsTyped, sameLength⟩ := hoisted
      exact .bool (ne_nil_of_length_eq sameLength some) operandsTyped
  | conditional _ _ _ testHypothesis bodyHypothesis otherwiseHypothesis =>
      rw [hoistExpr]
      refine testHypothesis.bind fun test => bodyHypothesis.bind fun body =>
        otherwiseHypothesis.bind fun otherwise => ?_
      exact Hoists.pure fun table otherwiseTyped bodyTyped testTyped =>
        .conditional testTyped bodyTyped otherwiseTyped
  | compare some _ _ firstHypothesis linksHypothesis =>
      rw [hoistExpr]
      refine firstHypothesis.bind fun first =>
        (hoists_hoistLinks linksHypothesis).bind fun links => ?_
      refine Hoists.pure fun table hoisted firstTyped => ?_
      obtain ⟨sameOperators, linksTyped⟩ := hoisted
      have sameLength := congrArg List.length sameOperators
      rw [List.length_map, List.length_map] at sameLength
      exact .compare (ne_nil_of_length_eq sameLength some) firstTyped linksTyped
  | boolTest some _ operandsHypothesis =>
      rw [hoistExpr]
      refine (hoists_hoistAll_typed operandsHypothesis).bind fun operands => ?_
      refine Hoists.pure fun table hoisted => ?_
      obtain ⟨operandsTyped, sameLength⟩ := hoisted
      exact .boolTest (ne_nil_of_length_eq sameLength some) operandsTyped
  | notTest _ operandHypothesis =>
      rw [hoistExpr]
      refine operandHypothesis.bind fun operand => ?_
      exact Hoists.pure fun table operandTyped => .notTest operandTyped
  | wholeNumber _ hypothesis => exact hypothesis.imp .wholeNumber
  | floatNumber _ hypothesis => exact hypothesis.imp .floatNumber
  | floatTest _ hypothesis => exact hypothesis.imp .floatTest

theorem HasType.hoisted_name {identifier : String} {type : ExprType}
    (typed : HasType .written (.name identifier) type) : HasType .hoisted (.name identifier) type :=
  (hoists_hoistExpr_typed typed []).2 [] (List.suffix_refl _)

/-! ## Statements -/

theorem hoists_hoistStatement_typed {statement : Statement}
    (typed : IsFloatStatement .written statement) :
    Hoists (fun _ hoisted => IsFloatStatement .hoisted hoisted) (hoistStatement statement) := by
  cases typed with
  | assign valueTyped =>
      refine (hoists_hoistExpr_typed valueTyped).bind fun value => ?_
      exact Hoists.pure fun table valueTyped => .assign valueTyped
  | augmentedAssign resultTyped =>
      rw [hoistStatement]
      cases resultTyped with
      | binaryFloatFirst allowed nameTyped valueTyped =>
          refine (hoists_hoistExpr_typed valueTyped).bind fun value => ?_
          exact Hoists.pure fun table valueTyped =>
            .augmentedAssign (.binaryFloatFirst allowed nameTyped.hoisted_name valueTyped)
      | binaryFloatLast allowed nameTyped valueTyped =>
          refine (hoists_hoistExpr_typed valueTyped).bind fun value => ?_
          exact Hoists.pure fun table valueTyped =>
            .augmentedAssign (.binaryFloatLast allowed nameTyped.hoisted_name valueTyped)
  | expression valueTyped =>
      refine (hoists_hoistExpr_typed valueTyped).bind fun value => ?_
      exact Hoists.pure fun table valueTyped => .expression valueTyped

theorem hoists_hoistStatements_typed {statements : List Statement}
    (typed : AreFloatStatements .written statements) :
    Hoists (fun _ hoisted => AreFloatStatements .hoisted hoisted) (hoistStatements statements) := by
  induction statements with
  | nil => exact Hoists.pure fun table => by simp [AreFloatStatements]
  | cons first rest inductionHypothesis =>
      obtain ⟨firstTyped, restTyped⟩ := List.forall_mem_cons.1 typed
      rw [hoistStatements]
      refine (hoists_hoistStatement_typed firstTyped).bind fun first =>
        (inductionHypothesis restTyped).bind fun rest => ?_
      exact Hoists.pure fun table restTyped firstTyped =>
        List.forall_mem_cons.2 ⟨firstTyped, restTyped⟩

/-- The last expression keeps its type when it is assigned to the name of the result. -/
theorem IsFloatScript.keepResult {tree : List Statement} (typed : IsFloatScript tree) :
    IsFloatScript (keepResult tree) := by
  fun_induction Script.keepResult tree with
  | case1 => exact typed
  | case2 value =>
      cases typed _ List.mem_cons_self with
      | expression valueTyped => exact List.forall_mem_singleton.2 (.assign valueTyped)
  | case3 statement rest _ inductionHypothesis =>
      obtain ⟨firstTyped, restTyped⟩ := List.forall_mem_cons.1 typed
      exact List.forall_mem_cons.2 ⟨firstTyped, inductionHypothesis restTyped⟩

/-- A script that only computes floats is compiled to statements that do. -/
theorem IsFloatScript.ofTree {tree : List Statement} (typed : IsFloatScript tree)
    (source : String) : AreFloatStatements .hoisted (ofTree source tree).statements :=
  (hoists_hoistStatements_typed typed.keepResult []).2 _ (List.suffix_refl _)

end LiveGrid.Script
