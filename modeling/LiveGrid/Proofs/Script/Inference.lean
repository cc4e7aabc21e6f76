import LiveGrid.Proofs.Script.Compiled
import LiveGrid.Proofs.Script.Typing

/-!
Contract: types of expressions are computable.

Owns:
- the narrowest type of an expression, as a recursion over its form;
- an expression has exactly the types that accept its narrowest one;
- it is decidable whether a script only computes floats.

Does not own: which expressions have which types.
-/

namespace LiveGrid.Script

/-! ## Narrowest types -/

/-- Whether an expression has a type if its narrowest one, if any, is as found. -/
def ExprType.accepts (expected : ExprType) (found : Option ExprType) : Bool :=
  match expected, found with
  | .number, some (.whole _) => true
  | .number, some .float => true
  | .test, some .float => true
  | expected, found => found == some expected

/-- The narrowest type of an operator before an operand. -/
def unaryType? : UnaryOperator → Option ExprType → Option ExprType
  | .plus, some (.whole value) => some (.whole value)
  | .minus, some (.whole value) => if FitsWord (-value) then some (.whole (-value)) else none
  | .plus, some .float => some .float
  | .minus, some .float => some .float
  | .not, operand => if ExprType.test.accepts operand then some .test else none
  | _, _ => none

/-- The narrowest type of an operation on two operands. -/
def binaryType? (operator : BinaryOperator) (left right : Option ExprType) : Option ExprType :=
  match left, right with
  | some (.whole first), some (.whole second) =>
      match wholeOperation? operator with
      | some operation =>
          if FitsWord (operation first second) then some (.whole (operation first second)) else none
      | none => none
  | left, right =>
      if operator.isAllowed &&
          (ExprType.float.accepts left && ExprType.number.accepts right ||
            ExprType.number.accepts left && ExprType.float.accepts right) then some .float
      else none

/-- The function that a call without keyword arguments is written for. -/
def calledFunction? (callee : Expr) (keywordCount : Nat) : Option Function :=
  match callee, keywordCount with
  | .name name, 0 => functionTable.lookup name
  | _, _ => none

mutual

/-- The narrowest type of an expression, if it has one. -/
def typeOf? : Expr → Option ExprType
  | .literal (.whole value) => if FitsWord value then some (.whole value) else none
  | .literal (.real _) => some .float
  | .literal _ => none
  | .name identifier => if isFunctionName identifier then none else some .float
  | .unary operator operand => unaryType? operator (typeOf? operand)
  | .binary operator left right => binaryType? operator (typeOf? left) (typeOf? right)
  | .bool _ operands =>
      if operands.isEmpty then none
      else if allHaveType .float operands then some .float
      else if allHaveType .test operands then some .test
      else none
  | .compare first links =>
      if !links.isEmpty && ExprType.number.accepts (typeOf? first) && allLinksNumbers links then
        some .test
      else none
  | .conditional test body otherwise =>
      if ExprType.test.accepts (typeOf? test) && ExprType.float.accepts (typeOf? body) &&
          ExprType.float.accepts (typeOf? otherwise) then some .float
      else none
  | .call callee arguments keywordCount =>
      match calledFunction? callee keywordCount with
      | some function =>
          if arguments.length == function.arity && allHaveType .float arguments then some .float
          else none
      | none => none
  | .foreign _ _ => none

/-- Whether all expressions have a type. -/
def allHaveType (expected : ExprType) : List Expr → Bool
  | [] => true
  | expression :: rest =>
      expected.accepts (typeOf? expression) && allHaveType expected rest

/-- Whether the operands of all links are numbers. -/
def allLinksNumbers : List (CompareOperator × Expr) → Bool
  | [] => true
  | (_, expression) :: rest =>
      ExprType.number.accepts (typeOf? expression) && allLinksNumbers rest

end

theorem calledFunction?_eq_some_iff {callee : Expr} {keywordCount : Nat} {function : Function} :
    calledFunction? callee keywordCount = some function ↔
      ∃ name, callee = .name name ∧ keywordCount = 0 ∧
        functionTable.lookup name = some function := by
  constructor
  · intro called
    unfold calledFunction? at called
    split at called
    · exact ⟨_, rfl, rfl, called⟩
    · cases called
  · rintro ⟨name, rfl, rfl, entry⟩
    exact entry

theorem allHaveType_iff {expected : ExprType} {expressions : List Expr} :
    allHaveType expected expressions = true ↔
      ∀ expression ∈ expressions, expected.accepts (typeOf? expression) = true := by
  induction expressions with
  | nil => simp [allHaveType]
  | cons first rest inductionHypothesis =>
      rw [allHaveType, Bool.and_eq_true, inductionHypothesis, List.forall_mem_cons]

theorem allLinksNumbers_iff {links : List (CompareOperator × Expr)} :
    allLinksNumbers links = true ↔
      ∀ link ∈ links, ExprType.number.accepts (typeOf? link.2) = true := by
  induction links with
  | nil => simp [allLinksNumbers]
  | cons first rest inductionHypothesis =>
      rw [allLinksNumbers, Bool.and_eq_true, inductionHypothesis, List.forall_mem_cons]

/-! ## Types are narrowest types -/

namespace ExprType

variable {found : Option ExprType}

theorem accepts_whole_iff {value : Int} :
    (whole value).accepts found = true ↔ found = some (.whole value) := by
  rw [accepts, beq_iff_eq] <;> simp

theorem accepts_float_iff : float.accepts found = true ↔ found = some .float := by
  rw [accepts, beq_iff_eq] <;> simp

theorem accepts_number_iff :
    number.accepts found = true ↔
      (∃ value, found = some (.whole value)) ∨ found = some .float ∨ found = some .number := by
  rcases found with _ | _ | _ | _ | _ <;> simp [accepts]

theorem accepts_test_iff :
    test.accepts found = true ↔ found = some .float ∨ found = some .test := by
  rcases found with _ | _ | _ | _ | _ <;> simp [accepts]

end ExprType

/-- An expression has every type that accepts its narrowest one. -/
theorem HasType.of_accepts {expression : Expr} {expected : ExprType}
    (narrowest : ∀ own, typeOf? expression = some own → HasType .written expression own)
    (accepted : expected.accepts (typeOf? expression) = true) :
    HasType .written expression expected := by
  cases expected with
  | whole value => exact narrowest _ (ExprType.accepts_whole_iff.1 accepted)
  | float => exact narrowest _ (ExprType.accepts_float_iff.1 accepted)
  | number =>
      rcases ExprType.accepts_number_iff.1 accepted with ⟨value, isWhole⟩ | isFloat | isNumber
      · exact .wholeNumber (narrowest _ isWhole)
      · exact .floatNumber (narrowest _ isFloat)
      · exact narrowest _ isNumber
  | test =>
      rcases ExprType.accepts_test_iff.1 accepted with isFloat | isTest
      · exact .floatTest (narrowest _ isFloat)
      · exact narrowest _ isTest

section Sound

variable {operand left right : Expr} {own : ExprType}
  {operandType leftType rightType : Option ExprType}

theorem HasType.of_unaryType? {operator : UnaryOperator}
    (operandTyped : ∀ expected, expected.accepts operandType = true →
      HasType .written operand expected)
    (found : unaryType? operator operandType = some own) :
    HasType .written (.unary operator operand) own := by
  unfold unaryType? at found
  split at found
  · cases found
    exact .wholePlus (operandTyped _ (ExprType.accepts_whole_iff.2 rfl))
  · obtain ⟨fits, ⟨rfl⟩⟩ := Option.ite_none_right_eq_some.1 found
    exact .wholeMinus (operandTyped _ (ExprType.accepts_whole_iff.2 rfl)) fits
  · cases found
    exact .sign (.inl rfl) (operandTyped _ (ExprType.accepts_float_iff.2 rfl))
  · cases found
    exact .sign (.inr rfl) (operandTyped _ (ExprType.accepts_float_iff.2 rfl))
  · obtain ⟨accepted, ⟨rfl⟩⟩ := Option.ite_none_right_eq_some.1 found
    exact .notTest (operandTyped _ accepted)
  · cases found

theorem HasType.of_binaryType? {operator : BinaryOperator}
    (leftTyped : ∀ expected, expected.accepts leftType = true → HasType .written left expected)
    (rightTyped : ∀ expected, expected.accepts rightType = true → HasType .written right expected)
    (found : binaryType? operator leftType rightType = some own) :
    HasType .written (.binary operator left right) own := by
  unfold binaryType? at found
  split at found
  · split at found
    · rename_i operation computes
      obtain ⟨fits, ⟨rfl⟩⟩ := Option.ite_none_right_eq_some.1 found
      exact .wholeBinary computes (leftTyped _ (ExprType.accepts_whole_iff.2 rfl))
        (rightTyped _ (ExprType.accepts_whole_iff.2 rfl)) fits
    · cases found
  · obtain ⟨accepted, ⟨rfl⟩⟩ := Option.ite_none_right_eq_some.1 found
    simp only [Bool.and_eq_true, Bool.or_eq_true, BinaryOperator.isAllowed_iff] at accepted
    obtain ⟨allowed, ⟨leftFloat, rightNumber⟩ | ⟨leftNumber, rightFloat⟩⟩ := accepted
    · exact .binaryFloatFirst allowed (leftTyped _ leftFloat) (rightTyped _ rightNumber)
    · exact .binaryFloatLast allowed (leftTyped _ leftNumber) (rightTyped _ rightFloat)

end Sound

/-- What is computed as the narrowest type is one. -/
theorem HasType.of_typeOf? {expression : Expr} {own : ExprType}
    (found : typeOf? expression = some own) : HasType .written expression own := by
  induction expression using Expr.structuralInduction generalizing own with
  | literal value =>
      cases value with
      | whole value =>
          rw [typeOf?] at found
          obtain ⟨fits, ⟨rfl⟩⟩ := Option.ite_none_right_eq_some.1 found
          exact .whole fits
      | real value =>
          rw [typeOf?] at found
          cases found
          exact .real rfl value
      | _ => simp [typeOf?] at found
  | name identifier =>
      rw [typeOf?] at found
      obtain ⟨notFunction, ⟨rfl⟩⟩ := Option.ite_none_left_eq_some.1 found
      exact .name (mt isFunctionName_iff.2 notFunction)
  | unary operator operand operandHypothesis =>
      rw [typeOf?] at found
      exact .of_unaryType? (fun _ => .of_accepts fun _ => operandHypothesis) found
  | binary operator left right leftHypothesis rightHypothesis =>
      rw [typeOf?] at found
      exact .of_binaryType? (fun _ => .of_accepts fun _ => leftHypothesis)
        (fun _ => .of_accepts fun _ => rightHypothesis) found
  | bool operator operands operandsHypothesis =>
      rw [typeOf?] at found
      obtain ⟨some, found⟩ := Option.ite_none_left_eq_some.1 found
      rw [List.isEmpty_iff] at some
      have typed : ∀ expected, allHaveType expected operands = true →
          ∀ operand ∈ operands, HasType .written operand expected := by
        intro expected all operand member
        exact .of_accepts (fun _ => operandsHypothesis operand member)
          (allHaveType_iff.1 all operand member)
      split at found
      · rename_i floats
        cases found
        exact .bool some (typed .float floats)
      · obtain ⟨tests, ⟨rfl⟩⟩ := Option.ite_none_right_eq_some.1 found
        exact .boolTest some (typed .test tests)
  | compare first links firstHypothesis linksHypothesis =>
      rw [typeOf?] at found
      obtain ⟨accepted, ⟨rfl⟩⟩ := Option.ite_none_right_eq_some.1 found
      simp only [Bool.and_eq_true, Bool.not_eq_true', List.isEmpty_eq_false_iff] at accepted
      obtain ⟨⟨some, firstNumber⟩, linksNumbers⟩ := accepted
      refine .compare some (.of_accepts (fun _ => firstHypothesis) firstNumber) ?_
      intro link member
      exact .of_accepts (fun _ => linksHypothesis link member)
        (allLinksNumbers_iff.1 linksNumbers link member)
  | conditional test body otherwise testHypothesis bodyHypothesis otherwiseHypothesis =>
      rw [typeOf?] at found
      obtain ⟨accepted, ⟨rfl⟩⟩ := Option.ite_none_right_eq_some.1 found
      simp only [Bool.and_eq_true] at accepted
      obtain ⟨⟨testTest, bodyFloat⟩, otherwiseFloat⟩ := accepted
      exact .conditional (.of_accepts (fun _ => testHypothesis) testTest)
        (.of_accepts (fun _ => bodyHypothesis) bodyFloat)
        (.of_accepts (fun _ => otherwiseHypothesis) otherwiseFloat)
  | call callee arguments keywordCount calleeHypothesis argumentsHypothesis =>
      rw [typeOf?] at found
      split at found
      · rename_i function called
        obtain ⟨name, rfl, rfl, entry⟩ := calledFunction?_eq_some_iff.1 called
        obtain ⟨accepted, ⟨rfl⟩⟩ := Option.ite_none_right_eq_some.1 found
        rw [Bool.and_eq_true, beq_iff_eq, allHaveType_iff] at accepted
        refine .call entry accepted.1 fun argument member => ?_
        exact .of_accepts (fun _ => argumentsHypothesis argument member)
          (accepted.2 argument member)
      · cases found
  | foreign kind parts => simp [typeOf?] at found

theorem binaryType?_eq_float {operator : BinaryOperator} {left right : Option ExprType}
    (allowed : operator ∈ arithmeticOperators)
    (float : ExprType.float.accepts left = true ∧ ExprType.number.accepts right = true ∨
      ExprType.number.accepts left = true ∧ ExprType.float.accepts right = true) :
    binaryType? operator left right = some .float := by
  unfold binaryType?
  split
  · simp [ExprType.accepts] at float
  · rw [BinaryOperator.isAllowed_iff.2 allowed, Bool.true_and, if_pos]
    rw [Bool.or_eq_true, Bool.and_eq_true, Bool.and_eq_true]
    exact float

/-- An expression has exactly the types that accept its narrowest one. -/
theorem hasType_iff {expression : Expr} {expected : ExprType} :
    HasType .written expression expected ↔ expected.accepts (typeOf? expression) = true := by
  refine ⟨fun typed => ?_, .of_accepts fun _ => .of_typeOf?⟩
  induction typed with
  | whole fits => simp [typeOf?, fits, ExprType.accepts]
  | wholePlus _ operandHypothesis =>
      rw [ExprType.accepts_whole_iff] at operandHypothesis ⊢
      rw [typeOf?, operandHypothesis, unaryType?]
  | wholeMinus _ fits operandHypothesis =>
      rw [ExprType.accepts_whole_iff] at operandHypothesis ⊢
      rw [typeOf?, operandHypothesis, unaryType?, if_pos fits]
  | wholeBinary computes _ _ fits leftHypothesis rightHypothesis =>
      rw [ExprType.accepts_whole_iff] at leftHypothesis rightHypothesis ⊢
      simp only [typeOf?, leftHypothesis, rightHypothesis, binaryType?, computes, if_pos fits]
  | real _ value => rfl
  | name notFunction =>
      rw [ExprType.accepts_float_iff, typeOf?, if_neg (mt isFunctionName_iff.1 notFunction)]
  | sign isSign _ operandHypothesis =>
      rw [ExprType.accepts_float_iff] at operandHypothesis ⊢
      rcases isSign with rfl | rfl <;> rw [typeOf?, operandHypothesis, unaryType?]
  | binaryFloatFirst allowed _ _ leftHypothesis rightHypothesis =>
      rw [ExprType.accepts_float_iff, typeOf?]
      exact binaryType?_eq_float allowed (.inl ⟨leftHypothesis, rightHypothesis⟩)
  | binaryFloatLast allowed _ _ leftHypothesis rightHypothesis =>
      rw [ExprType.accepts_float_iff, typeOf?]
      exact binaryType?_eq_float allowed (.inr ⟨leftHypothesis, rightHypothesis⟩)
  | call entry count _ argumentsHypothesis =>
      rw [ExprType.accepts_float_iff, typeOf?, calledFunction?, entry]
      simp [count, allHaveType_iff.2 argumentsHypothesis]
  | bool some _ operandsHypothesis =>
      rw [ExprType.accepts_float_iff, typeOf?, if_neg (by simpa using some),
        if_pos (allHaveType_iff.2 operandsHypothesis)]
  | conditional _ _ _ testHypothesis bodyHypothesis otherwiseHypothesis =>
      rw [ExprType.accepts_float_iff, typeOf?]
      simp [testHypothesis, bodyHypothesis, otherwiseHypothesis]
  | compare some _ _ firstHypothesis linksHypothesis =>
      rw [ExprType.accepts_test_iff, typeOf?]
      simp [firstHypothesis, allLinksNumbers_iff.2 linksHypothesis, some]
  | boolTest some _ operandsHypothesis =>
      rw [ExprType.accepts_test_iff, typeOf?, if_neg (by simpa using some),
        if_pos (allHaveType_iff.2 operandsHypothesis)]
      split <;> simp
  | notTest _ operandHypothesis =>
      simp [ExprType.accepts_test_iff, typeOf?, unaryType?, operandHypothesis]
  | wholeNumber _ hypothesis =>
      exact ExprType.accepts_number_iff.2 (.inl ⟨_, ExprType.accepts_whole_iff.1 hypothesis⟩)
  | floatNumber _ hypothesis =>
      exact ExprType.accepts_number_iff.2 (.inr (.inl (ExprType.accepts_float_iff.1 hypothesis)))
  | floatTest _ hypothesis =>
      exact ExprType.accepts_test_iff.2 (.inl (ExprType.accepts_float_iff.1 hypothesis))

instance {expression : Expr} {expected : ExprType} :
    Decidable (HasType .written expression expected) :=
  decidable_of_iff _ hasType_iff.symm

/-! ## Scripts -/

/-- Whether a statement's value is a float. -/
def isFloatStatement : Statement → Bool
  | .assign _ value => decide (HasType .written value .float)
  | .augmentedAssign (.name name) operator value =>
      decide (HasType .written (.binary operator (.name name) value) .float)
  | .expression value => decide (HasType .written value .float)
  | _ => false

theorem isFloatStatement_iff {statement : Statement} :
    isFloatStatement statement = true ↔ IsFloatStatement .written statement := by
  constructor
  · intro isFloat
    unfold isFloatStatement at isFloat
    split at isFloat
    · exact .assign (of_decide_eq_true isFloat)
    · exact .augmentedAssign (of_decide_eq_true isFloat)
    · exact .expression (of_decide_eq_true isFloat)
    · cases isFloat
  · rintro (valueTyped | resultTyped | valueTyped)
    · exact decide_eq_true valueTyped
    · exact decide_eq_true resultTyped
    · exact decide_eq_true valueTyped

instance {tree : List Statement} : Decidable (IsFloatScript tree) :=
  decidable_of_iff (∀ statement ∈ tree, isFloatStatement statement = true)
    (forall₂_congr fun _ _ => isFloatStatement_iff)

/-- Whether a text compiles to a script that only computes floats, as it can be computed. -/
def isFloatSource (source : String) : Bool :=
  (Grammar.parse? source).any fun tree =>
    decide (IsFloatScript tree) && ((checkTree tree).isOk && (reservedTarget? tree).isNone)

theorem exists_of_isFloatSource {source : String} (isFloat : isFloatSource source = true) :
    ∃ tree script, Grammar.parse? source = some tree ∧ IsFloatScript tree ∧
      compile source = .ok script := by
  rw [isFloatSource] at isFloat
  cases parsed : Grammar.parse? source with
  | none =>
      rw [parsed] at isFloat
      cases isFloat
  | some tree =>
      rw [parsed, Option.any_some, Bool.and_eq_true] at isFloat
      obtain ⟨typed, accepted⟩ := isFloat
      exact ⟨tree, _, rfl, of_decide_eq_true typed, compile_eq_ok_of_parse? parsed accepted⟩

end LiveGrid.Script
