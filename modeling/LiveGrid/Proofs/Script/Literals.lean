import LiveGrid.Proofs.Script.Meaning
import LiveGrid.Proofs.Script.Straight
import LiveGrid.Proofs.Script.TypedHoisting

/-!
Contract: moving real literals out of a tree keeps its meaning.

Owns:
- hoisted literals are numbered, so no two of them share a name;
- the names of a compiled script stand for what they stand for in its tree, and the names of
  literals for the literals;
- a compiled script computes the values of its tree, and gives the doubles that it means.

Does not own: which trees are scripts.
-/

namespace LiveGrid.Script

open Evaluation

/-! ## Numbered literals -/

theorem literalName_inj {first second : Nat} (same : literalName first = literalName second) :
    first = second := by
  have sameText : ("_k" ++ Number.Decimal.numeral first).toList =
      ("_k" ++ Number.Decimal.numeral second).toList := congrArg String.toList same
  rw [String.toList_append, String.toList_append, List.append_cancel_left_eq,
    Number.Decimal.numeral, Number.Decimal.numeral, String.toList_ofList,
    String.toList_ofList] at sameText
  have sameNumber := congrArg (Nat.ofDigitChars 10 · 0) sameText
  rw [Nat.ofDigitChars_ten_toDigits, Nat.ofDigitChars_ten_toDigits] at sameNumber
  exact sameNumber

/-- Whether the name of every literal tells how many literals were hoisted before it. -/
def IsNumbered (table : List (String × Float)) : Prop :=
  ∀ later entry earlier, table = later ++ entry :: earlier →
    entry.1 = literalName earlier.length

namespace IsNumbered

variable {table earlier : List (String × Float)}

theorem nil : IsNumbered [] := by
  intro later entry earlier split
  simp at split

theorem cons {value : Float} (numbered : IsNumbered table) :
    IsNumbered ((literalName table.length, value) :: table) := by
  intro later entry earlier split
  cases later with
  | nil =>
      cases split
      rfl
  | cons head later =>
      obtain ⟨-, splitTable⟩ := List.cons.inj split
      exact numbered later entry earlier splitTable

theorem of_suffix (numbered : IsNumbered table) (ends : earlier <:+ table) :
    IsNumbered earlier := by
  obtain ⟨front, rfl⟩ := ends
  intro later entry rest split
  refine numbered (front ++ later) entry rest ?_
  rw [split, List.append_assoc]

theorem exists_index (numbered : IsNumbered table) {name : String}
    (member : name ∈ table.map Prod.fst) : ∃ index < table.length, name = literalName index := by
  obtain ⟨entry, entryMember, rfl⟩ := List.mem_map.1 member
  obtain ⟨later, earlier, split⟩ := List.append_of_mem entryMember
  refine ⟨earlier.length, ?_, numbered later entry earlier split⟩
  rw [split, List.length_append, List.length_cons]
  omega

theorem not_mem_names (numbered : IsNumbered table) {index : Nat} (after : table.length ≤ index) :
    literalName index ∉ table.map Prod.fst := by
  intro member
  obtain ⟨other, below, same⟩ := numbered.exists_index member
  have := literalName_inj same
  omega

theorem nodup (numbered : IsNumbered table) : (table.map Prod.fst).Nodup := by
  induction table with
  | nil => exact List.nodup_nil
  | cons entry earlier inductionHypothesis =>
      have earlierNumbered : IsNumbered earlier := numbered.of_suffix (List.suffix_cons _ _)
      have entryName : entry.1 = literalName earlier.length := numbered [] entry earlier rfl
      rw [List.map_cons, List.nodup_cons, entryName]
      exact ⟨earlierNumbered.not_mem_names (Nat.le_refl _), inductionHypothesis earlierNumbered⟩

theorem lookup_reverse_eq_none (numbered : IsNumbered table) {name : String}
    (other : ∀ index, name ≠ literalName index) : table.reverse.lookup name = none := by
  rw [← Option.not_isSome_iff_eq_none, isSome_lookup_iff, List.map_reverse, List.mem_reverse]
  intro member
  obtain ⟨index, -, same⟩ := numbered.exists_index member
  exact other index same

/-- A hoisted literal is found under its name, whatever is hoisted after it. -/
theorem lookup_reverse_literalName (numbered : IsNumbered table) {value : Float}
    (ends : (literalName earlier.length, value) :: earlier <:+ table) :
    table.reverse.lookup (literalName earlier.length) = some value := by
  have notEarlier : earlier.reverse.lookup (literalName earlier.length) = none := by
    rw [← Option.not_isSome_iff_eq_none, isSome_lookup_iff, List.map_reverse, List.mem_reverse]
    have earlierNumbered := numbered.of_suffix ((List.suffix_cons _ _).trans ends)
    exact earlierNumbered.not_mem_names (Nat.le_refl _)
  obtain ⟨later, rfl⟩ := ends
  rw [List.reverse_append, List.reverse_cons, List.append_assoc, List.lookup_append, notEarlier,
    Option.none_or, List.singleton_append, List.lookup_cons_self]

end IsNumbered

/-- Whether a step leaves literals numbered. -/
def KeepsNumbered {Result : Type} (action : Hoisting Result) : Prop :=
  ∀ bound, IsNumbered bound → IsNumbered (action.run bound).2

namespace KeepsNumbered

variable {First Second : Type}

protected theorem pure {value : First} : KeepsNumbered (pure value : Hoisting First) :=
  fun _ numbered => numbered

protected theorem bind {action : Hoisting First} {next : First → Hoisting Second}
    (first : KeepsNumbered action) (second : ∀ value, KeepsNumbered (next value)) :
    KeepsNumbered (action >>= next) :=
  fun bound numbered => second _ _ (first bound numbered)

theorem hoistReal {value : Float} : KeepsNumbered (hoistReal value) :=
  fun _ numbered => numbered.cons

theorem hoistAll {expressions : List Expr}
    (each : ∀ expression ∈ expressions, KeepsNumbered (hoistExpr expression)) :
    KeepsNumbered (hoistAll expressions) := by
  induction expressions with
  | nil => exact KeepsNumbered.pure
  | cons first rest inductionHypothesis =>
      obtain ⟨firstKeeps, restKeep⟩ := List.forall_mem_cons.1 each
      rw [Script.hoistAll]
      exact firstKeeps.bind fun _ => (inductionHypothesis restKeep).bind fun _ =>
        KeepsNumbered.pure

theorem hoistLinks {links : List (CompareOperator × Expr)}
    (each : ∀ link ∈ links, KeepsNumbered (hoistExpr link.2)) :
    KeepsNumbered (hoistLinks links) := by
  induction links with
  | nil => exact KeepsNumbered.pure
  | cons first rest inductionHypothesis =>
      obtain ⟨firstKeeps, restKeep⟩ := List.forall_mem_cons.1 each
      rw [Script.hoistLinks]
      exact firstKeeps.bind fun _ => (inductionHypothesis restKeep).bind fun _ =>
        KeepsNumbered.pure

theorem hoistExpr {expression : Expr} : KeepsNumbered (hoistExpr expression) := by
  induction expression using Expr.structuralInduction with
  | literal value =>
      cases value with
      | real value => exact hoistReal
      | _ => exact KeepsNumbered.pure
  | name identifier => exact KeepsNumbered.pure
  | unary operator operand operandKeeps =>
      rw [Script.hoistExpr]
      exact operandKeeps.bind fun _ => KeepsNumbered.pure
  | binary operator left right leftKeeps rightKeeps =>
      rw [Script.hoistExpr]
      exact leftKeeps.bind fun _ => rightKeeps.bind fun _ => KeepsNumbered.pure
  | bool operator operands operandsKeep =>
      rw [Script.hoistExpr]
      exact (hoistAll operandsKeep).bind fun _ => KeepsNumbered.pure
  | compare first links firstKeeps linksKeep =>
      rw [Script.hoistExpr]
      exact firstKeeps.bind fun _ => (hoistLinks linksKeep).bind fun _ => KeepsNumbered.pure
  | conditional test body otherwise testKeeps bodyKeeps otherwiseKeeps =>
      rw [Script.hoistExpr]
      exact testKeeps.bind fun _ => bodyKeeps.bind fun _ => otherwiseKeeps.bind fun _ =>
        KeepsNumbered.pure
  | call function arguments keywordCount functionKeeps argumentsKeep =>
      rw [Script.hoistExpr]
      exact functionKeeps.bind fun _ => (hoistAll argumentsKeep).bind fun _ =>
        KeepsNumbered.pure
  | foreign kind parts => exact KeepsNumbered.pure

theorem hoistStatement {statement : Statement} : KeepsNumbered (hoistStatement statement) := by
  cases statement with
  | foreign kind => exact KeepsNumbered.pure
  | _ =>
      rw [Script.hoistStatement]
      exact hoistExpr.bind fun _ => KeepsNumbered.pure

theorem hoistStatements {statements : List Statement} :
    KeepsNumbered (hoistStatements statements) := by
  induction statements with
  | nil => exact KeepsNumbered.pure
  | cons first rest inductionHypothesis =>
      rw [Script.hoistStatements]
      exact hoistStatement.bind fun _ => inductionHypothesis.bind fun _ => KeepsNumbered.pure

end KeepsNumbered

/-! ## Names of a compiled script -/

/-- Names of a cell that a script may assign to. -/
def AreAssignable (locals : List (String × Value)) : Prop :=
  ∀ name, (locals.lookup name).isSome = true → IsAssignable name

theorem AreAssignable.assign {locals : List (String × Value)} (assignable : AreAssignable locals)
    {name : String} (isAssignable : IsAssignable name) (value : Value) :
    AreAssignable ((name, value) :: locals) := by
  intro other isLocal
  by_cases same : other = name
  · rw [same]
    exact isAssignable
  · rw [List.lookup_cons, beq_eq_false_iff_ne.2 same] at isLocal
    exact assignable other isLocal

variable {table : List (String × Float)} {compiled written : Scope}

/-- Two scopes with the same names of the cell: one over the names of a compiled script, and one
over those that all scripts share. -/
structure Scope.Compiles (table : List (String × Float)) (compiled written : Scope) : Prop where
  numbered : IsNumbered table
  localsSame : compiled.locals = written.locals
  assignable : AreAssignable written.locals
  compiledShared : compiled.shared = sharedNames table
  writtenShared : written.shared = standardNames

namespace Scope.Compiles

theorem assign (compiles : Compiles table compiled written) {name : String}
    (isAssignable : IsAssignable name) (value : Value) :
    Compiles table (compiled.assign name value) (written.assign name value) where
  numbered := compiles.numbered
  localsSame := congrArg ((name, value) :: ·) compiles.localsSame
  assignable := compiles.assignable.assign isAssignable value
  compiledShared := compiles.compiledShared
  writtenShared := compiles.writtenShared

/-- The names of literals cover no other name. -/
theorem lookup?_eq (compiles : Compiles table compiled written) {name : String}
    (visible : ¬ name.startsWith "_" = true) : compiled.lookup? name = written.lookup? name := by
  have other : ∀ index, name ≠ literalName index := by
    rintro index rfl
    exact visible literalName_startsWith
  have notLiteral : (table.reverse.map fun entry =>
      (entry.1, Value.machine (.double entry.2))).lookup name = none := by
    rw [lookup_map_snd (fun number => Value.machine (Machine.double number)),
      compiles.numbered.lookup_reverse_eq_none other]
    rfl
  rw [Scope.lookup?, Scope.lookup?, compiles.localsSame, compiles.compiledShared,
    compiles.writtenShared, sharedNames, List.lookup_append, notLiteral, Option.or_none]

theorem not_mem_standardNames {name : String} (hidden : name.startsWith "_" = true) :
    name ∉ standardNames.map Prod.fst := by
  have each : ∀ name ∈ standardNames.map Prod.fst, ¬ name.startsWith "_" = true := by
    decide +kernel
  exact fun member => each name member hidden

/-- The name of a literal stands for the literal. -/
theorem lookup?_literalName (compiles : Compiles table compiled written)
    {bound : List (String × Float)} {value : Float}
    (ends : (literalName bound.length, value) :: bound <:+ table) :
    compiled.lookup? (literalName bound.length) = some (.machine (.double value)) := by
  have notLocal : compiled.locals.lookup (literalName bound.length) = none := by
    rw [compiles.localsSame, ← Option.not_isSome_iff_eq_none]
    exact fun isLocal => (compiles.assignable _ isLocal).visible literalName_startsWith
  have notStandard : standardNames.lookup (literalName bound.length) = none := by
    rw [← Option.not_isSome_iff_eq_none, isSome_lookup_iff]
    exact not_mem_standardNames literalName_startsWith
  rw [Scope.lookup?, notLocal, compiles.compiledShared, sharedNames, List.lookup_append,
    notStandard, Option.none_or,
    lookup_map_snd (fun number => Value.machine (Machine.double number)),
    compiles.numbered.lookup_reverse_literalName ends]
  rfl

end Scope.Compiles

/-! ## Expressions -/

/-- Whether a hoisted expression has the value of the written one. -/
def HasMeaning (expression : Expr) (table : List (String × Float)) (hoisted : Expr) : Prop :=
  ∀ {compiled written : Scope}, compiled.Compiles table written →
    evaluateExpr compiled hoisted = Reading.plain.expr written expression

theorem evaluateOperands_cons_cons {scope : Scope} {operator : BoolOperator} {first second : Expr}
    {rest : List Expr} :
    evaluateOperands scope operator (first :: second :: rest) =
      evaluateExpr scope first >>= fun value =>
        if value.isTrue == (operator == .or) then pure value
        else evaluateOperands scope operator (second :: rest) := by
  rw [evaluateOperands]
  simp

theorem evaluateLinks_cons_cons {scope : Scope} {left : Value} {operator : CompareOperator}
    {expression : Expr} {second : CompareOperator × Expr}
    {rest : List (CompareOperator × Expr)} :
    evaluateLinks scope left ((operator, expression) :: second :: rest) =
      evaluateExpr scope expression >>= fun right =>
        Evaluation.ofExcept (Value.compare operator left right) >>= fun outcome =>
          if outcome.isTrue then evaluateLinks scope right (second :: rest) else pure outcome := by
  rw [evaluateLinks]
  simp

theorem hoists_exprs {expressions : List Expr}
    (each : ∀ expression ∈ expressions, Hoists (HasMeaning expression) (hoistExpr expression)) :
    Hoists (fun table hoisted => ∀ {compiled written : Scope}, compiled.Compiles table written →
      evaluateAll compiled hoisted = Reading.plain.exprs written expressions)
      (hoistAll expressions) := by
  induction expressions with
  | nil =>
      refine Hoists.pure fun table compiled written compiles => ?_
      rw [evaluateAll, Reading.exprs]
  | cons first rest inductionHypothesis =>
      obtain ⟨firstMeans, restMean⟩ := List.forall_mem_cons.1 each
      rw [hoistAll]
      refine firstMeans.bind fun first' => (inductionHypothesis restMean).bind fun rest' => ?_
      refine Hoists.pure fun table restMean firstMeans compiled written compiles => ?_
      rw [evaluateAll, Reading.exprs, firstMeans compiles, restMean compiles]

theorem hoists_junction (operator : BoolOperator) {operands : List Expr}
    (each : ∀ operand ∈ operands, Hoists (HasMeaning operand) (hoistExpr operand)) :
    Hoists (fun table hoisted => ∀ {compiled written : Scope}, compiled.Compiles table written →
      evaluateOperands compiled operator hoisted =
        Reading.plain.junction written operator operands) (hoistAll operands) := by
  induction operands with
  | nil =>
      refine Hoists.pure fun table compiled written compiles => ?_
      rw [evaluateOperands, Reading.junction]
  | cons first rest inductionHypothesis =>
      obtain ⟨firstMeans, restMean⟩ := List.forall_mem_cons.1 each
      have restHoists : Hoists (fun table hoisted => _ ∧ hoisted.length = rest.length)
          (hoistAll rest) :=
        (inductionHypothesis restMean).and_result fun _ => length_hoistAll
      rw [hoistAll]
      refine firstMeans.bind fun first' => restHoists.bind fun rest' => ?_
      refine Hoists.pure fun table restHoisted firstMeans compiled written compiles => ?_
      obtain ⟨restMean, sameLength⟩ := restHoisted
      cases rest with
      | nil =>
          obtain rfl := List.length_eq_zero_iff.1 sameLength
          rw [evaluateOperands, Reading.junction, firstMeans compiles]
      | cons second others =>
          obtain ⟨second', others', rfl⟩ := List.exists_cons_of_length_eq_add_one sameLength
          rw [evaluateOperands_cons_cons, Reading.junction_cons_cons, firstMeans compiles,
            restMean compiles]

theorem hoists_chain {links : List (CompareOperator × Expr)}
    (each : ∀ link ∈ links, Hoists (HasMeaning link.2) (hoistExpr link.2)) :
    Hoists (fun table hoisted => ∀ {compiled written : Scope}, compiled.Compiles table written →
      ∀ left, evaluateLinks compiled left hoisted = Reading.plain.chain written left links)
      (hoistLinks links) := by
  induction links with
  | nil =>
      refine Hoists.pure fun table compiled written compiles left => ?_
      rw [evaluateLinks, Reading.chain]
  | cons first rest inductionHypothesis =>
      obtain ⟨operator, expression⟩ := first
      obtain ⟨firstMeans, restMean⟩ := List.forall_mem_cons.1 each
      have restHoists : Hoists (fun table hoisted => _ ∧ hoisted.length = rest.length)
          (hoistLinks rest) :=
        (inductionHypothesis restMean).and_result fun _ => length_hoistLinks
      rw [hoistLinks]
      refine firstMeans.bind fun expression' => restHoists.bind fun rest' => ?_
      refine Hoists.pure fun table restHoisted firstMeans compiled written compiles left => ?_
      obtain ⟨restMean, sameLength⟩ := restHoisted
      cases rest with
      | nil =>
          obtain rfl := List.length_eq_zero_iff.1 sameLength
          rw [evaluateLinks, Reading.chain, firstMeans compiles]
          rfl
      | cons second others =>
          obtain ⟨second', others', rfl⟩ := List.exists_cons_of_length_eq_add_one sameLength
          rw [evaluateLinks_cons_cons, Reading.chain_cons_cons, firstMeans compiles]
          refine bind_congr fun right => bind_congr fun outcome => ?_
          rw [restMean compiles right]

/-- An expression with names for its real literals has the value that it has as it is written. -/
theorem hoists_hasMeaning {known : String → Prop} {expression : Expr}
    (visible : ∀ name, known name → ¬ name.startsWith "_" = true)
    (formed : WellFormed known expression) :
    Hoists (HasMeaning expression) (hoistExpr expression) := by
  induction formed with
  | whole value | truth value => exact Hoists.pure fun table compiled written compiles => rfl
  | real value =>
      refine fun bound => ⟨List.suffix_cons _ _, fun table ends compiled written compiles => ?_⟩
      show readName compiled (literalName bound.length) = pure (.machine (.double value))
      rw [readName, compiles.lookup?_literalName ends]
  | name reachable =>
      refine Hoists.pure fun table compiled written compiles => ?_
      have isVisible := reachable.elim (visible _) IsFunction.visible
      rw [evaluateExpr, Reading.expr, readName, compiles.lookup?_eq isVisible]
      rfl
  | unary _ _ operandMeans =>
      rw [hoistExpr]
      refine operandMeans.bind fun operand' => ?_
      refine Hoists.pure fun table operandMeans compiled written compiles => ?_
      rw [evaluateExpr, Reading.expr, operandMeans compiles]
      rfl
  | binary _ _ _ leftMeans rightMeans =>
      rw [hoistExpr]
      refine leftMeans.bind fun left' => rightMeans.bind fun right' => ?_
      refine Hoists.pure fun table rightMeans leftMeans compiled written compiles => ?_
      rw [evaluateExpr, Reading.expr, leftMeans compiles, rightMeans compiles]
      rfl
  | @bool operator _ _ operandsMean =>
      rw [hoistExpr]
      refine (hoists_junction operator operandsMean).bind fun operands' => ?_
      refine Hoists.pure fun table operandsMean compiled written compiles => ?_
      rw [evaluateExpr, Reading.expr, operandsMean compiles]
  | compare _ _ _ firstMeans linksMean =>
      rw [hoistExpr]
      refine firstMeans.bind fun first' => (hoists_chain linksMean).bind fun links' => ?_
      refine Hoists.pure fun table linksMean firstMeans compiled written compiles => ?_
      rw [evaluateExpr, Reading.expr, firstMeans compiles]
      exact bind_congr (linksMean compiles)
  | conditional _ _ _ testMeans bodyMeans otherwiseMeans =>
      rw [hoistExpr]
      refine testMeans.bind fun test' => bodyMeans.bind fun body' =>
        otherwiseMeans.bind fun otherwise' => ?_
      refine Hoists.pure fun table otherwiseMeans bodyMeans testMeans compiled written
        compiles => ?_
      rw [evaluateExpr, Reading.expr, testMeans compiles, bodyMeans compiles,
        otherwiseMeans compiles]
  | call isFunction _ argumentsMean =>
      rw [hoistExpr, hoistExpr, pure_bind]
      refine (hoists_exprs argumentsMean).bind fun arguments' => ?_
      refine Hoists.pure fun table argumentsMean compiled written compiles => ?_
      rw [evaluateExpr, Reading.expr, evaluateExpr, Reading.expr, readName,
        compiles.lookup?_eq isFunction.visible, argumentsMean compiles]
      rfl

/-! ## Statements -/

/-- A statement with names for its real literals does to the names of a cell what it does as it is
written. -/
theorem hoists_statement {known : String → Prop} {statement : Statement}
    (visible : ∀ name, known name → ¬ name.startsWith "_" = true)
    (formed : WellFormedStatement known statement) :
    Hoists (fun table hoisted => ∀ {compiled written : Scope}, compiled.Compiles table written →
      Relates Eq (Scope.Compiles table) (runStatement compiled hoisted)
        (Reading.plain.statement written statement)) (hoistStatement statement) := by
  cases formed with
  | expression valueFormed =>
      refine (hoists_hasMeaning visible valueFormed).bind fun value' => ?_
      refine Hoists.pure fun table valueMeans compiled written compiles => ?_
      rw [runStatement, Reading.statement, valueMeans compiles]
      exact Relates.bind_same (fun _ => rfl) fun _ => Relates.pure compiles
  | assign assignable valueFormed =>
      refine (hoists_hasMeaning visible valueFormed).bind fun value' => ?_
      refine Hoists.pure fun table valueMeans compiled written compiles => ?_
      rw [runStatement, Reading.statement, valueMeans compiles]
      exact Relates.bind_same (fun _ => rfl) fun value =>
        Relates.pure (compiles.assign assignable value)
  | @augmentedAssign name operator value assignable isKnown _ valueFormed =>
      refine (hoists_hasMeaning visible valueFormed).bind fun value' => ?_
      refine Hoists.pure fun table valueMeans compiled written compiles => ?_
      have sameName : readName compiled name = readName written name := by
        rw [readName, readName, compiles.lookup?_eq (visible name isKnown)]
      rw [runStatement, Reading.statement, valueMeans compiles, sameName]
      refine Relates.bind_same (fun _ => rfl) fun current => ?_
      refine Relates.bind_same (fun _ => rfl) fun operand => ?_
      refine Relates.bind_same (fun _ => rfl) fun result => ?_
      exact Relates.pure (compiles.assign assignable result)

theorem visible_knownAfter_singleton {known : String → Prop} {statement : Statement}
    (visible : ∀ name, known name → ¬ name.startsWith "_" = true)
    (formed : WellFormedStatement known statement) {name : String}
    (isKnown : KnownAfter known [statement] name) : ¬ name.startsWith "_" = true := by
  rcases knownAfter_singleton.1 isKnown with knownBefore | assigned
  · exact visible name knownBefore
  · obtain ⟨value, rfl⟩ := Statement.assigned?_eq_some_iff.1 assigned
    cases formed with
    | assign assignable _ => exact assignable.visible

theorem hoists_statements {known : String → Prop} {statements : List Statement}
    (visible : ∀ name, known name → ¬ name.startsWith "_" = true)
    (formed : WellFormedStatements known statements) :
    Hoists (fun table hoisted => ∀ {compiled written : Scope}, compiled.Compiles table written →
      Relates Eq (Scope.Compiles table) (runStatements compiled hoisted)
        (Reading.plain.statements written statements)) (hoistStatements statements) := by
  induction statements generalizing known with
  | nil =>
      refine Hoists.pure fun table compiled written compiles => ?_
      rw [runStatements, Reading.statements]
      exact Relates.pure compiles
  | cons first rest inductionHypothesis =>
      obtain ⟨firstFormed, restFormed⟩ := wellFormedStatements_cons.1 formed
      have restRelates := inductionHypothesis
        (fun _ => visible_knownAfter_singleton visible firstFormed) restFormed
      rw [hoistStatements]
      refine (hoists_statement visible firstFormed).bind fun first' =>
        restRelates.bind fun rest' => ?_
      refine Hoists.pure fun table restRelates firstRelates compiled written compiles => ?_
      rw [runStatements, Reading.statements]
      exact (firstRelates compiles).bind fun _ _ afterCompiles => restRelates afterCompiles

/-! ## Scripts -/

/-- The result that hoisted statements keep is the value of the last written one. -/
theorem hoists_script {tree : List Statement} (isScript : IsScript tree) :
    Hoists (fun table hoisted => ∀ {compiled written : Scope}, compiled.Compiles table written →
      (runStatements compiled hoisted >>= fun scope => readName ⟨scope.locals, []⟩ resultName) =
        Reading.plain.body written tree) (hoistStatements (keepResult tree)) := by
  obtain ⟨earlier, value, rfl, earlierFormed, valueFormed⟩ := isScript
  rw [keepResult_append, hoistStatements_append]
  refine (hoists_statements (fun _ initial => initial.visible) earlierFormed).bind
    fun earlier' => ?_
  rw [hoistStatement, bind_assoc]
  refine (hoists_hasMeaning (fun _ isKnown => visible_of_knownAfter earlierFormed isKnown)
    valueFormed).bind fun value' => ?_
  rw [pure_bind]
  refine Hoists.pure fun table valueMeans earlierRelates compiled written compiles => ?_
  rw [runStatements_append, Reading.plain.body_append (List.cons_ne_nil _ _), bind_assoc]
  refine (earlierRelates compiles).bind_eq fun scope writtenScope scopeCompiles => ?_
  rw [runStatements, runStatement, Reading.body, valueMeans scopeCompiles, bind_assoc, bind_assoc]
  refine (bind_congr fun result => ?_).trans (bind_pure _)
  rw [pure_bind, runStatements, pure_bind, readName, Scope.lookup?, Scope.assign,
    List.lookup_cons_self]

/-- A cell of a compiled script starts with the names that its tree starts with. -/
theorem compiles_inputs (source : String) (tree : List Statement) (inputs : Inputs) :
    Scope.Compiles ((hoistStatements (keepResult tree)).run []).2
      ⟨inputs.names, (ofTree source tree).shared⟩ ⟨inputs.names, standardNames⟩ where
  numbered := KeepsNumbered.hoistStatements [] IsNumbered.nil
  localsSame := rfl
  assignable _ isLocal := isAssignable_of_mem_inputNames (isSome_lookup_iff.1 isLocal)
  compiledShared := rfl
  writtenShared := rfl

/-- The value that a script computes for the inputs of a cell, before it becomes a double. -/
def lastValue (script : Script) (inputs : Inputs) : Evaluation Value := do
  let scope ← runStatements ⟨inputs.names, script.shared⟩ script.statements
  readName ⟨scope.locals, []⟩ resultName

theorem evaluate_eq_lastValue (script : Script) (inputs : Inputs) :
    script.evaluate inputs =
      script.lastValue inputs >>= fun result => Evaluation.ofExcept result.toCell := by
  rw [lastValue, bind_assoc]
  rfl

/-- A compiled script computes the value of its tree. -/
theorem lastValue_ofTree (source : String) {tree : List Statement} (isScript : IsScript tree)
    (inputs : Inputs) : (ofTree source tree).lastValue inputs = Reading.plain.tree inputs tree :=
  (hoists_script isScript []).2 _ (List.suffix_refl _) (compiles_inputs source tree inputs)

/-- A compiled script gives the doubles that its tree means. -/
theorem evaluate_ofTree (source : String) {tree : List Statement} (isScript : IsScript tree) :
    (ofTree source tree).evaluate = meaning tree := by
  funext inputs
  rw [evaluate_eq_lastValue, lastValue_ofTree source isScript, meaning]

end LiveGrid.Script
