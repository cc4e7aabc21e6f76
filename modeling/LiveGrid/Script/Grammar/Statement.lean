import LiveGrid.Script.Grammar.Pattern
import LiveGrid.Script.Token.Scan

/-!
Contract: the grammar of statements, and the syntax tree of a whole script.

Owns:
- assignments and expressions as statements, which scripts use;
- all other statements, simple and with blocks, which are read for their kind only;
- the syntax tree of a text, if it has one.

A text has no tree if it cannot be cut into tokens or if the tokens are not
statements. Which fault it has is not told.

Does not own: which trees are scripts.
-/

namespace LiveGrid.Script.Grammar

open Reading

/-- The operator of an assignment with an operator. -/
def assignOperator? : Token → Option BinaryOperator
  | .mark "+=" => some .add
  | .mark "-=" => some .subtract
  | .mark "*=" => some .multiply
  | .mark "/=" => some .divide
  | .mark "//=" => some .floorDivide
  | .mark "%=" => some .modulo
  | .mark "**=" => some .power
  | .mark "@=" => some .matrixMultiply
  | .mark "<<=" => some .shiftLeft
  | .mark ">>=" => some .shiftRight
  | .mark "|=" => some .bitOr
  | .mark "^=" => some .bitXor
  | .mark "&=" => some .bitAnd
  | _ => none

/-- Whether a token ends a simple statement. -/
def endsStatement : Token → Bool
  | .mark ";" => true
  | .lineEnd => true
  | _ => false

/-- The value of an assignment. -/
def assignedValue (fuel : Nat) : Reading Expr := do
  if ← nextIs (Token.isKeyword "yield") then yieldExpression fuel else starExpressions fuel

/-- The values of a chain of assignments: all but the last one are targets. -/
def assignChain : Nat → Reading (List Expr)
  | 0 => failure
  | fuel + 1 => do
      if ← acceptMark "=" then
        let value ← assignedValue fuel
        let more ← assignChain fuel
        pure (value :: more)
      else pure []

/-- The assignment of the last value of a chain to all before it, which have to be targets. -/
def assignStatement (values : List Expr) : Reading Statement := do
  match values.reverse with
  | value :: targets =>
      require (targets.all isTarget)
      pure (.assign targets.reverse value)
  | [] => failure

/-- An expression statement or an assignment. -/
def expressionStatement (fuel : Nat) : Reading Statement := do
  let first ← assignedValue fuel
  match (← peek).bind assignOperator? with
  | some operator =>
      require (isSingleTarget first)
      need fun _ => true
      let value ← assignedValue fuel
      pure (.augmentedAssign first operator value)
  | none =>
      if ← acceptMark ":" then
        require (isSingleTarget first)
        let _ ← expression fuel
        if ← acceptMark "=" then
          let _ ← assignedValue fuel
        pure (.foreign .annotatedAssign)
      else
        let more ← assignChain fuel
        if more.isEmpty then pure (.expression first)
        else assignStatement (first :: more)

/-- The module that names are imported from: leading dots and a dotted name. -/
def importSource (fuel : Nat) : Reading Unit := do
  let dots ← whileNext (fun token => token.isMark "." || token.isMark "...")
    (need fun _ => true) fuel
  if dots.isEmpty || !(← nextIs (Token.isKeyword "import")) then
    let _ ← dottedName fuel
    pure ()

/-- A name with perhaps another one for it. -/
def renamed (reading : Reading Unit) : Reading Unit := do
  reading
  if ← acceptKeyword "as" then
    let _ ← name
    pure ()

/-- The names of an import. -/
def importedNames (fuel : Nat) : Reading Unit := do
  let single := renamed (do let _ ← name)
  if ← acceptMark "*" then pure ()
  else if ← acceptMark "(" then
    let _ ← items single fuel
    mark ")"
  else
    let _ ← strictItems single fuel
    pure ()

/-- Whether expressions may be deleted: targets without stars. -/
def isDeletable : Nat → Expr → Bool
  | 0, _ => false
  | fuel + 1, .foreign .tuple parts => parts.all (isDeletable fuel)
  | fuel + 1, .foreign .list parts => parts.all (isDeletable fuel)
  | _ + 1, other => isSingleTarget other

/-- A simple statement. -/
def simpleStatement (fuel : Nat) : Reading Statement := do
  let kind (statement : ForeignStatement) : Reading Statement := pure (.foreign statement)
  if ← acceptKeyword "return" then
    let _ ← attempt (starExpressions fuel)
    kind .returnValue
  else if ← acceptKeyword "import" then
    let _ ← strictItems (renamed (do let _ ← dottedName fuel)) fuel
    kind .importModules
  else if ← acceptKeyword "from" then
    importSource fuel
    keyword "import"
    importedNames fuel
    kind .importNames
  else if ← acceptKeyword "raise" then
    if ← nextIs endsStatement then kind .raise
    else
      let _ ← expression fuel
      if ← acceptKeyword "from" then
        let _ ← expression fuel
      kind .raise
  else if ← acceptKeyword "pass" then kind .pass
  else if ← acceptKeyword "break" then kind .break
  else if ← acceptKeyword "continue" then kind .continue
  else if ← acceptKeyword "del" then
    let (results, _) ← items (binary fuel 0) fuel
    require (results.all (isDeletable fuel))
    kind .delete
  else if ← acceptKeyword "assert" then
    let _ ← expression fuel
    if ← acceptMark "," then
      let _ ← expression fuel
    kind .assert
  else if ← acceptKeyword "global" then
    let _ ← strictItems name fuel
    kind .globalNames
  else if ← acceptKeyword "nonlocal" then
    let _ ← strictItems name fuel
    kind .nonlocalNames
  else expressionStatement fuel

/-- Whether a token ends a line. -/
def isLineEnd : Token → Bool
  | .lineEnd => true
  | _ => false

/-- Simple statements on one line, with semicolons between them and perhaps one at the end. -/
def simpleStatements (fuel : Nat) : Nat → Reading (List Statement)
  | 0 => failure
  | bound + 1 => do
      let first ← simpleStatement fuel
      if ← accept (fun token => token.isMark ";") then
        if ← accept isLineEnd then pure [first]
        else
          let more ← simpleStatements fuel bound
          pure (first :: more)
      else
        need isLineEnd
        pure [first]

/-- Whether a token opens a block. -/
def isIndent : Token → Bool
  | .indent => true
  | _ => false

/-- Whether a token closes a block. -/
def isDedent : Token → Bool
  | .dedent => true
  | _ => false

/-- The context of a `with` statement: expressions, each with perhaps a target. -/
def contextItem (fuel : Nat) : Reading Unit := do
  let _ ← expression fuel
  if ← acceptKeyword "as" then
    let starred ← acceptMark "*"
    let target ← binary fuel 0
    require (isTarget target && !(starred && isStarred target))
    if (← nextIs (Token.isMark ",")) || (← nextIs (Token.isMark ")")) ||
        (← nextIs (Token.isMark ":")) then pure ()
    else failure

mutual

/-- The statements of a block, or nothing if none comes. -/
def statements : Nat → Reading (List Statement)
  | 0 => failure
  | fuel + 1 => do
      match ← peek with
      | none => pure []
      | some .dedent => pure []
      | some _ =>
          let first ← statement fuel
          let more ← statements fuel
          pure (first ++ more)

/-- A statement with blocks, or a line of simple statements. -/
def statement : Nat → Reading (List Statement)
  | 0 => failure
  | fuel + 1 => do
      let kind (statement : ForeignStatement) : Reading (List Statement) :=
        pure [.foreign statement]
      if ← nextIs (Token.isMark "@") then
        decorators fuel
        if ← nextIs (Token.isKeyword "class") then
          classDefinition fuel
          kind .classDefinition
        else if ← acceptKeyword "async" then
          functionDefinition fuel
          kind .asyncFunctionDefinition
        else
          functionDefinition fuel
          kind .functionDefinition
      else if ← nextIs (Token.isKeyword "class") then
        classDefinition fuel
        kind .classDefinition
      else if ← nextIs (Token.isKeyword "def") then
        functionDefinition fuel
        kind .functionDefinition
      else if ← acceptKeyword "async" then
        if ← nextIs (Token.isKeyword "def") then
          functionDefinition fuel
          kind .asyncFunctionDefinition
        else if ← nextIs (Token.isKeyword "for") then
          forLoop fuel
          kind .asyncForLoop
        else
          withBlock fuel
          kind .asyncWithBlock
      else if ← acceptKeyword "if" then
        branch fuel
        kind .conditional
      else if ← nextIs (Token.isKeyword "for") then
        forLoop fuel
        kind .forLoop
      else if ← acceptKeyword "while" then
        let _ ← namedExpression fuel
        block fuel
        otherwise fuel
        kind .whileLoop
      else if ← nextIs (Token.isKeyword "with") then
        withBlock fuel
        kind .withBlock
      else if ← acceptKeyword "try" then
        tryBlock fuel
      else if ← nextIs (Token.isName "match") then
        orElse
          (do
            matchBlock fuel
            kind .matchBlock)
          (simpleStatements fuel fuel)
      else simpleStatements fuel fuel

/-- A colon and a block: a line of simple statements, or indented lines. -/
def block : Nat → Reading Unit
  | 0 => failure
  | fuel + 1 => do
      mark ":"
      if ← accept isLineEnd then
        need isIndent
        let results ← statements fuel
        require !results.isEmpty
        need isDedent
      else
        let _ ← simpleStatements fuel fuel
        pure ()

/-- The expressions before a definition, each on a line. -/
def decorators : Nat → Reading Unit
  | 0 => failure
  | fuel + 1 => do
      if ← acceptMark "@" then
        let _ ← namedExpression fuel
        need isLineEnd
        decorators fuel

/-- A class. -/
def classDefinition : Nat → Reading Unit
  | 0 => failure
  | fuel + 1 => do
      keyword "class"
      let _ ← name
      if ← acceptMark "(" then
        let _ ← arguments fuel false
      block fuel

/-- A function. -/
def functionDefinition : Nat → Reading Unit
  | 0 => failure
  | fuel + 1 => do
      keyword "def"
      let _ ← name
      mark "("
      parameters fuel true {}
      mark ")"
      if ← acceptMark "->" then
        let _ ← expression fuel
      block fuel

/-- The condition, the block and the alternatives of a branch. -/
def branch : Nat → Reading Unit
  | 0 => failure
  | fuel + 1 => do
      let _ ← namedExpression fuel
      block fuel
      if ← acceptKeyword "elif" then branch fuel else otherwise fuel

/-- The last alternative, if there is one. -/
def otherwise : Nat → Reading Unit
  | 0 => failure
  | fuel + 1 => do
      if ← acceptKeyword "else" then block fuel

/-- A loop over values. -/
def forLoop : Nat → Reading Unit
  | 0 => failure
  | fuel + 1 => do
      keyword "for"
      let _ ← targets fuel
      keyword "in"
      let _ ← starExpressions fuel
      block fuel
      otherwise fuel

/-- A block in a context, whose items may stand in brackets. -/
def withBlock : Nat → Reading Unit
  | 0 => failure
  | fuel + 1 => do
      keyword "with"
      orElse
        (do
          mark "("
          let _ ← items (contextItem fuel) fuel
          mark ")"
          block fuel)
        (do
          let _ ← strictItems (contextItem fuel) fuel
          block fuel)

/-- A block with handlers of faults, or with a last block. -/
def tryBlock : Nat → Reading (List Statement)
  | 0 => failure
  | fuel + 1 => do
      block fuel
      if ← acceptKeyword "finally" then
        block fuel
        pure [.foreign .tryBlock]
      else
        let isGroup ← nextAre (Token.isKeyword "except") (Token.isMark "*")
        handlers fuel isGroup
        otherwise fuel
        if ← acceptKeyword "finally" then block fuel
        pure [.foreign (if isGroup then .tryGroupBlock else .tryBlock)]

/-- One handler or more, all of the same kind. -/
def handlers : Nat → Bool → Reading Unit
  | 0, _ => failure
  | fuel + 1, isGroup => do
      keyword "except"
      if isGroup then mark "*"
      if isGroup || !(← nextIs (Token.isMark ":")) then
        let _ ← expression fuel
        if ← acceptKeyword "as" then
          let _ ← name
      block fuel
      if ← nextIs (Token.isKeyword "except") then handlers fuel isGroup

/-- A statement that takes a value apart by patterns. -/
def matchBlock : Nat → Reading Unit
  | 0 => failure
  | fuel + 1 => do
      need (Token.isName "match")
      let (results, trailing) ← items (starNamedExpression fuel) fuel
      require (trailing || 1 < results.length || !(results.any isStarred))
      mark ":"
      need isLineEnd
      need isIndent
      caseBlocks fuel
      need isDedent

/-- One case or more. -/
def caseBlocks : Nat → Reading Unit
  | 0 => failure
  | fuel + 1 => do
      need (Token.isName "case")
      casePatterns fuel
      if ← acceptKeyword "if" then
        let _ ← namedExpression fuel
      block fuel
      if ← nextIs (Token.isName "case") then caseBlocks fuel

end

/-- The statements of a text, or nothing if it is no program. -/
def parse? (source : String) : Option (List Statement) := do
  let tokens ← Scan.tokens? source
  let (results, rest) ← (statements (40 * (source.length + 8))).run tokens
  if rest.isEmpty then some results else none

end LiveGrid.Script.Grammar
