import LiveGrid.Script.Grammar.Basic

/-!
Contract: the grammar of expressions.

Owns:
- the precedence of operators, comparisons, conditionals, calls and literals, which
  scripts use;
- all other forms of expressions, which scripts may not use but which have to be read
  before that can be said;
- what may stand on the left of an assignment.

Every reading takes a bound on its depth, which the length of the text gives.

Does not own: statements.
-/

namespace LiveGrid.Script.Grammar

open Reading

mutual

/-- Whether an expression may be assigned to, as part of a list of targets. -/
def isTarget : Expr → Bool
  | .name _ => true
  | .foreign .attribute _ => true
  | .foreign .subscript _ => true
  | .foreign .tuple parts => areTargets parts
  | .foreign .list parts => areTargets parts
  | .foreign .starred [.foreign .starred _] => false
  | .foreign .starred parts => areTargets parts
  | _ => false

/-- Whether expressions may all be assigned to. -/
def areTargets : List Expr → Bool
  | [] => true
  | expression :: rest => isTarget expression && areTargets rest

end

/-- Whether an expression may be assigned to on its own, with a type or an operator. -/
def isSingleTarget : Expr → Bool
  | .name _ => true
  | .foreign .attribute _ => true
  | .foreign .subscript _ => true
  | _ => false

/-- Whether an expression carries a star. -/
def isStarred : Expr → Bool
  | .foreign .starred _ => true
  | _ => false

/-- The operator of a mark between two operands, with its precedence from `|` on. -/
def binaryOperator? : Token → Option (BinaryOperator × Nat)
  | .mark "|" => some (.bitOr, 0)
  | .mark "^" => some (.bitXor, 1)
  | .mark "&" => some (.bitAnd, 2)
  | .mark "<<" => some (.shiftLeft, 3)
  | .mark ">>" => some (.shiftRight, 3)
  | .mark "+" => some (.add, 4)
  | .mark "-" => some (.subtract, 4)
  | .mark "*" => some (.multiply, 5)
  | .mark "/" => some (.divide, 5)
  | .mark "//" => some (.floorDivide, 5)
  | .mark "%" => some (.modulo, 5)
  | .mark "@" => some (.matrixMultiply, 5)
  | _ => none

/-- The operator of a comparison, if one comes next. -/
def compareOperator? : Reading (Option CompareOperator) :=
  fun tokens =>
    match tokens with
    | .mark "==" :: rest => some (some .equal, rest)
    | .mark "!=" :: rest => some (some .notEqual, rest)
    | .mark "<" :: rest => some (some .less, rest)
    | .mark "<=" :: rest => some (some .lessEqual, rest)
    | .mark ">" :: rest => some (some .greater, rest)
    | .mark ">=" :: rest => some (some .greaterEqual, rest)
    | .keyword "in" :: rest => some (some .within, rest)
    | .keyword "not" :: .keyword "in" :: rest => some (some .notWithin, rest)
    | .keyword "is" :: .keyword "not" :: rest => some (some .isNot, rest)
    | .keyword "is" :: rest => some (some .is, rest)
    | _ => some (none, tokens)

/-- Whether a clause of a comprehension comes next. -/
def startsClause (token : Token) : Bool :=
  token.isKeyword "for" || token.isKeyword "async"

/-- Whether a token is a quoted text. -/
def isQuoted : Token → Bool
  | .text _ => true
  | .bytes _ => true
  | .formatted _ => true
  | _ => false

/-- What has been read of a list of parameters. -/
structure ParameterState where
  isEmpty : Bool := true
  hasDefault : Bool := false
  hasSlash : Bool := false
  hasStar : Bool := false
  needsName : Bool := false

mutual

/-- One expression, or several as a tuple; items may carry a star. -/
def starExpressions : Nat → Reading Expr
  | 0 => failure
  | fuel + 1 => do
      let (results, trailing) ← items (starExpression fuel) fuel
      match results, trailing with
      | [single], false => pure single
      | _, _ => pure (.foreign .tuple results)

/-- An expression, or an operand with a star. -/
def starExpression : Nat → Reading Expr
  | 0 => failure
  | fuel + 1 => do
      if ← acceptMark "*" then
        let operand ← binary fuel 0
        pure (.foreign .starred [operand])
      else expression fuel

/-- An expression that may be named, or an operand with a star. -/
def starNamedExpression : Nat → Reading Expr
  | 0 => failure
  | fuel + 1 => do
      if ← nextIs (Token.isMark "*") then starExpression fuel else namedExpression fuel

/-- An expression, or a name with a value for it. -/
def namedExpression : Nat → Reading Expr
  | 0 => failure
  | fuel + 1 => do
      let isName := fun token : Token => match token with | .name _ => true | _ => false
      if ← nextAre isName (Token.isMark ":=") then
        let target ← name
        mark ":="
        let value ← expression fuel
        pure (.foreign .named [.name target, value])
      else
        let result ← expression fuel
        if ← nextIs (Token.isMark ":=") then failure else pure result

/-- An expression. -/
def expression : Nat → Reading Expr
  | 0 => failure
  | fuel + 1 => do
      if ← acceptKeyword "lambda" then
        parameters fuel false {}
        mark ":"
        let _ ← expression fuel
        pure (.foreign .lambda [])
      else
        let body ← disjunction fuel
        if ← acceptKeyword "if" then
          let test ← disjunction fuel
          keyword "else"
          let otherwise ← expression fuel
          pure (.conditional test body otherwise)
        else pure body

/-- Operands of `or`. -/
def disjunction : Nat → Reading Expr
  | 0 => failure
  | fuel + 1 => do
      let first ← conjunction fuel
      let more ← whileNext (Token.isKeyword "or")
        (do keyword "or"; conjunction fuel) fuel
      pure (if more.isEmpty then first else .bool .or (first :: more))

/-- Operands of `and`. -/
def conjunction : Nat → Reading Expr
  | 0 => failure
  | fuel + 1 => do
      let first ← inversion fuel
      let more ← whileNext (Token.isKeyword "and")
        (do keyword "and"; inversion fuel) fuel
      pure (if more.isEmpty then first else .bool .and (first :: more))

/-- An operand of `not`, or a comparison. -/
def inversion : Nat → Reading Expr
  | 0 => failure
  | fuel + 1 => do
      if ← acceptKeyword "not" then
        let operand ← inversion fuel
        pure (.unary .not operand)
      else
        let first ← binary fuel 0
        let links ← comparisonLinks fuel
        pure (if links.isEmpty then first else .compare first links)

/-- The links of a comparison, each an operator with its right operand. -/
def comparisonLinks : Nat → Reading (List (CompareOperator × Expr))
  | 0 => failure
  | fuel + 1 => do
      match ← compareOperator? with
      | none => pure []
      | some operator =>
          let operand ← binary fuel 0
          let more ← comparisonLinks fuel
          pure ((operator, operand) :: more)

/-- Operands and operators of a precedence at least the given one. -/
def binary : Nat → Nat → Reading Expr
  | 0, _ => failure
  | fuel + 1, level => do
      let left ← factor fuel
      binaryRest fuel level left

/-- Further operators and operands after a left operand. -/
def binaryRest : Nat → Nat → Expr → Reading Expr
  | 0, _, _ => failure
  | fuel + 1, level, left => do
      match (← peek).bind binaryOperator? with
      | some (operator, own) =>
          if level ≤ own then
            need fun _ => true
            let right ← binary fuel (own + 1)
            binaryRest fuel level (.binary operator left right)
          else pure left
      | none => pure left

/-- An operand with its signs. -/
def factor : Nat → Reading Expr
  | 0 => failure
  | fuel + 1 => do
      if ← acceptMark "+" then
        let operand ← factor fuel
        pure (.unary .plus operand)
      else if ← acceptMark "-" then
        let operand ← factor fuel
        pure (.unary .minus operand)
      else if ← acceptMark "~" then
        let operand ← factor fuel
        pure (.unary .invert operand)
      else power fuel

/-- An operand, perhaps raised to a power, which may carry signs. -/
def power : Nat → Reading Expr
  | 0 => failure
  | fuel + 1 => do
      let isAwaited ← acceptKeyword "await"
      let operand ← primary fuel
      let base := if isAwaited then .foreign .await [] else operand
      if ← acceptMark "**" then
        let exponent ← factor fuel
        pure (.binary .power base exponent)
      else pure base

/-- An atom with the calls, subscripts and attributes behind it. -/
def primary : Nat → Reading Expr
  | 0 => failure
  | fuel + 1 => do
      let first ← atom fuel
      primaryRest fuel first

/-- Calls, subscripts and attributes. -/
def primaryRest : Nat → Expr → Reading Expr
  | 0, _ => failure
  | fuel + 1, left => do
      if ← acceptMark "." then
        let _ ← name
        primaryRest fuel (.foreign .attribute [])
      else if ← acceptMark "(" then
        let (values, keywordCount) ← arguments fuel true
        primaryRest fuel (.call left values keywordCount)
      else if ← acceptMark "[" then
        let _ ← items (subscript fuel) fuel
        mark "]"
        primaryRest fuel (.foreign .subscript [])
      else pure left

/-- One subscript: an expression, one with a star, or bounds with colons. -/
def subscript : Nat → Reading Unit
  | 0 => failure
  | fuel + 1 => do
      if ← acceptMark "*" then
        let _ ← expression fuel
        pure ()
      else
        let lower ← attempt (namedExpression fuel)
        if ← acceptMark ":" then
          match lower with
          | some (.foreign .named _) => failure
          | _ =>
              let _ ← attempt (expression fuel)
              if ← acceptMark ":" then
                let _ ← attempt (expression fuel)
                pure ()
        else require lower.isSome

/-- The arguments of a call from behind the opening bracket on, with the number of keyword
arguments. A single argument may be a comprehension without brackets of its own. -/
def arguments : Nat → Bool → Reading (List Expr × Nat)
  | 0, _ => failure
  | fuel + 1, mayGenerate => do
      if ← acceptMark ")" then pure ([], 0)
      else
        let isName := fun token : Token => match token with | .name _ => true | _ => false
        let isPlain :=
          !(← nextAre isName (Token.isMark "=")) && !(← nextIs (Token.isMark "*")) &&
            !(← nextIs (Token.isMark "**"))
        if mayGenerate && isPlain then
          let first ← namedExpression fuel
          if ← nextIs startsClause then
            clauses fuel
            mark ")"
            pure ([.foreign .generator []], 0)
          else
            let (more, keywordCount) ← argumentsAfter fuel 0
            pure (first :: more, keywordCount)
        else
          argument fuel 0

/-- The end of a list of arguments, or a comma and further ones. The stage is zero before the
first keyword argument, one after it and two after the first mapping. -/
def argumentsAfter : Nat → Nat → Reading (List Expr × Nat)
  | 0, _ => failure
  | fuel + 1, stage => do
      if ← acceptMark ")" then pure ([], 0)
      else
        mark ","
        if ← acceptMark ")" then pure ([], 0) else argument fuel stage

/-- One argument and those after it. -/
def argument : Nat → Nat → Reading (List Expr × Nat)
  | 0, _ => failure
  | fuel + 1, stage => do
      let isName := fun token : Token => match token with | .name _ => true | _ => false
      if ← acceptMark "**" then
        let _ ← expression fuel
        let (more, keywordCount) ← argumentsAfter fuel 2
        pure (more, keywordCount + 1)
      else if ← acceptMark "*" then
        require (stage < 2)
        let operand ← expression fuel
        let (more, keywordCount) ← argumentsAfter fuel stage
        pure (.foreign .starred [operand] :: more, keywordCount)
      else if ← nextAre isName (Token.isMark "=") then
        let _ ← name
        mark "="
        let _ ← expression fuel
        let (more, keywordCount) ← argumentsAfter fuel (max stage 1)
        pure (more, keywordCount + 1)
      else
        require (stage = 0)
        let value ← namedExpression fuel
        let (more, keywordCount) ← argumentsAfter fuel stage
        pure (value :: more, keywordCount)

/-- The clauses of a comprehension. -/
def clauses : Nat → Reading Unit
  | 0 => failure
  | fuel + 1 => do
      let _ ← acceptKeyword "async"
      keyword "for"
      let _ ← targets fuel
      keyword "in"
      let _ ← disjunction fuel
      let _ ← whileNext (Token.isKeyword "if") (do keyword "if"; disjunction fuel) fuel
      if ← nextIs startsClause then clauses fuel else pure ()

/-- The targets of a loop. -/
def targets : Nat → Reading Expr
  | 0 => failure
  | fuel + 1 => do
      let target := do
        let result ←
          (do
            if ← acceptMark "*" then
              let operand ← binary fuel 0
              pure (.foreign .starred [operand])
            else binary fuel 0)
        require (isTarget result)
        pure result
      let (results, trailing) ← items target fuel
      match results, trailing with
      | [single], false => pure single
      | _, _ => pure (.foreign .tuple results)

/-- A value that is handed to a caller. -/
def yieldExpression : Nat → Reading Expr
  | 0 => failure
  | fuel + 1 => do
      keyword "yield"
      if ← acceptKeyword "from" then
        let _ ← expression fuel
        pure (.foreign .yieldFrom [])
      else
        let _ ← attempt (starExpressions fuel)
        pure (.foreign .yield [])

/-- A name, a literal, or something in brackets. -/
def atom : Nat → Reading Expr
  | 0 => failure
  | fuel + 1 => do
      match ← peek with
      | some (.name identifier) =>
          need fun _ => true
          pure (.name identifier)
      | some (.number value) =>
          need fun _ => true
          pure (.literal value)
      | some (.keyword "True") =>
          need fun _ => true
          pure (.literal (.truth true))
      | some (.keyword "False") =>
          need fun _ => true
          pure (.literal (.truth false))
      | some (.keyword "None") =>
          need fun _ => true
          pure (.literal .none)
      | some (.mark "...") =>
          need fun _ => true
          pure (.literal .ellipsis)
      | some (.mark "(") =>
          need fun _ => true
          group fuel
      | some (.mark "[") =>
          need fun _ => true
          listDisplay fuel
      | some (.mark "\x7b") =>
          need fun _ => true
          braceDisplay fuel
      | _ => quoted fuel

/-- An expression in round brackets, from behind the opening one on. -/
def group : Nat → Reading Expr
  | 0 => failure
  | fuel + 1 => do
      if ← acceptMark ")" then pure (.foreign .tuple [])
      else if ← nextIs (Token.isKeyword "yield") then
        let result ← yieldExpression fuel
        mark ")"
        pure result
      else
        let first ← starNamedExpression fuel
        if ← nextIs startsClause then
          require !(isStarred first)
          clauses fuel
          mark ")"
          pure (.foreign .generator [])
        else if ← nextIs (Token.isMark ",") then
          let (more, _) ← moreItems (starNamedExpression fuel) fuel
          mark ")"
          pure (.foreign .tuple (first :: more))
        else
          require !(isStarred first)
          mark ")"
          pure first

/-- A list, from behind the opening bracket on. -/
def listDisplay : Nat → Reading Expr
  | 0 => failure
  | fuel + 1 => do
      if ← acceptMark "]" then pure (.foreign .list [])
      else
        let first ← starNamedExpression fuel
        if ← nextIs startsClause then
          require !(isStarred first)
          clauses fuel
          mark "]"
          pure (.foreign .listComprehension [])
        else
          let (more, _) ← moreItems (starNamedExpression fuel) fuel
          mark "]"
          pure (.foreign .list (first :: more))

/-- A set or a dictionary, from behind the opening brace on. -/
def braceDisplay : Nat → Reading Expr
  | 0 => failure
  | fuel + 1 => do
      if ← acceptMark "\x7d" then pure (.foreign .dictionary [])
      else if ← nextIs (Token.isMark "**") then
        let _ ← items (entry fuel) fuel
        mark "\x7d"
        pure (.foreign .dictionary [])
      else
        let first ← starNamedExpression fuel
        if !(isStarred first) && (← acceptMark ":") then
          match first with
          | .foreign .named _ => failure
          | _ =>
              let _ ← expression fuel
              if ← nextIs startsClause then
                clauses fuel
                mark "\x7d"
                pure (.foreign .dictionaryComprehension [])
              else
                let _ ← moreItems (entry fuel) fuel
                mark "\x7d"
                pure (.foreign .dictionary [])
        else if ← nextIs startsClause then
          require !(isStarred first)
          clauses fuel
          mark "\x7d"
          pure (.foreign .setComprehension [])
        else
          let _ ← moreItems (starNamedExpression fuel) fuel
          mark "\x7d"
          pure (.foreign .set [])

/-- An entry of a dictionary. -/
def entry : Nat → Reading Unit
  | 0 => failure
  | fuel + 1 => do
      if ← acceptMark "**" then
        let _ ← binary fuel 0
        pure ()
      else
        let _ ← expression fuel
        mark ":"
        let _ ← expression fuel
        pure ()

/-- Quoted texts that follow each other, which make up one literal. Texts and bytes do not
mix. -/
def quoted : Nat → Reading Expr
  | 0 => failure
  | fuel + 1 => do
      let pieces ← whileNext isQuoted
        (do
          match ← peek with
          | some token =>
              need fun _ => true
              pure token
          | none => failure) fuel
      require !pieces.isEmpty
      let isBytes := fun token : Token => match token with | .bytes _ => true | _ => false
      let isFormatted := fun token : Token =>
        match token with | .formatted _ => true | _ => false
      let codes := pieces.flatMap fun token =>
        match token with
        | .text codes => codes
        | .bytes codes => codes
        | _ => []
      embedded fuel (pieces.flatMap fun token =>
        match token with
        | .formatted expressions => expressions
        | _ => [])
      if pieces.all isBytes then pure (.literal (.bytes codes))
      else
        require !(pieces.any isBytes)
        if pieces.any isFormatted then pure (.foreign .formatted [])
        else pure (.literal (.text codes))

/-- Checks that lists of tokens are expressions, each up to the end of its line. -/
def embedded : Nat → List (List Token) → Reading Unit
  | 0, _ => failure
  | _ + 1, [] => pure ()
  | fuel + 1, tokens :: rest => do
      match (starExpressions fuel).run tokens with
      | some (_, [.lineEnd]) => embedded fuel rest
      | _ => failure

/-- Parameters of a function up to the mark behind them, which is left. -/
def parameters : Nat → Bool → ParameterState → Reading Unit
  | 0, _, _ => failure
  | fuel + 1, annotated, state => do
      let atEnd ← nextIs (Token.isMark (if annotated then ")" else ":"))
      if atEnd then require !state.needsName
      else
        let continueWith (state : ParameterState) : Reading Unit := do
          if ← acceptMark "," then parameters fuel annotated { state with isEmpty := false }
          else
            require !state.needsName
            let atEnd ← nextIs (Token.isMark (if annotated then ")" else ":"))
            require atEnd
        let annotation : Reading Unit := do
          if annotated then
            if ← acceptMark ":" then
              let _ ← expression fuel
        if ← acceptMark "/" then
          require (!state.isEmpty && !state.hasSlash && !state.hasStar)
          continueWith { state with hasSlash := true }
        else if ← acceptMark "**" then
          require !state.needsName
          let _ ← name
          annotation
          let _ ← acceptMark ","
          let atEnd ← nextIs (Token.isMark (if annotated then ")" else ":"))
          require atEnd
        else if ← acceptMark "*" then
          require !state.hasStar
          match ← attempt name with
          | none => continueWith { state with hasStar := true, needsName := true }
          | some _ =>
              if annotated then
                if ← acceptMark ":" then
                  let _ ← starExpression fuel
              continueWith { state with hasStar := true }
        else
          let _ ← name
          annotation
          if ← acceptMark "=" then
            let _ ← expression fuel
            continueWith { state with hasDefault := true, needsName := false }
          else
            require (state.hasStar || !state.hasDefault)
            continueWith { state with needsName := false }

end

end LiveGrid.Script.Grammar
