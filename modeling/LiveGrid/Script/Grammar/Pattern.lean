import LiveGrid.Script.Grammar.Expression

/-!
Contract: the grammar of patterns, by which a `match` statement takes values apart.

Owns: the forms of patterns and which of them may stand side by side.

Does not own: the statement around them. Scripts may not use it, but it has to be
read before that can be said.
-/

namespace LiveGrid.Script.Grammar

open Reading

/-- Whether a number literal is imaginary. -/
def isImaginary : Token → Bool
  | .number (.imaginary _) => true
  | _ => false

/-- Whether a token is a number that is not imaginary. -/
def isRealNumber : Token → Bool
  | .number (.imaginary _) => false
  | .number _ => true
  | _ => false

/-- A number of a pattern: a sign, and perhaps an imaginary part behind a real one. -/
def patternNumber : Reading Unit := do
  let _ ← acceptMark "-"
  if ← accept isImaginary then pure ()
  else
    need isRealNumber
    if (← acceptMark "+") || (← acceptMark "-") then need isImaginary

/-- The name that a pattern gives to a value. The underscore is no such name. -/
def captureName : Reading Unit := do
  let text ← name
  require (text != "_")

/-- A name with attributes behind it; the flag tells whether there were any. -/
def dottedName : Nat → Reading Bool
  | 0 => failure
  | fuel + 1 => do
      let _ ← name
      if ← acceptMark "." then
        let _ ← dottedName fuel
        pure true
      else pure false

mutual

/-- Alternatives, perhaps with a name for the value. -/
def pattern : Nat → Reading Unit
  | 0 => failure
  | fuel + 1 => do
      let _ ← closedPattern fuel
      let _ ← whileNext (Token.isMark "|") (do mark "|"; closedPattern fuel) fuel
      if ← acceptKeyword "as" then captureName else pure ()

/-- A pattern of a sequence, perhaps with a star. -/
def starPattern : Nat → Reading Bool
  | 0 => failure
  | fuel + 1 => do
      if ← acceptMark "*" then
        let _ ← name
        pure true
      else
        pattern fuel
        pure false

/-- A pattern without alternatives. -/
def closedPattern : Nat → Reading Unit
  | 0 => failure
  | fuel + 1 => do
      match ← peek with
      | some (.number _) => patternNumber
      | some (.mark "-") => patternNumber
      | some (.keyword "None") => need fun _ => true
      | some (.keyword "True") => need fun _ => true
      | some (.keyword "False") => need fun _ => true
      | some (.mark "(") =>
          need fun _ => true
          if ← acceptMark ")" then pure ()
          else
            let first ← starPattern fuel
            if ← nextIs (Token.isMark ",") then
              let _ ← moreItems (starPattern fuel) fuel
              mark ")"
            else
              require !first
              mark ")"
      | some (.mark "[") =>
          need fun _ => true
          if ← acceptMark "]" then pure ()
          else
            let _ ← items (starPattern fuel) fuel
            mark "]"
      | some (.mark "\x7b") =>
          need fun _ => true
          mappingPattern fuel
      | some (.name _) =>
          let _ ← dottedName fuel
          if ← acceptMark "(" then classPattern fuel false else pure ()
      | _ =>
          let _ ← quoted fuel
          pure ()

/-- The entries of a mapping up to its closing brace. -/
def mappingPattern : Nat → Reading Unit
  | 0 => failure
  | fuel + 1 => do
      if ← acceptMark "\x7d" then pure ()
      else if ← acceptMark "**" then
        captureName
        let _ ← acceptMark ","
        mark "\x7d"
      else
        match ← peek with
        | some (.number _) => patternNumber
        | some (.mark "-") => patternNumber
        | some (.keyword "None") => need fun _ => true
        | some (.keyword "True") => need fun _ => true
        | some (.keyword "False") => need fun _ => true
        | some (.name _) =>
            let hasDots ← dottedName fuel
            require hasDots
        | _ =>
            let _ ← quoted fuel
            pure ()
        mark ":"
        pattern fuel
        if ← acceptMark "," then mappingPattern fuel else mark "\x7d"

/-- The parts of a class pattern up to its closing bracket; once one is named, all are. -/
def classPattern : Nat → Bool → Reading Unit
  | 0, _ => failure
  | fuel + 1, named => do
      if ← acceptMark ")" then pure ()
      else
        let isName := fun token : Token => match token with | .name _ => true | _ => false
        if ← nextAre isName (Token.isMark "=") then
          let _ ← name
          mark "="
          pattern fuel
          if ← acceptMark "," then classPattern fuel true else mark ")"
        else
          require !named
          pattern fuel
          if ← acceptMark "," then classPattern fuel false else mark ")"

end

/-- The patterns of a case, perhaps several as an open sequence. -/
def casePatterns (fuel : Nat) : Reading Unit := do
  let first ← starPattern fuel
  if ← nextIs (Token.isMark ",") then
    let _ ← moreItems (starPattern fuel) fuel
    pure ()
  else require !first

end LiveGrid.Script.Grammar
