import LiveGrid.Script.Token
import LiveGrid.Script.Token.Quoted
import LiveGrid.Text.Compatibility
import LiveGrid.Text.Identifier

/-!
Contract: cutting a script into tokens.

Owns:
- line ends in all their spellings, line joining by brackets and by backslashes, comments
  and blank lines;
- indentation, measured once with wide and once with narrow tabs, which have to agree;
- names in their compatibility normal form, reserved words, marks.

A text that cannot be cut has no tokens at all: which of its faults comes first
is not told.

Does not own: the order of tokens in a program.
-/

namespace LiveGrid.Script.Scan

/-- The text with every line end written as one line feed. -/
def unifyLineEnds : List Char → List Char
  | '\r' :: '\n' :: rest => '\n' :: unifyLineEnds rest
  | '\r' :: rest => '\n' :: unifyLineEnds rest
  | character :: rest => character :: unifyLineEnds rest
  | [] => []

/-- The text with a line end at its end. -/
def endLine (text : List Char) : List Char :=
  if text.getLast? == some '\n' then text else text ++ ['\n']

/-- The width of the blanks at the start of a line, with tabs to multiples of eight and with
tabs of width one. -/
structure Indentation where
  wide : Nat
  narrow : Nat
deriving DecidableEq, Repr

/-- Measures the start of a line. A backslash at a line end joins the next line, and then the
first width other than zero at a backslash counts. -/
def measure (width : Indentation) (joined : Nat) :
    List Char → Option (Indentation × List Char)
  | ' ' :: rest => measure ⟨width.wide + 1, width.narrow + 1⟩ joined rest
  | '\t' :: rest => measure ⟨(width.wide / 8 + 1) * 8, width.narrow + 1⟩ joined rest
  | '\x0c' :: rest => measure ⟨0, 0⟩ joined rest
  | '\\' :: '\n' :: rest =>
      if rest.isEmpty then none
      else measure width (if joined = 0 then width.wide else joined) rest
  | '\\' :: _ => none
  | rest => some (if joined = 0 then width else ⟨joined, joined⟩, rest)

/-- The most levels of indentation. -/
def maximalLevels : Nat := 100

/-- Closes levels until the width is reached: the number closed and the levels left. -/
def closeLevels (width : Indentation) : List Indentation → Option (Nat × List Indentation)
  | [] => if width.wide = 0 && width.narrow = 0 then some (0, []) else none
  | level :: outer =>
      if level.wide = width.wide then
        if level.narrow = width.narrow then some (0, level :: outer) else none
      else if level.wide < width.wide then none
      else (closeLevels width outer).map fun (count, levels) => (count + 1, levels)

/-- The tokens for a line that begins with the given width, and the levels then open. -/
def changeLevel (width : Indentation) (levels : List Indentation) :
    Option (List Token × List Indentation) :=
  let current := levels.headD ⟨0, 0⟩
  if current.wide < width.wide then
    if current.narrow < width.narrow ∧ levels.length + 2 ≤ maximalLevels then
      some ([.indent], width :: levels)
    else none
  else
    (closeLevels width levels).map fun (count, levels) =>
      (List.replicate count .dedent, levels)

/-- The marks of three and of two characters. -/
def longMarks : List (List Char) :=
  ["**=", "//=", "<<=", ">>=", "...", "!=", "%=", "&=", "**", "*=", "+=", "-=", "->", "//",
   "/=", ":=", "<<", "<=", "<>", "==", ">=", ">>", "@=", "^=", "|="].map String.toList

/-- The marks of one character. -/
def shortMarks : List Char := "()[]:,;+-*/|&<>=.%\x7b\x7d~^@".toList

/-- The mark at the front of a text, and the rest. -/
def takeMark (text : List Char) : Option (String × List Char) :=
  match longMarks.find? fun mark => mark.isPrefixOf text with
  | some mark => some (String.ofList mark, text.drop mark.length)
  | none =>
      match text with
      | character :: rest =>
          if shortMarks.contains character then some (String.singleton character, rest)
          else none
      | [] => none

/-- The open brackets after a mark, the innermost first. -/
def followBrackets (brackets : List Char) (mark : String) : Option (List Char) :=
  match mark.toList with
  | [character] =>
      if character == '(' || character == '[' || character == '\x7b' then
        if Quoted.maximalDepth ≤ brackets.length then none else some (character :: brackets)
      else if character == ')' || character == ']' || character == '\x7d' then
        match brackets with
        | opening :: outer => if Quoted.closingOf opening == character then some outer else none
        | [] => none
      else some brackets
  | _ => some brackets

/-- The token of a word. Words outside ASCII are names in their normal form, even if that is
spelled like a reserved word. -/
def wordToken (word : List Char) : Option Token :=
  let text := String.ofList word
  if word.any fun character => 128 ≤ character.toNat then
    if Text.isIdentifier word then some (.name (Text.Compatibility.normalForm text)) else none
  else if reservedWords.contains text then some (.keyword text)
  else some (.name text)

/-- What lies before the next token: where a line starts, the open levels of indentation and
the open brackets. -/
structure State where
  atLineStart : Bool := true
  isBlankLine : Bool := false
  levels : List Indentation := []
  brackets : List Char := []

mutual

/-- The tokens of a text from a state on. -/
def scan : Nat → State → List Char → Option (List Token)
  | 0, _, _ => none
  | fuel + 1, state, text =>
      if state.atLineStart && state.brackets.isEmpty then do
        let (width, rest) ← measure ⟨0, 0⟩ 0 text
        match rest with
        | '#' :: _ =>
            scan fuel { state with atLineStart := false, isBlankLine := true } rest
        | '\n' :: _ =>
            scan fuel { state with atLineStart := false, isBlankLine := true } rest
        | _ => do
            let (tokens, levels) ← changeLevel width state.levels
            let state := { state with
              atLineStart := false, isBlankLine := false, levels := levels }
            (scan fuel state rest).map (tokens ++ ·)
      else
        match text with
        | [] => if state.brackets.isEmpty then some [] else none
        | '\n' :: rest =>
            let next := { state with atLineStart := state.brackets.isEmpty }
            if state.isBlankLine || !state.brackets.isEmpty then scan fuel next rest
            else (scan fuel next rest).map (.lineEnd :: ·)
        | '\\' :: '\n' :: rest => if rest.isEmpty then none else scan fuel state rest
        | '#' :: rest => scan fuel state (rest.dropWhile (· != '\n'))
        | character :: rest =>
            if character == ' ' || character == '\t' || character == '\x0c' then
              scan fuel state rest
            else if character == '"' || character == '\'' then
              scanQuoted fuel state [] text
            else if character.isDigit ||
                (character == '.' && (rest.head?.map Char.isDigit).getD false) then do
              let (value, rest) ← Numeral.take text
              (scan fuel state rest).map (.number value :: ·)
            else if Numeral.mayContinueName character then
              let word := text.takeWhile Numeral.mayContinueName
              let rest := text.dropWhile Numeral.mayContinueName
              let isQuoted := rest.head? == some '"' || rest.head? == some '\''
              if isQuoted && (Quoted.Style.ofLetters? word).isSome then
                scanQuoted fuel state word rest
              else do
                let token ← wordToken word
                (scan fuel state rest).map (token :: ·)
            else do
              let (mark, rest) ← takeMark text
              let brackets ← followBrackets state.brackets mark
              (scan fuel { state with brackets := brackets } rest).map (.mark mark :: ·)

/-- The tokens of a text that begins with a quoted text, whose letters are given. -/
def scanQuoted : Nat → State → List Char → List Char → Option (List Token)
  | 0, _, _, _ => none
  | fuel + 1, state, letters, text => do
      let style ← Quoted.Style.ofLetters? letters
      let (inside, rest) ← Quoted.takeInside text
      let token ←
        if style.formatted then do
          let sources ← Quoted.expressionSources style inside
          let expressions ← scanEach fuel sources
          some (Token.formatted expressions)
        else do
          let codes ← Quoted.decode style inside
          some (if style.bytes then .bytes codes else .text codes)
      (scan fuel state rest).map (token :: ·)

/-- The tokens of embedded expressions, each in brackets. -/
def scanEach : Nat → List (List Char) → Option (List (List Token))
  | 0, _ => none
  | _ + 1, [] => some []
  | fuel + 1, source :: rest => do
      let tokens ← scan fuel {} ('(' :: source ++ [')', '\n'])
      let more ← scanEach fuel rest
      some (tokens :: more)

end

/-- The tokens of a script, or nothing if it cannot be cut into tokens. -/
def tokens? (source : String) : Option (List Token) :=
  let text := source.toList
  if text.contains '\x00' then none
  else
    let lines := endLine (unifyLineEnds text)
    scan (4 * lines.length + 16) {} lines

end LiveGrid.Script.Scan
