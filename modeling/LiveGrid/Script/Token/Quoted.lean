import LiveGrid.Script.Token.Numeral

/-!
Contract: quoted texts and what their escapes denote.

Owns:
- the extent of a quoted text, with one or three quotation marks;
- the code points of a text literal and the bytes of a byte literal;
- the embedded expressions of a formatted text, as source text.

An escape that is not known stands for itself, backslash included. A truncated
escape, a code point beyond the last one, and a character name are errors.

Does not own: the tokens of embedded expressions.
-/

namespace LiveGrid.Script.Quoted

/-- The marks that can stand before a quotation mark. -/
structure Style where
  raw : Bool
  bytes : Bool
  formatted : Bool
deriving DecidableEq, Repr

/-- The style that letters before a quotation mark ask for. -/
def Style.ofLetters? (letters : List Char) : Option Style :=
  match letters.map Char.toLower with
  | [] => some ⟨false, false, false⟩
  | ['u'] => some ⟨false, false, false⟩
  | ['r'] => some ⟨true, false, false⟩
  | ['b'] => some ⟨false, true, false⟩
  | ['f'] => some ⟨false, false, true⟩
  | ['b', 'r'] => some ⟨true, true, false⟩
  | ['r', 'b'] => some ⟨true, true, false⟩
  | ['f', 'r'] => some ⟨true, false, true⟩
  | ['r', 'f'] => some ⟨true, false, true⟩
  | _ => none

/-- The inside of a text in single marks, from behind the opening mark on, and the rest. -/
def takeShort (quote : Char) : List Char → Option (List Char × List Char)
  | [] => none
  | '\n' :: _ => none
  | '\\' :: next :: rest =>
      (takeShort quote rest).map fun (inside, rest) => ('\\' :: next :: inside, rest)
  | character :: rest =>
      if character == quote then some ([], rest)
      else (takeShort quote rest).map fun (inside, rest) => (character :: inside, rest)

/-- The inside of a text in triple marks, from behind the opening marks on, and the rest. -/
def takeLong (quote : Char) : List Char → Option (List Char × List Char)
  | [] => none
  | '\\' :: next :: rest =>
      (takeLong quote rest).map fun (inside, rest) => ('\\' :: next :: inside, rest)
  | character :: rest =>
      if character == quote && rest.head? == some quote &&
          (rest.drop 1).head? == some quote then
        some ([], rest.drop 2)
      else (takeLong quote rest).map fun (inside, rest) => (character :: inside, rest)

/-- The inside of a quoted text, from its opening mark on, and the rest. -/
def takeInside : List Char → Option (List Char × List Char)
  | [] => none
  | quote :: rest =>
      match rest with
      | second :: third :: after =>
          if second == quote && third == quote then takeLong quote after
          else takeShort quote rest
      | _ => takeShort quote rest

/-- The value of exactly `count` digits of base sixteen, and the rest. -/
def takeHex (count : Nat) (text : List Char) : Option (Nat × List Char) :=
  let digits := text.take count
  if digits.length = count ∧ digits.all (Numeral.isDigit 16) then
    some (Numeral.valueOf 16 digits, text.drop count)
  else none

/-- The value of up to `count` digits of base eight, and the rest. -/
def takeOctal (count : Nat) (text : List Char) : Nat × List Char :=
  let digits := (text.take count).takeWhile (Numeral.isDigit 8)
  (Numeral.valueOf 8 digits, text.drop digits.length)

/-- The code point of an escape of one letter or mark. -/
def simpleEscape? : Char → Option Nat
  | '\\' => some 92
  | '\'' => some 39
  | '"' => some 34
  | 'a' => some 7
  | 'b' => some 8
  | 'f' => some 12
  | 'n' => some 10
  | 'r' => some 13
  | 't' => some 9
  | 'v' => some 11
  | _ => none

/-- What the text behind a backslash denotes, and the rest. Byte literals know no escapes of
whole code points, and their octal escapes keep eight bits. -/
def takeEscape (bytes : Bool) (text : List Char) : Option (List Nat × List Char) :=
  match text with
  | [] => some ([92], [])
  | '\n' :: rest => some ([], rest)
  | 'x' :: rest => (takeHex 2 rest).map fun (code, rest) => ([code], rest)
  | letter :: rest =>
      match simpleEscape? letter with
      | some code => some ([code], rest)
      | none =>
          if Numeral.isDigit 8 letter then
            let (code, rest) := takeOctal 3 text
            some ([if bytes then code % 256 else code], rest)
          else if bytes then some ([92, letter.toNat], rest)
          else if letter == 'u' then
            (takeHex 4 rest).map fun (code, rest) => ([code], rest)
          else if letter == 'U' then
            match takeHex 8 rest with
            | some (code, rest) => if code < 0x110000 then some ([code], rest) else none
            | none => none
          else if letter == 'N' then none
          else some ([92, letter.toNat], rest)

/-- The code points of the inside of a text with escapes. -/
def decodeWith (bytes : Bool) : Nat → List Char → Option (List Nat)
  | 0, _ => none
  | _ + 1, [] => some []
  | fuel + 1, '\\' :: rest => do
      let (codes, rest) ← takeEscape bytes rest
      (decodeWith bytes fuel rest).map (codes ++ ·)
  | fuel + 1, character :: rest =>
      (decodeWith bytes fuel rest).map (character.toNat :: ·)

/-- The code points that the inside of a quoted text denotes. -/
def decode (style : Style) (inside : List Char) : Option (List Nat) :=
  if style.bytes && inside.any fun character => 128 ≤ character.toNat then none
  else if style.raw then some (inside.map Char.toNat)
  else decodeWith style.bytes (inside.length + 1) inside

/-- A position inside an embedded expression: the quotation mark of a text that is open, with
whether it is a triple one, and the open brackets, the innermost first. -/
structure Position where
  quote : Option (Char × Bool) := none
  brackets : List Char := []

/-- The bracket that closes the given one. -/
def closingOf : Char → Char
  | '(' => ')'
  | '[' => ']'
  | _ => '}'

/-- The most brackets that may be open at once. -/
def maximalDepth : Nat := 200

/-- How an embedded expression goes on at some place. -/
inductive Move where
  | fail
  | stop
  /-- That many characters belong to it, and then a position follows. -/
  | keep (count : Nat) (position : Position)

/-- Whether three equal marks stand at the front of a text. -/
def isTripled (quote : Char) (text : List Char) : Bool :=
  [quote, quote, quote].isPrefixOf text

/-- How an embedded expression goes on inside of a quoted text. -/
def Move.inQuotes (position : Position) (quote : Char) (isTriple : Bool) (text : List Char) :
    Move :=
  if text.head? != some quote then .keep 1 position
  else if !isTriple then .keep 1 { position with quote := none }
  else if isTripled quote text then .keep 3 { position with quote := none }
  else .keep 1 position

/-- How an embedded expression goes on at a mark that may end it, outside of brackets. A mark
that makes up an operator with the next one does not end it. -/
def Move.atEnd (position : Position) (character : Char) (rest : List Char) : Move :=
  let isDouble := rest.head? == some '=' && character != ':' && character != '\x7d'
  if isDouble then .keep 2 position
  else if character == '<' || character == '>' then .keep 1 position
  else .stop

/-- How an embedded expression goes on. -/
def Move.next (position : Position) (text : List Char) : Move :=
  match text with
  | [] => .fail
  | character :: rest =>
      if character == '\\' then .fail
      else
        match position.quote with
        | some (quote, isTriple) => .inQuotes position quote isTriple text
        | none =>
            if character == '\'' || character == '"' then
              if isTripled character text then
                .keep 3 { position with quote := some (character, true) }
              else .keep 1 { position with quote := some (character, false) }
            else if character == '(' || character == '[' || character == '\x7b' then
              if maximalDepth ≤ position.brackets.length then .fail
              else .keep 1 { position with brackets := character :: position.brackets }
            else if character == '#' then .fail
            else
              match position.brackets with
              | [] =>
                  if "!:\x7d=<>".contains character then .atEnd position character rest
                  else if character == ')' || character == ']' then .fail
                  else .keep 1 position
              | opening :: outer =>
                  if ")]\x7d".contains character then
                    if closingOf opening == character then
                      .keep 1 { position with brackets := outer }
                    else .fail
                  else .keep 1 position

/-- The source of an embedded expression up to the mark that ends it, and the rest from that
mark on. Backslashes and comment marks are errors, and so are brackets that do not match. -/
def takeExpression : Nat → Position → List Char → Option (List Char × List Char)
  | 0, _, _ => none
  | fuel + 1, position, text =>
      match Move.next position text with
      | .fail => none
      | .stop => some ([], text)
      | .keep count position =>
          (takeExpression fuel position (text.drop count)).map
            fun (inside, rest) => (text.take count ++ inside, rest)

/-- The literal part of a formatted text up to an embedded expression, to a doubled brace, or,
inside of a format, to its end. -/
def takeLiteral (raw nested : Bool) : Nat → List Char → Option (List Char × List Char)
  | 0, _ => none
  | _ + 1, [] => some ([], [])
  | fuel + 1, '\\' :: next :: rest =>
      let both := fun (inside, rest) => ('\\' :: next :: inside, rest)
      if raw || next == '\x7b' || next == '\x7d' then
        (takeLiteral raw nested fuel (next :: rest)).map
          fun (inside, rest) => ('\\' :: inside, rest)
      else (takeLiteral raw nested fuel rest).map both
  | fuel + 1, character :: rest =>
      if character == '\x7b' || character == '\x7d' then
        if !nested && rest.head? == some character then
          (takeLiteral raw nested fuel (rest.drop 1)).map
            fun (inside, rest) => (character :: inside, rest)
        else if !nested && character == '\x7d' then none
        else some ([], character :: rest)
      else
        (takeLiteral raw nested fuel rest).map
          fun (inside, rest) => (character :: inside, rest)

/-- Whether a character is a blank inside an embedded expression. -/
def isBlank (character : Char) : Bool :=
  character == ' ' || character == '\t' || character == '\n' || character == '\x0c'

mutual

/-- The sources of the embedded expressions of a formatted text. Inside of a format the text
ends before a closing brace, with the rest given back. -/
def takeFormatted (raw : Bool) (depth : Nat) : Nat → List Char →
    Option (List (List Char) × List Char)
  | 0, _ => none
  | fuel + 1, text => do
      let (literal, rest) ← takeLiteral raw (depth != 0) (text.length + 1) text
      let _ ← if raw then some [] else decodeWith false (literal.length + 1) literal
      match rest with
      | '\x7b' :: rest => do
          let (sources, rest) ← takeEmbedded raw depth fuel rest
          let (more, rest) ← takeFormatted raw depth fuel rest
          some (sources ++ more, rest)
      | rest => some ([], rest)

/-- An embedded expression from behind its opening brace on, with the expressions in its
format, and the rest from behind its closing brace on. -/
def takeEmbedded (raw : Bool) (depth : Nat) : Nat → List Char →
    Option (List (List Char) × List Char)
  | 0, _ => none
  | fuel + 1, text =>
      if 2 ≤ depth then none
      else do
        let (source, rest) ← takeExpression (text.length + 1) {} text
        if source.all isBlank then none
        else
          let rest ←
            match rest with
            | '=' :: rest =>
                some (rest.dropWhile fun character =>
                  isBlank character || character == '\x0b' || character == '\r')
            | rest => some rest
          let rest ←
            match rest with
            | '!' :: conversion :: rest =>
                if conversion == 's' || conversion == 'r' || conversion == 'a' then some rest
                else none
            | ['!'] => none
            | rest => some rest
          match rest with
          | ':' :: rest => do
              let (sources, rest) ← takeFormatted raw (depth + 1) fuel rest
              match rest with
              | '\x7d' :: rest => some (source :: sources, rest)
              | _ => none
          | '\x7d' :: rest => some ([source], rest)
          | _ => none

end

/-- The sources of all embedded expressions of the inside of a formatted text. -/
def expressionSources (style : Style) (inside : List Char) : Option (List (List Char)) := do
  let (sources, rest) ← takeFormatted style.raw 0 (2 * inside.length + 2) inside
  if rest.isEmpty then some sources else none

end LiveGrid.Script.Quoted
