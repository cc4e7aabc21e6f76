import LiveGrid.Number.Decimal
import LiveGrid.Script.Syntax

/-!
Contract: number literals at the front of a text.

Owns:
- whole numbers in base ten, two, eight and sixteen, with single underscores between
  digits;
- reals with a point or an exponent, read exactly and rounded once;
- imaginary numbers, a real or whole number followed by `j`;
- what may follow a number without a blank: nothing that continues a name, except some
  reserved words.

Does not own: signs, which are operators.
-/

namespace LiveGrid.Script.Numeral

open LiveGrid.Number

/-- The value of a digit in bases up to sixteen. -/
def digitValue? (character : Char) : Option Nat :=
  let code := character.toNat
  if 48 ≤ code ∧ code < 58 then some (code - 48)
  else if 97 ≤ code ∧ code < 103 then some (code - 87)
  else if 65 ≤ code ∧ code < 71 then some (code - 55)
  else none

/-- Whether a character is a digit in a base. -/
def isDigit (base : Nat) (character : Char) : Bool :=
  match digitValue? character with
  | some value => value < base
  | none => false

/-- The number that digits denote in a base, from the most significant on. -/
def valueOf (base : Nat) (digits : List Char) : Nat :=
  digits.foldl (fun value digit => value * base + (digitValue? digit).getD 0) 0

/-- Digits with single underscores between them, and the rest of the text. An underscore that
no digit follows is an error. -/
def takeDigits (base : Nat) : List Char → Option (List Char × List Char)
  | '_' :: next :: rest =>
      if isDigit base next then
        (takeDigits base rest).map fun (digits, rest) => (next :: digits, rest)
      else none
  | ['_'] => none
  | [] => some ([], [])
  | character :: rest =>
      if isDigit base character then
        (takeDigits base rest).map fun (digits, rest) => (character :: digits, rest)
      else some ([], character :: rest)

/-- Whether a character of a text may belong to a name. -/
def mayContinueName (character : Char) : Bool :=
  character.isAlphanum || character == '_' || 128 ≤ character.toNat

/-- Whether a number may end before this text. -/
def mayFollow : List Char → Bool
  | 'a' :: 'n' :: 'd' :: _ => true
  | 'e' :: 'l' :: 's' :: 'e' :: _ => true
  | 'f' :: 'o' :: 'r' :: _ => true
  | 'i' :: 'f' :: _ => true
  | 'i' :: 'n' :: _ => true
  | 'i' :: 's' :: _ => true
  | 'o' :: 'r' :: _ => true
  | 'n' :: 'o' :: 't' :: _ => true
  | [] => true
  | character :: _ => !mayContinueName character

/-- A number in a base other than ten, from behind its mark on. -/
def takeBased (base : Nat) (text : List Char) : Option (Literal × List Char) := do
  let (digits, rest) ← takeDigits base ('0' :: text)
  if digits.length ≤ 1 then none
  else if mayFollow rest then some (.whole (valueOf base digits), rest)
  else none

/-- An exponent, from behind its letter on: its value and the rest. No value means that the
letter belongs to what follows the number. -/
def takeExponent (text : List Char) : Option (Option Int × List Char) :=
  let read (negative : Bool) (text : List Char) : Option (Option Int × List Char) := do
    let (digits, rest) ← takeDigits 10 text
    let value := Int.ofNat (valueOf 10 digits)
    some (some (if negative then -value else value), rest)
  match text with
  | '+' :: digit :: rest => if isDigit 10 digit then read false (digit :: rest) else none
  | '-' :: digit :: rest => if isDigit 10 digit then read true (digit :: rest) else none
  | ['+'] => none
  | ['-'] => none
  | digit :: rest =>
      if isDigit 10 digit then read false (digit :: rest) else some (none, digit :: rest)
  | [] => some (none, [])

/-- Ends a number of which the digits before and after the point are known. -/
def takeSuffix (whole fraction : List Char) (hasPoint : Bool) (text : List Char) :
    Option (Literal × List Char) :=
  let digits := valueOf 10 (whole ++ fraction)
  let shift := -Int.ofNat fraction.length
  let startsWithZero := whole.head? == some '0'
  let leadingZero := startsWithZero && valueOf 10 whole != 0
  let plain : Option Literal :=
    if hasPoint then some (.real (Double.ofDecimal digits shift))
    else if leadingZero then none
    else if !startsWithZero && Decimal.maximalDigits < whole.length then none
    else some (.whole (valueOf 10 whole))
  let finish (literal : Option Literal) (rest : List Char) : Option (Literal × List Char) :=
    if mayFollow rest then literal.map (·, rest) else none
  let scaled (exponent : Int) (rest : List Char) : Option (Literal × List Char) :=
    let value := Double.ofDecimal digits (shift + exponent)
    match rest with
    | 'j' :: rest => finish (some (.imaginary value)) rest
    | 'J' :: rest => finish (some (.imaginary value)) rest
    | rest => finish (some (.real value)) rest
  let withExponent (letter : Char) (rest : List Char) : Option (Literal × List Char) := do
    match ← takeExponent rest with
    | (some exponent, rest) => scaled exponent rest
    | (none, _) =>
        finish (if leadingZero then some (.real (Double.ofDecimal digits shift)) else plain)
          (letter :: rest)
  match text with
  | 'e' :: rest => withExponent 'e' rest
  | 'E' :: rest => withExponent 'E' rest
  | 'j' :: _ => scaled 0 text
  | 'J' :: _ => scaled 0 text
  | _ => finish plain text

/-- The number literal at the front of a text that begins with a digit, or with a point and a
digit, and the rest of the text. -/
def take (text : List Char) : Option (Literal × List Char) :=
  match text with
  | '0' :: 'x' :: rest => takeBased 16 rest
  | '0' :: 'X' :: rest => takeBased 16 rest
  | '0' :: 'o' :: rest => takeBased 8 rest
  | '0' :: 'O' :: rest => takeBased 8 rest
  | '0' :: 'b' :: rest => takeBased 2 rest
  | '0' :: 'B' :: rest => takeBased 2 rest
  | _ => do
      let (whole, rest) ← takeDigits 10 text
      match rest with
      | '.' :: '_' :: _ => none
      | '.' :: rest =>
          let (fraction, rest) ← takeDigits 10 rest
          takeSuffix whole fraction true rest
      | rest => takeSuffix whole [] false rest

end LiveGrid.Script.Numeral
