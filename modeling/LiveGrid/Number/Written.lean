import LiveGrid.Number.Decimal
import LiveGrid.Text.Digit

/-!
Contract: numbers as people write them in a command.

Owns:
- whole numbers: a sign and digits;
- doubles: a sign, digits with a point, an exponent, or a word for infinity or for what is not a
  number;
- what both have in common: blanks around the number, digits of any script, and single underscores
  between digits.

Does not own: the numbers of the script language.
-/

namespace LiveGrid.Number.Written

/-- A text with the digits 0 to 9 in place of those of other scripts. -/
def simplified (text : List Char) : List Char :=
  text.map fun character =>
    match Text.digitValue? character with
    | some value => Char.ofNat (48 + value)
    | none => character

/-- A text without the blanks around it. -/
def trimmed (text : List Char) : List Char :=
  ((text.dropWhile Text.isBlank).reverse.dropWhile Text.isBlank).reverse

/-- A text without its underscores, each of which has to stand between two digits. The first
argument is the character before the text. -/
def withoutUnderscores? (before : Option Char) : List Char → Option (List Char)
  | [] => some []
  | '_' :: next :: rest =>
      if (before.any Char.isDigit) && next.isDigit then
        (withoutUnderscores? (some next) rest).map (next :: ·)
      else none
  | ['_'] => none
  | character :: rest => (withoutUnderscores? (some character) rest).map (character :: ·)

/-- The sign at the front of a text, and the rest. -/
def takeSign : List Char → Bool × List Char
  | '-' :: rest => (true, rest)
  | '+' :: rest => (false, rest)
  | rest => (false, rest)

/-- The number that digits denote. -/
def valueOf (digits : List Char) : Nat :=
  digits.foldl (fun value digit => value * 10 + (digit.toNat - 48)) 0

/-- The whole number that a text denotes. -/
def whole? (text : String) : Option Int := do
  let (negative, digits) := takeSign (trimmed (simplified text.toList))
  let digits ← withoutUnderscores? none digits
  if digits.isEmpty || !digits.all Char.isDigit || Decimal.maximalDigits < digits.length then none
  else
    let value := Int.ofNat (valueOf digits)
    some (if negative then -value else value)

/-- The exponent that a text denotes. Without a text it is zero. -/
def exponent? : List Char → Option Int
  | [] => some 0
  | mark :: rest =>
      let (negative, digits) := takeSign rest
      if (mark == 'e' || mark == 'E') && !digits.isEmpty && digits.all Char.isDigit then
        let value := Int.ofNat (valueOf digits)
        some (if negative then -value else value)
      else none

/-- The magnitude that a text without a sign denotes. -/
def magnitude? (text : List Char) : Option Float :=
  let word := String.ofList (text.map Char.toLower)
  if word == "inf" || word == "infinity" then some Double.infinity
  else if word == "nan" then some Double.notANumber
  else
    let whole := text.takeWhile Char.isDigit
    let rest := text.dropWhile Char.isDigit
    let (fraction, rest) :=
      match rest with
      | '.' :: rest => (rest.takeWhile Char.isDigit, rest.dropWhile Char.isDigit)
      | rest => ([], rest)
    if whole.isEmpty && fraction.isEmpty then none
    else
      (exponent? rest).map fun exponent =>
        Double.ofDecimal (valueOf (whole ++ fraction)) (exponent - Int.ofNat fraction.length)

/-- The double that a text denotes. -/
def double? (text : String) : Option Float := do
  let plain ← withoutUnderscores? none (trimmed (simplified text.toList))
  let (negative, rest) := takeSign plain
  let value ← magnitude? rest
  some (if negative then -value else value)

end LiveGrid.Number.Written
