import LiveGrid.Text.Table

/-!
Contract: decimal digits and blanks of all scripts.

Owns:
- the value of a decimal digit, by the Unicode character database, version 14;
- which characters are blank: spaces and line breaks.

Does not own: numerals.
-/

namespace LiveGrid.Text

/-- The zeros of the scripts whose digits are ten characters in a row. -/
private def digitZeros : List Nat :=
  Table.numbers [
    "48 1632 1776 1984 2406 2534 2662 2790 2918 3046 3174 3302 3430 3558 3664 3792 3872 4160",
    "4240 6112 6160 6470 6608 6784 6800 6992 7088 7232 7248 42528 43216 43264 43472 43504",
    "43600 44016 65296 66720 68912 69734 69872 69942 70096 70384 70736 70864 71248 71360",
    "71472 71904 72016 72784 73040 73120 92768 92864 93008 123200 123632 125264 130032"]

/-- The first of the fifty mathematical digits, which are five times ten in a row. -/
private def mathematicalZero : Nat := 120782

/-- The value of a decimal digit of any script. -/
def digitValue? (character : Char) : Option Nat :=
  let code := character.toNat
  if mathematicalZero ≤ code ∧ code < mathematicalZero + 50 then
    some ((code - mathematicalZero) % 10)
  else
    digitZeros.findSome? fun start =>
      if start ≤ code ∧ code < start + 10 then some (code - start) else none

/-- Whether a character is blank: a space or a line break of any script. -/
def isBlank (character : Char) : Bool :=
  let code := character.toNat
  code == 32 || (9 ≤ code && code ≤ 13) || (0x2000 ≤ code && code ≤ 0x200a) ||
    [0x85, 0xa0, 0x1680, 0x2028, 0x2029, 0x202f, 0x205f, 0x3000].contains code

end LiveGrid.Text
