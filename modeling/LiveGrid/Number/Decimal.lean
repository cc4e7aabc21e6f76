import LiveGrid.Number.Double

/-!
Contract: decimal text of numbers, computed from their exact values.

Owns:
- numerals of natural and whole numbers and padding to a width;
- how long a numeral may be to be read;
- scientific notation with a given number of significant digits;
- positional notation with a given number of places;
- the fewest significant digits that read back as the same double.

Every rounding is exact, a half going to the even neighbour, so the text of a
double depends on its value alone.

Does not own: reading numerals, quoting, and the choice of notation for a
particular output, which its own module makes.
-/

namespace LiveGrid.Number.Decimal

open LiveGrid.Number

/-- The most digits that a numeral may have to be read as a whole number. -/
def maximalDigits : Nat := 4300

/-- The decimal numeral of a natural number, without leading zeros. -/
def numeral (number : Nat) : String :=
  String.ofList (Nat.toDigits 10 number)

/-- The decimal numeral of a whole number, a minus sign before a negative one. -/
def wholeNumeral : Int → String
  | .ofNat number => numeral number
  | .negSucc number => "-" ++ numeral (number + 1)

/-- The text with fill characters before it, so that it has at least `width` characters. -/
def padLeft (width : Nat) (fill : Char) (text : String) : String :=
  String.ofList (List.replicate (width - text.length) fill) ++ text

/-- The text with fill characters after it, so that it has at least `width` characters. -/
def padRight (width : Nat) (fill : Char) (text : String) : String :=
  text ++ String.ofList (List.replicate (width - text.length) fill)

/-- The number of decimal digits of a natural number; one for zero. -/
def digitCount (number : Nat) : Nat :=
  (Nat.toDigits 10 number).length

/-- The number of factors ten that bring `numerator` up to `denominator` at least. -/
def tensUpTo (numerator denominator : Nat) : Nat → Nat
  | 0 => 0
  | fuel + 1 =>
      if denominator ≤ numerator then 0
      else 1 + tensUpTo (10 * numerator) denominator fuel

/-- The exponent `k` with `10 ^ k ≤ numerator / denominator < 10 ^ (k + 1)`, for a positive
quotient. -/
def exponentOf (numerator denominator : Nat) : Int :=
  if denominator ≤ numerator then
    Int.ofNat (digitCount (numerator / denominator)) - 1
  else
    -Int.ofNat (tensUpTo numerator denominator (digitCount denominator + 1))

/-- A positive number in scientific form: `digits` has no more than the wanted number of
digits, and the value is `digits * 10 ^ (exponent - (count - 1))`. -/
structure Scientific where
  digits : Nat
  exponent : Int
deriving DecidableEq, Repr

/-- The quotient rounded to `count` significant digits, for a positive quotient. -/
def Scientific.ofQuotient (count numerator denominator : Nat) : Scientific :=
  let exponent := exponentOf numerator denominator
  let shift := exponent - (Int.ofNat count - 1)
  let rounded :=
    if 0 ≤ shift then roundQuotient numerator (denominator * tenTo shift.toNat)
    else roundQuotient (numerator * tenTo (-shift).toNat) denominator
  if rounded = tenTo count then ⟨tenTo (count - 1), exponent + 1⟩ else ⟨rounded, exponent⟩

/-- The numerator and denominator of `mantissa * 2 ^ exponent`. -/
def quotientOf (mantissa : Nat) (exponent : Int) : Nat × Nat :=
  if 0 ≤ exponent then (mantissa <<< exponent.toNat, 1)
  else (mantissa, 1 <<< (-exponent).toNat)

/-- The text of a double whose finite magnitudes are written by `write`, with the marks that
all notations share: a minus sign, `inf` and `nan`. -/
def signed (value : Float) (write : Nat → Int → String) : String :=
  match Double.magnitude value with
  | .notANumber => "nan"
  | .infinite => if Double.isNegative value then "-inf" else "inf"
  | .finite mantissa exponent =>
      (if Double.isNegative value then "-" else "") ++ write mantissa exponent

/-- A decimal point after the first digit, if more digits follow. -/
def pointAfterFirst (digits : String) : String :=
  match digits.toList with
  | first :: second :: rest => String.ofList (first :: '.' :: second :: rest)
  | _ => digits

/-- An exponent with its sign and at least two digits. -/
def exponentMark (exponent : Int) : String :=
  (if exponent < 0 then "e-" else "e+") ++ padLeft 2 '0' (numeral exponent.natAbs)

/-- Scientific notation with exactly `count` significant digits. -/
def scientific (count : Nat) (value : Float) : String :=
  signed value fun mantissa exponent =>
    if mantissa = 0 then
      pointAfterFirst (String.ofList (List.replicate count '0')) ++ exponentMark 0
    else
      let quotient := quotientOf mantissa exponent
      let rounded := Scientific.ofQuotient count quotient.1 quotient.2
      pointAfterFirst (numeral rounded.digits) ++ exponentMark rounded.exponent

/-- A natural number of units `10 ^ -places` in positional notation. -/
def withPlaces (places units : Nat) : String :=
  let whole := numeral (units / tenTo places)
  if places = 0 then whole
  else whole ++ "." ++ padLeft places '0' (numeral (units % tenTo places))

/-- Positional notation with exactly `places` digits after the point. -/
def fixed (places : Nat) (value : Float) : String :=
  signed value fun mantissa exponent =>
    let quotient := quotientOf mantissa exponent
    withPlaces places (roundQuotient (quotient.1 * tenTo places) quotient.2)

/-- Whether `digits * 10 ^ shift` reads back as the given double. -/
def readsBack (target : Float) (digits : Nat) (shift : Int) : Bool :=
  let back :=
    if 0 ≤ shift then Double.ofQuotient false (digits * tenTo shift.toNat) 1
    else Double.ofQuotient false digits (tenTo (-shift).toNat)
  back == target

/-- The grid point with `count` significant digits that reads back as the double, the nearer of
the two neighbours of the exact value before the other. -/
def neighbour? (target : Float) (numerator denominator count : Nat) : Option Scientific :=
  let nearest := Scientific.ofQuotient count numerator denominator
  let shift := nearest.exponent - (Int.ofNat count - 1)
  let isAbove :=
    if 0 ≤ shift then numerator < nearest.digits * tenTo shift.toNat * denominator
    else numerator * tenTo (-shift).toNat < nearest.digits * denominator
  let other := if isAbove then nearest.digits - 1 else nearest.digits + 1
  if readsBack target nearest.digits shift then some nearest
  else if readsBack target other shift then
    some ⟨other, shift + Int.ofNat (digitCount other) - 1⟩
  else none

/-- The digits of a double with the smallest count, from `count` on, that reads back. -/
def shortestFrom (target : Float) (numerator denominator count : Nat) : Nat → Scientific
  | 0 => Scientific.ofQuotient count numerator denominator
  | fuel + 1 =>
      match neighbour? target numerator denominator count with
      | some found => found
      | none => shortestFrom target numerator denominator (count + 1) fuel

/-- The numeral without the zeros at its end. -/
def dropTrailingZeros (digits : String) : String :=
  String.ofList ((digits.toList.reverse.dropWhile (· == '0')).reverse)

/-- The fewest digits that read back as the same double: positional notation for exponents from
`-4` to `15`, scientific notation for others, and no point in a whole number. -/
def shortest (value : Float) : String :=
  signed value fun mantissa exponent =>
    if mantissa = 0 then "0"
    else
      let quotient := quotientOf mantissa exponent
      let found := shortestFrom value.abs quotient.1 quotient.2 1 16
      let digits := dropTrailingZeros (numeral found.digits)
      if found.exponent < -4 || 16 ≤ found.exponent then
        pointAfterFirst digits ++ exponentMark found.exponent
      else if found.exponent < 0 then
        "0." ++ String.ofList (List.replicate ((-found.exponent).toNat - 1) '0') ++ digits
      else
        let places := found.exponent.toNat + 1
        if digits.length ≤ places then
          padRight places '0' digits
        else
          String.ofList (digits.toList.take places) ++ "." ++
            String.ofList (digits.toList.drop places)

end LiveGrid.Number.Decimal
