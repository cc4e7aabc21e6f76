import LiveGrid.Number.Power
import LiveGrid.Number.Rounding

/-!
Contract: the exact reading of a double precision number as a sign, a natural
mantissa and a power of two, and the operations that are defined by that exact
value.

Owns:
- the decomposition of a double and its inverse;
- the double nearest to a quotient of natural numbers, ties to even;
- rounding to whole doubles downwards, upwards and to the nearest;
- the remainder and the floored quotient of two doubles.

Does not own: decimal text, transcendental functions, faults of any kind. Every
operation here is total and gives a double.
-/

namespace LiveGrid.Number.Double

/-- The double that is not a number. -/
def notANumber : Float := Float.ofBits 0x7ff8000000000000

/-- Positive infinity. -/
def infinity : Float := Float.ofBits 0x7ff0000000000000

/-- The exact magnitude of a double. -/
inductive Magnitude where
  | notANumber
  | infinite
  /-- The value is `mantissa * 2 ^ exponent`. -/
  | finite (mantissa : Nat) (exponent : Int)
deriving DecidableEq, Repr

/-- The sign bit, which also zeros and infinities have. -/
def isNegative (value : Float) : Bool :=
  value.toBits >>> 63 == 1

/-- The biased exponent field of a double. -/
def exponentField (value : Float) : UInt64 :=
  (value.toBits >>> 52) &&& 0x7ff

/-- The fraction field of a double. -/
def fractionField (value : Float) : UInt64 :=
  value.toBits &&& 0xfffffffffffff

/-- The exact magnitude of a double, read off its bits. -/
def magnitude (value : Float) : Magnitude :=
  let exponent := (exponentField value).toNat
  let fraction := (fractionField value).toNat
  if exponent = 2047 then
    if fraction = 0 then .infinite else .notANumber
  else if exponent = 0 then .finite fraction (-1074)
  else .finite (fraction + twoTo 52) (Int.ofNat exponent - 1075)

/-- The double with the given sign and the magnitude of another. -/
def withSign (negative : Bool) (value : Float) : Float :=
  let bits := value.toBits &&& 0x7fffffffffffffff
  Float.ofBits (if negative then bits ||| 0x8000000000000000 else bits)

/-- The magnitude of the first double with the sign of the second. -/
def copySign (value sign : Float) : Float :=
  withSign (isNegative sign) value

/-- The double `± mantissa * 2 ^ exponent` for a mantissa of at most `2 ^ 53` and an exponent of
at least `-1074`, where a mantissa below `2 ^ 52` needs the exponent `-1074`. Magnitudes
beyond the largest double become infinite. -/
def ofNormal (negative : Bool) (mantissa : Nat) (exponent : Int) : Float :=
  let bits := (exponent + 1074).toNat * twoTo 52 + mantissa
  let limit := 2047 * twoTo 52
  withSign negative (Float.ofBits (UInt64.ofNat (min bits limit)))

/-- The double `2 ^ exponent`, for the exponents of normal doubles. -/
def powerOfTwo (exponent : Int) : Float :=
  ofNormal false (twoTo 52) (exponent - 52)

/-- The exponent `k` with `2 ^ k ≤ numerator / denominator < 2 ^ (k + 1)`, for a positive
quotient. -/
def binaryExponent (numerator denominator : Nat) : Int :=
  let guess := Int.ofNat numerator.log2 - Int.ofNat denominator.log2
  let reached :=
    if 0 ≤ guess then denominator <<< guess.toNat ≤ numerator
    else denominator ≤ numerator <<< (-guess).toNat
  if reached then guess else guess - 1

/-- The double nearest to `± numerator / denominator`; a half goes to the even neighbour. -/
def ofQuotient (negative : Bool) (numerator denominator : Nat) : Float :=
  if numerator = 0 then withSign negative 0
  else
    let exponent := max (binaryExponent numerator denominator - 52) (-1074)
    let scaled :=
      if 0 ≤ exponent then (numerator, denominator <<< exponent.toNat)
      else (numerator <<< (-exponent).toNat, denominator)
    ofNormal negative (roundQuotient scaled.1 scaled.2) exponent

/-- The double nearest to `digits * 10 ^ exponent`. -/
def ofDecimal (digits : Nat) (exponent : Int) : Float :=
  let top := exponent + Int.ofNat (Nat.toDigits 10 digits).length
  if digits = 0 ∨ top < -400 then 0
  else if 400 < top then infinity
  else if 0 ≤ exponent then ofQuotient false (digits * tenTo exponent.toNat) 1
  else ofQuotient false digits (tenTo (-exponent).toNat)

/-- The double `± mantissa * 2 ^ exponent`, rounded to nearest if it has too many digits. -/
def ofDyadic (negative : Bool) (mantissa : Nat) (exponent : Int) : Float :=
  if 0 ≤ exponent then ofQuotient negative (mantissa <<< exponent.toNat) 1
  else ofQuotient negative mantissa (1 <<< (-exponent).toNat)

/-- The double nearest to a whole number; infinite beyond the largest double. -/
def ofWhole : Int → Float
  | .ofNat number => Float.ofNat number
  | .negSucc number => -(Float.ofNat (number + 1))

/-- The whole part of a finite double, cut off towards zero. -/
def toWhole (value : Float) : Int :=
  match magnitude value with
  | .finite mantissa exponent =>
      let size :=
        if 0 ≤ exponent then mantissa <<< exponent.toNat else mantissa >>> (-exponent).toNat
      if isNegative value then -Int.ofNat size else Int.ofNat size
  | _ => 0

/-- The double without its fraction, rounded towards zero; the sign of a zero is kept. -/
def truncate (value : Float) : Float :=
  let exponent := exponentField value
  if 1075 ≤ exponent then value
  else if exponent < 1023 then Float.ofBits (value.toBits &&& 0x8000000000000000)
  else Float.ofBits (value.toBits &&& ~~~(((1 : UInt64) <<< (1075 - exponent)) - 1))

/-- The largest whole double that is not above the value. -/
def floor (value : Float) : Float :=
  let whole := truncate value
  if value < whole then whole - 1 else whole

/-- The smallest whole double that is not below the value. -/
def ceil (value : Float) : Float :=
  let whole := truncate value
  if whole < value then whole + 1 else whole

/-- The whole double nearest to the value; a half goes to the even neighbour. -/
def roundEven (value : Float) : Float :=
  let whole := truncate value
  let rest := (value - whole).abs
  let away := if isNegative value then whole - 1 else whole + 1
  if 0.5 < rest then away
  else if rest == 0.5 then
    if truncate (whole / 2) * 2 == whole then whole else away
  else whole

/-- The remainder of the truncated quotient. It has the sign of the dividend, and is exact. -/
def remainder (dividend divisor : Float) : Float :=
  match magnitude dividend, magnitude divisor with
  | .finite left leftExponent, .finite right rightExponent =>
      if right = 0 then notANumber
      else if rightExponent ≤ leftExponent then
        ofDyadic (isNegative dividend)
          ((left <<< (leftExponent - rightExponent).toNat) % right) rightExponent
      else
        ofDyadic (isNegative dividend)
          (left % (right <<< (rightExponent - leftExponent).toNat)) leftExponent
  | .finite _ _, .infinite => dividend
  | _, _ => notANumber

/-- The remainder of the floored quotient: it has the sign of the divisor, zero included. -/
def modulo (dividend divisor : Float) : Float :=
  let rest := remainder dividend divisor
  if divisor == 0 then rest
  else if rest == 0 then copySign 0 divisor
  else if (divisor < 0) != (rest < 0) then rest + divisor
  else rest

/-- The floored quotient. A zero divisor gives the plain quotient, an infinity or no number. -/
def floorQuotient (dividend divisor : Float) : Float :=
  if divisor == 0 then dividend / divisor
  else
    let rest := remainder dividend divisor
    let exact := (dividend - rest) / divisor
    let quotient := if !(rest == 0) && (divisor < 0) != (rest < 0) then exact - 1 else exact
    if quotient == 0 then copySign 0 (dividend / divisor)
    else
      let whole := floor quotient
      if 0.5 < quotient - whole then whole + 1 else whole

/-- The length of the hypotenuse over two legs; infinite legs win over ones that are no
number. -/
def hypotenuse (left right : Float) : Float :=
  if left.isInf || right.isInf then infinity
  else
    let long := if left.abs < right.abs then right.abs else left.abs
    let short := if left.abs < right.abs then left.abs else right.abs
    if long == 0 then long + short
    else
      let scale :=
        if powerOfTwo 500 < long then powerOfTwo (-600)
        else if long < powerOfTwo (-500) then powerOfTwo 600
        else 1
      let longScaled := long * scale
      let shortScaled := short * scale
      (longScaled * longScaled + shortScaled * shortScaled).sqrt / scale

end LiveGrid.Number.Double
