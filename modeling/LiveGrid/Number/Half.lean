import LiveGrid.Number.Double

/-!
Contract: half precision numbers, stored as their sixteen bits.

Owns:
- the exact double of a half and the half nearest to a double, ties to even;
- arithmetic as the exact operation followed by that one rounding.

Does not own: the choice of when a script computes in half precision.
-/

namespace LiveGrid.Number

/-- A half precision number: one sign bit, five exponent bits, ten fraction bits. -/
structure Half where
  bits : UInt16
deriving DecidableEq, Repr, Inhabited

namespace Half

/-- The double with exactly the value of a half. -/
def toDouble (half : Half) : Float :=
  let bits := half.bits.toNat
  let negative := twoTo 15 ≤ bits
  let exponent := bits / twoTo 10 % twoTo 5
  let fraction := bits % twoTo 10
  if exponent = 31 then
    if fraction = 0 then Double.withSign negative Double.infinity else Double.notANumber
  else if exponent = 0 then Double.ofDyadic negative fraction (-24)
  else Double.ofDyadic negative (fraction + twoTo 10) (Int.ofNat exponent - 25)

/-- The half with a sign and a magnitude of at most sixteen bits less one. -/
def ofMagnitude (negative : Bool) (bits : Nat) : Half :=
  ⟨UInt16.ofNat ((if negative then twoTo 15 else 0) + bits)⟩

/-- The bits of an infinite magnitude. -/
def infiniteBits : Nat := 31 * twoTo 10

/-- The half nearest to a double; a half step goes to the even neighbour, and magnitudes
beyond the largest half become infinite. -/
def ofDouble (value : Float) : Half :=
  let negative := Double.isNegative value
  match Double.magnitude value with
  | .notANumber => ⟨0x7e00⟩
  | .infinite => ofMagnitude negative infiniteBits
  | .finite mantissa exponent =>
      if mantissa = 0 then ofMagnitude negative 0
      else
        let unit := max (exponent + Int.ofNat mantissa.log2 - 10) (-24)
        let rounded :=
          if unit ≤ exponent then mantissa <<< (exponent - unit).toNat
          else roundQuotient mantissa (1 <<< (unit - exponent).toNat)
        ofMagnitude negative (min ((unit + 24).toNat * twoTo 10 + rounded) infiniteBits)

/-- The exact operation on doubles, rounded to a half. -/
def lift (operation : Float → Float) (operand : Half) : Half :=
  ofDouble (operation operand.toDouble)

end Half

end LiveGrid.Number
