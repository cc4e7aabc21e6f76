/-!
Contract: random numbers as a function of a seed and their place in a stream.

Owns: a mixing of 64 bits in which every bit of a place changes about half of the result, and the
double between zero and one that the upper 53 bits stand for.

Does not own: where the seed comes from.
-/

namespace LiveGrid.Number

/-- The bits of a place in the stream of a seed. -/
def mixedBits (seed : UInt64) (place : Nat) : UInt64 :=
  let z := seed + (place.toUInt64 + 1) * 0x9e3779b97f4a7c15
  let z := (z ^^^ (z >>> 30)) * 0xbf58476d1ce4e5b9
  let z := (z ^^^ (z >>> 27)) * 0x94d049bb133111eb
  z ^^^ (z >>> 31)

/-- The number between zero and one, without one, at a place in the stream of a seed. -/
def mixedUnit (seed : UInt64) (place : Nat) : Float :=
  Float.ofNat (mixedBits seed place >>> 11).toNat / 9007199254740992

end LiveGrid.Number
