import LiveGrid.Number.Summation

/-!
Contract: the loudness of a stretch of sound.

Sound is a sequence of samples, single-precision numbers. Its loudness is the
mean of their magnitudes.

Owns:
- samples as bytes, four a sample, the least significant byte first;
- the loudness of samples, computed in single precision.

Does not own: where samples come from.
-/

namespace LiveGrid.Sound

/-- The sample of four bytes. -/
def sampleOf (b0 b1 b2 b3 : UInt8) : Float32 :=
  Float32.ofBits
    (b0.toUInt32 ||| b1.toUInt32 <<< 8 ||| b2.toUInt32 <<< 16 ||| b3.toUInt32 <<< 24)

/-- The samples of bytes; none if their number is not a multiple of four. -/
def samplesOf? : List UInt8 → Option (List Float32)
  | [] => some []
  | b0 :: b1 :: b2 :: b3 :: rest => (samplesOf? rest).map (sampleOf b0 b1 b2 b3 :: ·)
  | _ => none

/-- What is said of bytes whose number is not a multiple of four. -/
def partialSampleMessage : String := "buffer size must be a multiple of element size"

/-- The mean magnitude of samples; zero if there are none. -/
def loudness (samples : List Float32) : Float :=
  if samples.isEmpty then 0
  else
    let sum := Number.sumPairwise (-0.0) (samples.map Float32.abs)
    (sum / Float32.ofNat samples.length).toFloat

end LiveGrid.Sound
