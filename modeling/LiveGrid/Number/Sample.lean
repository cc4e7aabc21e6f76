import LiveGrid.Number.Double
import LiveGrid.Number.Summation

/-!
Contract: figures that describe a sample of doubles.

Owns:
- the mean, the median and the maximum;
- percentiles, which lie between two values of the sample on a straight line.

A sample that holds something that is not a number has no figures: all of them
are not a number. A percentile of an empty sample does not exist.

Does not own: how figures are written.
-/

namespace LiveGrid.Number.Sample

/-- The mean of a sample. -/
def mean (values : List Float) : Float :=
  sumPairwise (-0.0) values / Float.ofNat values.length

/-- Whether a sample holds something that is not a number. -/
def hasGap (values : List Float) : Bool := values.any Float.isNaN

/-- The values of a sample in ascending order. -/
def ascending (values : List Float) : List Float := values.mergeSort (· ≤ ·)

/-- The middle value of a sample, or the mean of the two middle values. -/
def median (values : List Float) : Float :=
  let sorted := ascending values
  let half := values.length / 2
  if values.isEmpty || hasGap values then Double.notANumber
  else if values.length % 2 = 1 then mean (sorted.drop half |>.take 1)
  else mean (sorted.drop (half - 1) |>.take 2)

/-- The point between two values at a fraction of the way; computed from the nearer end. -/
def between (low high fraction : Float) : Float :=
  let distance := high - low
  if fraction ≥ 0.5 then high - distance * (1 - fraction)
  else low + distance * fraction

/-- The value below which a percentage of a sample lies; none for an empty sample. -/
def percentile? (percent : Float) (values : List Float) : Option Float :=
  let sorted := (ascending values).toArray
  match sorted.back? with
  | none => none
  | some last =>
      if hasGap values then some Double.notANumber
      else
        let top := Float.ofNat (sorted.size - 1)
        let place := top * (percent / 100)
        if place ≥ top then some (between last last (place - -1))
        else
          let position := Double.floor place
          let index := (Double.toWhole position).toNat
          let low := sorted[index]?.getD last
          let high := sorted[index + 1]?.getD last
          some (between low high (place - position))

/-- The greatest value of a sample. -/
def maximum (values : List Float) : Float :=
  if hasGap values then Double.notANumber
  else values.foldl (fun greatest value => if value > greatest then value else greatest)
    (-Double.infinity)

end LiveGrid.Number.Sample
