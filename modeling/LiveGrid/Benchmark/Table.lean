import LiveGrid.Number.Decimal
import LiveGrid.Number.Sample

/-!
Contract: the table of times that a benchmark prints.

Owns:
- the row of a component: its name, then mean, median, two percentiles and maximum, in milliseconds;
- the heading of the table.

Does not own: which components there are.
-/

namespace LiveGrid.Benchmark

open LiveGrid.Number

/-- A text that is padded to the width of a column of figures. -/
def figureColumn (text : String) : String := Decimal.padLeft 8 ' ' text

/-- A name that is padded to the width of the first column. -/
def nameColumn (name : String) : String := Decimal.padRight 25 ' ' name

/-- Seconds in milliseconds. -/
def milliseconds (seconds : List Float) : List Float := seconds.map (· * 1000)

/-- The heading of the table, and the line below it. -/
def heading : List String :=
  [String.intercalate " "
      (nameColumn "Component" :: ["Mean", "P50", "P95", "P99", "Max"].map figureColumn),
   String.ofList (List.replicate 73 '-')]

/-- The row of a component with its times in seconds; none without times. -/
def row? (name : String) (seconds : List Float) : Option String := do
  let times := milliseconds seconds
  let high ← Sample.percentile? 95 times
  let highest ← Sample.percentile? 99 times
  let figures := [Sample.mean times, Sample.median times, high, highest, Sample.maximum times]
  some (String.intercalate " "
    (nameColumn name :: figures.map fun figure => figureColumn (Decimal.fixed 2 figure)))

/-- What is said of a component without times. -/
def noTimesMessage : String := "index -1 is out of bounds for axis 0 with size 0"

end LiveGrid.Benchmark
