import LiveGrid.Grid.Canvas

/-!
Contract: how full and of which color a value is shown.

Owns:
- the level of a value: how many eighths fit into its magnitude, seven at most;
- the color class of a value: zero, positive, or anything else.

A value that is not a number has level zero and the class of negative values.

Does not own: the glyphs of the levels and the colors of the classes.
-/

namespace LiveGrid.Grid

/-- How many of the thresholds 1/8, 2/8, … 7/8 the magnitude of a value reaches. -/
def level (value : Float) : Nat :=
  [0.125, 0.25, 0.375, 0.5, 0.625, 0.75, 0.875].countP (· ≤ value.abs)

/-- The color classes of values. -/
inductive ColorClass where
  | zero
  | positive
  | negative
deriving DecidableEq, Repr

/-- The color class of a value. -/
def colorClass (value : Float) : ColorClass :=
  if value == 0 then .zero
  else if value > 0 then .positive
  else .negative

end LiveGrid.Grid
