import LiveGrid.Number.Decimal

/-!
Contract: the values of the cells of the grid.

Owns:
- the size of the grid and the place of a cell in it;
- the canvas: one double a cell, row after row;
- reading and writing cells by their index, where a negative index counts from the end;
- the causes for which there is no canvas or no cell, and their texts.

Does not own: how values are computed and how they are shown.
-/

namespace LiveGrid

namespace Grid

/-- The number of columns. -/
def width : Nat := 32

/-- The number of rows. -/
def height : Nat := 32

/-- The number of cells. -/
def cellCount : Nat := width * height

/-- The column of a cell. -/
def column (index : Nat) : Nat := index % width

/-- The row of a cell. -/
def row (index : Nat) : Nat := index / width

end Grid

/-- One value a cell, row after row. -/
structure Canvas where
  values : List Float
  length_eq : values.length = Grid.cellCount

/-- Causes for which there is no canvas of a shape, or no cell with an index. -/
inductive CanvasFault where
  | negativeLength
  | wrongShape (shape : List Nat)
  | noCell (index : Int)

namespace Canvas

/-- The lengths of a shape in parentheses, with a comma behind a single one. -/
def writeShape : List Nat → String
  | [length] => "(" ++ Number.Decimal.numeral length ++ ",)"
  | lengths => "(" ++ String.intercalate ", " (lengths.map Number.Decimal.numeral) ++ ")"

/-- The canvas on which every cell is zero. -/
def blank : Canvas := ⟨List.replicate Grid.cellCount 0, List.length_replicate⟩

/-- The canvas of zeros in a given shape, which has to be a single row of all cells. -/
def zeros (shape : List Int) : Except CanvasFault Canvas :=
  if shape.any (· < 0) then .error .negativeLength
  else if shape.map Int.toNat = [Grid.cellCount] then .ok blank
  else .error (.wrongShape (shape.map Int.toNat))

/-- The place of an index; a negative index counts from the end. -/
def position? (index : Int) : Option Nat :=
  if 0 ≤ index ∧ index < Grid.cellCount then some index.toNat
  else if index < 0 ∧ -(Grid.cellCount : Int) ≤ index then
    some (index + Grid.cellCount).toNat
  else none

/-- The value of the cell with an index. -/
def get (canvas : Canvas) (index : Int) : Except CanvasFault Float :=
  match position? index with
  | some position => .ok (canvas.values.getD position 0)
  | none => .error (.noCell index)

/-- The canvas with a new value for the cell with an index. -/
def set (canvas : Canvas) (index : Int) (value : Float) : Except CanvasFault Canvas :=
  match position? index with
  | some position =>
      .ok ⟨canvas.values.set position value, by rw [List.length_set, canvas.length_eq]⟩
  | none => .error (.noCell index)

/-- Whether every cell is zero, of either sign. -/
def isBlank (canvas : Canvas) : Bool := canvas.values.all (· == 0)

end Canvas

/-- The text of a cause. -/
def CanvasFault.message : CanvasFault → String
  | .negativeLength => "negative dimensions are not allowed"
  | .wrongShape shape =>
      "canvas needs " ++ Number.Decimal.numeral Grid.cellCount ++ " values, got " ++
        Canvas.writeShape shape
  | .noCell index =>
      "index " ++ Number.Decimal.wholeNumeral index ++ " is out of bounds for axis 0 with size " ++
        Number.Decimal.numeral Grid.cellCount

end LiveGrid
