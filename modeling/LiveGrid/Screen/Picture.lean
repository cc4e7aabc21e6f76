import LiveGrid.Grid.Shade
import LiveGrid.Screen.Color
import LiveGrid.Screen.Window

/-!
Contract: the picture of a canvas, with a status line below it.

Owns:
- the glyphs of the levels;
- where the grid lies in a window: in its middle, every cell two columns wide;
- the text and the style of every cell;
- the status line, dim and cut to the window, in the last row.

What a window refuses is left out; everything else is drawn.

Does not own: the text of the status line.
-/

namespace LiveGrid

namespace Grid

/-- The glyphs of the levels, from empty to full. -/
def glyphs : List Char := [' ', '.', '+', '#', '░', '▒', '▓', '█']

/-- The glyph of a level. -/
def glyph (level : Nat) : Char := glyphs.getD level ' '

/-- The row and the column at which the grid begins in a window of a given size. -/
def origin (rows columns : Int) : Int × Int :=
  (max 0 (rows.fdiv 2 - (height / 2 : Nat)), max 0 (columns.fdiv 2 - (width : Nat)))

end Grid

/-- The role whose color a value is shown in. -/
def Grid.ColorClass.role : Grid.ColorClass → ColorRole
  | .zero => .zero
  | .positive => .positive
  | .negative => .negative

namespace Screen

/-- The style of dim text. -/
def dim : Int := 1048576

/-- The text of a cell: its glyph, twice. -/
def cellText (value : Float) : String :=
  let glyph := Grid.glyph (Grid.level value)
  String.ofList [glyph, glyph]

/-- What is written for the cell with an index. -/
def cellWrite (size : WindowSize) (colors : ColorMap) (index : Nat) (value : Float) : Write :=
  let origin := Grid.origin size.rows size.columns
  { row := origin.1 + Grid.row index
    column := origin.2 + 2 * Grid.column index
    text := cellText value
    style := colors.style (Grid.colorClass value).role }

/-- What is written for all cells. -/
def gridSteps (size : WindowSize) (colors : ColorMap) (canvas : Canvas) : List DrawStep :=
  canvas.values.zipIdx.map fun (value, index) => .write (cellWrite size colors index value)

/-- What is written for a status line. It leaves the last column free. -/
def statusSteps (size : WindowSize) (status : String) : List DrawStep :=
  if status.isEmpty || size.columns ≤ 1 then []
  else
    [.write
      { row := size.rows - 1
        column := 0
        text := String.ofList (status.toList.take (size.columns - 1).toNat)
        style := dim }]

/-- Draws a canvas and a status line. -/
def drawPicture (window : Window) (colors : ColorMap) (canvas : Canvas) (status : String) :
    Window :=
  window.drawEach (gridSteps window.size colors canvas ++ statusSteps window.size status)

end Screen

end LiveGrid
