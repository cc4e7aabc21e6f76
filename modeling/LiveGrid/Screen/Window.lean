/-!
Contract: windows of characters, and what is written to them.

Owns:
- the size of a window, and whether it refuses what does not fit into it;
- writing a text at a place, and moving the cursor;
- what a window was told, what it refused, and where its cursor is.

A window that is not strict takes everything, wherever it lies.

Does not own: what is written.
-/

namespace LiveGrid

/-- The size of a window. A strict window refuses what does not fit into it. -/
structure WindowSize where
  rows : Int
  columns : Int
  isStrict : Bool := false
deriving DecidableEq, Repr

/-- A text at a place, with a style, which is its color and weight. -/
structure Write where
  row : Int
  column : Int
  text : String
  style : Int := 0
deriving DecidableEq, Repr

/-- What a window can be told. -/
inductive DrawStep where
  | write (value : Write)
  | move (row column : Int)
deriving DecidableEq, Repr

/-- Whether a stretch of a row lies inside a window. -/
def WindowSize.contains (size : WindowSize) (row column : Int) (length : Nat) : Bool :=
  0 ≤ row && 0 ≤ column && row < size.rows && column + length ≤ size.columns

/-- Whether a window takes a step. The place of a cursor is one character. -/
def WindowSize.accepts (size : WindowSize) : DrawStep → Bool
  | .write value => !size.isStrict || size.contains value.row value.column value.text.length
  | .move row column => !size.isStrict || size.contains row column 1

/-- A window: what was written to it, the last text first, how many steps it refused, and the place
of its cursor. -/
structure Window where
  size : WindowSize
  written : List Write := []
  refused : Nat := 0
  cursor : Int × Int := (0, 0)
deriving Repr

namespace Window

/-- What was written to the window, in order. -/
def writes (window : Window) : List Write := window.written.reverse

/-- Tells the window a step, which it may refuse. -/
def draw (window : Window) (step : DrawStep) : Window :=
  if window.size.accepts step then
    match step with
    | .write value => { window with written := value :: window.written }
    | .move row column => { window with cursor := (row, column) }
  else { window with refused := window.refused + 1 }

/-- Tells the window steps, each of which it may refuse. -/
def drawEach (window : Window) (steps : List DrawStep) : Window := steps.foldl draw window

/-- Tells the window steps until it refuses one. -/
def drawUntilRefused (window : Window) : List DrawStep → Window
  | [] => window
  | step :: rest =>
      if window.size.accepts step then (window.draw step).drawUntilRefused rest
      else window.draw step

/-- Forgets what was written. -/
def erase (window : Window) : Window := { window with written := [] }

end Window

end LiveGrid
