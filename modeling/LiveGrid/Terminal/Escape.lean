import LiveGrid.Editor.Key
import LiveGrid.Number.Decimal
import LiveGrid.Terminal.Run

/-!
Contract: the control sequences of a terminal that speaks plain text.

Owns:
- the keys that a typed text stands for, where some sequences stand for special keys;
- the text that shows what a run tells the terminal.

Does not own: reading and writing.
-/

namespace LiveGrid.Terminal

open LiveGrid.Number

/-- The keys that a typed text stands for. -/
def keysOf : List Char → List KeyInput
  | [] => []
  | '\x1b' :: '[' :: 'A' :: rest => .number 259 :: keysOf rest
  | '\x1b' :: '[' :: 'B' :: rest => .number 258 :: keysOf rest
  | '\x1b' :: '[' :: 'C' :: rest => .number 261 :: keysOf rest
  | '\x1b' :: '[' :: 'D' :: rest => .number 260 :: keysOf rest
  | character :: rest => .text (String.singleton character) :: keysOf rest

/-- Moves the cursor; rows and columns count from one there. -/
def moveText (row column : Int) : String :=
  "\x1b[" ++ Decimal.wholeNumeral (row + 1) ++ ";" ++ Decimal.wholeNumeral (column + 1) ++ "H"

/-- Chooses the style of a text, given the pairs of colors that are known. -/
def styleText (pairs : List ColorPair) (style : Int) : String :=
  if style = Screen.dim then "\x1b[0;2m"
  else
    match pairs.find? (fun pair => ColorMap.pairStyle pair.number = style) with
    | some pair => "\x1b[0;38;5;" ++ Decimal.numeral pair.color ++ "m"
    | none => "\x1b[0m"

/-- Shows a text at its place. -/
def writeText (pairs : List ColorPair) (write : Write) : String :=
  moveText write.row write.column ++ styleText pairs write.style ++ write.text

/-- Shows what a window holds, and the cursor. -/
def windowText (pairs : List ColorPair) (window : Window) : String :=
  String.join (window.writes.map (writeText pairs)) ++
    moveText window.cursor.1 window.cursor.2

/-- The text that does what a call asks for. Pauses and the modes of the keyboard have none. -/
def callText (pairs : List ColorPair) : TerminalCall → String
  | .cursor visibility => if visibility = 0 then "\x1b[?25l" else "\x1b[?25h"
  | .refresh window => windowText pairs window
  | _ => ""

/-- Empties the screen. -/
def clearText : String := "\x1b[2J"

/-- Leaves the screen as it was found: plain style, and a visible cursor below everything. -/
def leaveText (size : WindowSize) : String :=
  "\x1b[0m\x1b[?25h" ++ moveText (size.rows - 1) 0 ++ "\n"

end LiveGrid.Terminal
