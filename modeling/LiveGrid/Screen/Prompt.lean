import LiveGrid.Editor.Line
import LiveGrid.Number.Decimal
import LiveGrid.Screen.Color
import LiveGrid.Screen.Window

/-!
Contract: the prompt line, with an error above it.

Owns:
- the lines of a text and how they are wrapped to a width;
- the rows of an error, which end directly above the prompt;
- the part of the prompt line that is shown, so that the cursor is always in it.

The rows of an error are drawn each on its own. The prompt line is drawn step by
step until the window refuses one.

Does not own: the line that is edited.
-/

namespace LiveGrid.Screen

/-- The text before the line that is edited. -/
def promptText : String := "(t,i,x,y,v,a)=>"

/-- Whether a character ends a line. -/
def isLineEnd (character : Char) : Bool :=
  ['\n', '\r', '\x0b', '\x0c', '\x1c', '\x1d', '\x1e', '\u0085', '\u2028', '\u2029'].contains
    character

/-- The lines of a text, given the reversed beginning of its first one. A carriage return and a
line feed end a line together, and nothing follows the last line end. -/
def linesFrom (current : List Char) : List Char → List (List Char)
  | [] => if current.isEmpty then [] else [current.reverse]
  | '\r' :: '\n' :: rest => current.reverse :: linesFrom [] rest
  | character :: rest =>
      if isLineEnd character then current.reverse :: linesFrom [] rest
      else linesFrom (character :: current) rest

/-- The lines of a text. -/
def linesOf (text : String) : List (List Char) := linesFrom [] text.toList

/-- The pieces of a line with at most `width` characters each, at least one of them. The first
number bounds how many there are. -/
def piecesOf (width : Nat) : Nat → List Char → List (List Char)
  | 0, line => [line]
  | fuel + 1, line =>
      if line.length ≤ width then [line]
      else line.take width :: piecesOf width fuel (line.drop width)

/-- The pieces of a text: its lines, wrapped to a width. -/
def wrap (width : Nat) (text : String) : List (List Char) :=
  (linesOf text).flatMap fun line => piecesOf width line.length line

/-- The number of columns that a prompt uses in a window. -/
def promptWidth (size : WindowSize) : Nat := max 1 (size.columns - 1).toNat

/-- What is written for an error: its pieces, above the row of the prompt. Pieces at the end are
left out if there are too many. -/
def errorSteps (size : WindowSize) (colors : ColorMap) (error : String) : List DrawStep :=
  let width := promptWidth size
  let row := size.rows - 1
  let pieces := wrap width error
  let top := max 0 (row - pieces.length)
  let shown := if top ≤ row then pieces.take (row - top).toNat
    else pieces.take (pieces.length - (top - row).toNat)
  shown.zipIdx.map fun (piece, index) =>
    .write
      { row := top + index
        column := 0
        text := Number.Decimal.padRight width ' ' (String.ofList piece)
        style := colors.style .error }

/-- What is drawn for the line that is edited: spaces, the prompt, the text and the cursor. Both
move to the left as far as the cursor needs it. -/
def lineSteps (size : WindowSize) (colors : ColorMap) (editor : LineEditor) : List DrawStep :=
  let width := promptWidth size
  let row := size.rows - 1
  let prompt := promptText.toList
  let cursorColumn := prompt.length + editor.cursor
  let offset := cursorColumn - (width - 1)
  let promptPart := prompt.drop offset
  let textPart := editor.text.toList.drop (offset - prompt.length)
  let blank : DrawStep :=
    .write { row := row, column := 0, text := String.ofList (List.replicate width ' ') }
  let promptStep : DrawStep :=
    .write
      { row := row
        column := 0
        text := String.ofList (promptPart.take width)
        style := colors.style .prompt }
  let textStep : DrawStep :=
    .write
      { row := row
        column := promptPart.length
        text := String.ofList (textPart.take (width - promptPart.length))
        style := colors.style .text }
  let cursorStep : DrawStep := .move row (min (cursorColumn - offset) width : Nat)
  if promptPart.length < width then [blank, promptStep, textStep, cursorStep]
  else [blank, promptStep, cursorStep]

/-- Draws an error, if there is one, and the prompt. -/
def drawPrompt (window : Window) (colors : ColorMap) (editor : LineEditor)
    (error : Option String) : Window :=
  let above :=
    match error with
    | some text => if text.isEmpty then [] else errorSteps window.size colors text
    | none => []
  (window.drawEach above).drawUntilRefused (lineSteps window.size colors editor)

end LiveGrid.Screen
