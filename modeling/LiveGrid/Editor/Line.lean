import LiveGrid.Editor.Key
import LiveGrid.Text.Uppercase

/-!
Contract: a line of text with a cursor, and the loop that edits it.

Owns:
- the line: its elements, and a cursor that never leaves it;
- the primitive edits, and the edit that a key event asks for;
- the loop that feeds keys to a line until one of them ends the edit.

An element is what one key inserts. It is a single character unless upper-casing
turns that character into several, as it does with ß.

Does not own: how the line is shown.
-/

namespace LiveGrid

/-- A line and the place of its cursor: as many elements stand before the cursor as it says. -/
structure LineEditor where
  elements : List String
  cursor : Nat
  cursor_le : cursor ≤ elements.length

/-- How a key leaves an edit. All but `proceed` end it. -/
inductive EditOutcome where
  | proceed
  | submit
  | discard
  | quit
deriving DecidableEq, Repr

namespace LineEditor

/-- The editor of a text, an element a character, with the cursor at its end. -/
def ofText (text : String) : LineEditor :=
  ⟨text.toList.map String.singleton, (text.toList.map String.singleton).length, Nat.le_refl _⟩

/-- The text of the line. -/
def text (editor : LineEditor) : String := String.join editor.elements

/-- How many elements the line has. -/
def size (editor : LineEditor) : Nat := editor.elements.length

/-- The elements before the cursor. -/
def before (editor : LineEditor) : List String := editor.elements.take editor.cursor

/-- The elements after the cursor. -/
def after (editor : LineEditor) : List String := editor.elements.drop editor.cursor

/-- Puts an element before the cursor. -/
def insert (editor : LineEditor) (element : String) : LineEditor where
  elements := editor.before ++ element :: editor.after
  cursor := editor.cursor + 1
  cursor_le := by
    have bound := editor.cursor_le
    simp only [before, after, List.length_append, List.length_take, List.length_cons,
      List.length_drop]
    omega

/-- Removes the element before the cursor, if there is one. -/
def backspace (editor : LineEditor) : LineEditor where
  elements := editor.elements.take (editor.cursor - 1) ++ editor.after
  cursor := editor.cursor - 1
  cursor_le := by
    have bound := editor.cursor_le
    simp only [after, List.length_append, List.length_take, List.length_drop]
    omega

/-- Removes everything. -/
def clear (_editor : LineEditor) : LineEditor := ⟨[], 0, Nat.le_refl 0⟩

/-- Moves the cursor one element to the left, if there is one. -/
def left (editor : LineEditor) : LineEditor where
  elements := editor.elements
  cursor := editor.cursor - 1
  cursor_le := Nat.le_trans (Nat.sub_le _ _) editor.cursor_le

/-- Moves the cursor one element to the right, if there is one. -/
def right (editor : LineEditor) : LineEditor where
  elements := editor.elements
  cursor := min (editor.cursor + 1) editor.elements.length
  cursor_le := Nat.min_le_right _ _

/-- Moves the cursor before the first element. -/
def home (editor : LineEditor) : LineEditor := ⟨editor.elements, 0, Nat.zero_le _⟩

/-- Moves the cursor behind the last element. -/
def toEnd (editor : LineEditor) : LineEditor :=
  ⟨editor.elements, editor.elements.length, Nat.le_refl _⟩

/-- The line after a key event that does not end the edit. -/
def applyKey (editor : LineEditor) (event : KeyEvent) : LineEditor :=
  match event.key with
  | .char =>
      if event.ctrl then editor
      else editor.insert (if event.shift then Text.uppercase event.char else event.char)
  | .backspace => if event.shift then editor.clear else editor.backspace
  | .left => editor.left
  | .right => editor.right
  | .up => editor.home
  | .down => editor.toEnd
  | .enter => editor
  | .escape => editor

end LineEditor

/-- The outcome that a key event asks for, whatever the line holds. -/
def KeyEvent.outcome (event : KeyEvent) : EditOutcome :=
  if event.isInterrupt then .quit
  else match event.key with
    | .enter => .submit
    | .escape => .discard
    | _ => .proceed

namespace LineEditor

/-- Applies a key event. -/
def feed (editor : LineEditor) (event : KeyEvent) : EditOutcome × LineEditor :=
  match event.outcome with
  | .proceed => (.proceed, editor.applyKey event)
  | outcome => (outcome, editor)

end LineEditor

/-- An edit of a line: how it ended, if the keys lasted, the line at the end, the line at every
redraw, and the polls that were not made. -/
structure Edit where
  outcome : Option EditOutcome
  editor : LineEditor
  redraws : List LineEditor
  unread : List KeyPoll

/-- Edits a line with keys until one of them ends the edit. The line is redrawn before every poll;
a poll without an event changes nothing. -/
def editLine (editor : LineEditor) : List KeyPoll → Edit
  | [] => ⟨none, editor, [editor], []⟩
  | .event event :: rest =>
      match editor.feed event with
      | (.proceed, next) =>
          let edit := editLine next rest
          { edit with redraws := editor :: edit.redraws }
      | (outcome, next) => ⟨some outcome, next, [editor], rest⟩
  | .ignored :: rest =>
      let edit := editLine editor rest
      { edit with redraws := editor :: edit.redraws }
  | .idle :: rest =>
      let edit := editLine editor rest
      { edit with redraws := editor :: edit.redraws }

end LiveGrid
