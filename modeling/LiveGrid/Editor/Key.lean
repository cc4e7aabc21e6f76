import LiveGrid.Text.Printable

/-!
Contract: the keys that a session and its line editor understand.

Owns:
- key events: a key, its character and its modifiers;
- what a terminal delivers: a text or a key number;
- which deliveries are key events, and which are ignored;
- what one poll of the keyboard brings.

Does not own: what a key does.
-/

namespace LiveGrid

/-- The keys that have a meaning. -/
inductive Key where
  | char
  | enter
  | escape
  | backspace
  | left
  | right
  | up
  | down
deriving DecidableEq, Repr

/-- A key that was pressed. Only `Key.char` uses the text, which is one character as a rule. -/
structure KeyEvent where
  key : Key
  char : String := ""
  ctrl : Bool := false
  shift : Bool := false
deriving DecidableEq, Repr

/-- Whether a key asks to quit: the letter c, of either case, with the control key. -/
def KeyEvent.isInterrupt (event : KeyEvent) : Bool :=
  event.key == .char && event.ctrl && (event.char == "c" || event.char == "C")

/-- What a terminal delivers for a key: the text that was typed, or the number of a special key. -/
inductive KeyInput where
  | text (value : String)
  | number (value : Int)
deriving DecidableEq, Repr

/-- The special keys by their numbers. -/
def specialKey? : Int → Option KeyEvent
  | 343 => some ⟨.enter, "", false, false⟩
  | 263 => some ⟨.backspace, "", false, false⟩
  | 260 => some ⟨.left, "", false, false⟩
  | 261 => some ⟨.right, "", false, false⟩
  | 259 => some ⟨.up, "", false, false⟩
  | 258 => some ⟨.down, "", false, false⟩
  | _ => none

/-- The key events of control characters. A terminal has no backspace with shift, so control-u
stands for it. -/
def controlKey? : Char → Option KeyEvent
  | '\x03' => some ⟨.char, "c", true, false⟩
  | '\x1b' => some ⟨.escape, "", false, false⟩
  | '\n' => some ⟨.enter, "", false, false⟩
  | '\r' => some ⟨.enter, "", false, false⟩
  | '\x7f' => some ⟨.backspace, "", false, false⟩
  | '\x08' => some ⟨.backspace, "", false, false⟩
  | '\x15' => some ⟨.backspace, "", false, true⟩
  | _ => none

/-- The key event of a delivery. A text is one if it is a single character, either a known control
character or a printable one. -/
def KeyInput.event? : KeyInput → Option KeyEvent
  | .number value => specialKey? value
  | .text value =>
      match value.toList with
      | [character] =>
          match controlKey? character with
          | some event => some event
          | none =>
              if Text.isPrintable character then some ⟨.char, value, false, false⟩ else none
      | _ => none

/-- What a poll of the keyboard brings: an event, a delivery that is ignored, or nothing. -/
inductive KeyPoll where
  | event (value : KeyEvent)
  | ignored
  | idle
deriving DecidableEq, Repr

/-- The poll that gets a delivery, if there is one. -/
def KeyPoll.ofInput : Option KeyInput → KeyPoll
  | none => .idle
  | some input =>
      match input.event? with
      | some value => .event value
      | none => .ignored

end LiveGrid
