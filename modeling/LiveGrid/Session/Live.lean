import LiveGrid.Editor.Line
import LiveGrid.Grid.Frame
import LiveGrid.Session.Log
import LiveGrid.Session.Mode
import LiveGrid.Session.Pattern

/-!
Contract: the session, a machine that runs scripts and has them edited.

Owns:
- the state of a session: its mode, its canvas and the number of frames it has made;
- the clock, the log and the random numbers that it uses;
- ticks, which make frames while a script runs;
- the keys that it understands while a script runs;
- the end of an edit;
- the causes for which a call is broken off, and what it has done by then.

Every change of the mode is written to the log, and the log is never read. A call is
broken off if the log cannot encode a row of it, or if the compilation of a text
breaks off. It keeps then what it has done: what it has written to the log, and the
mode and the canvas as far as they were set. The rows of keys and of the start are
plain and their texts compile, so that these calls are never broken off.

Does not own: the editor, and how the session is shown.
-/

namespace LiveGrid

/-- The state of a session. -/
structure Session where
  clock : Clock
  log : Option Log
  random : Script.RandomStream
  frame : Nat
  canvas : Canvas
  mode : Mode

/-- Causes for which a call of a session is broken off. -/
inductive SessionFault where
  | notEditing
  | unfinished
  | reserved (target : Script.ReservedTarget)
  | unencodable (fault : EncodingFault)
deriving DecidableEq, Repr

/-- The text of a cause. -/
def SessionFault.message : SessionFault → String
  | .notEditing => "finish_edit() called while not editing"
  | .unfinished => "edit did not finish: EditOutcome.CONTINUE"
  | .reserved target => target.message
  | .unencodable fault => fault.message

/-- The digit that a key event types. -/
def KeyEvent.digit? (event : KeyEvent) : Option Nat :=
  match event.key, event.char.toList with
  | .char, [character] =>
      if character.isDigit then some (character.toNat - '0'.toNat) else none
  | _, _ => none

namespace Session

/-- Whether a script runs. -/
def isRunning (session : Session) : Bool := session.mode.isRunning

/-- Writes an event to the log, if there is one. -/
def tryNote (session : Session) (event detail : String) : Except SessionFault Unit × Session :=
  match session.log with
  | none => (.ok (), session)
  | some log =>
      let (result, log) := log.tryWrite session.frame event detail
      (result.mapError .unencodable, { session with log := some log })

/-- The session after an event was to be written to its log. -/
def note (session : Session) (event detail : String) : Session :=
  (session.tryNote event detail).2

/-- Goes on with a text, which runs if it compiles and is edited if it is refused. An error is told
before the mode changes. -/
def tryLoad (session : Session) (source : String) : Except SessionFault Unit × Session :=
  let (now, clock) := session.clock.read
  let session := { session with clock := clock }
  match Mode.construct source now with
  | .error target => (.error (.reserved target), session)
  | .ok (.running script start source) =>
      (.ok (), { session with mode := .running script start source })
  | .ok (.editing source error) =>
      match session.tryNote "compile_error" (error.getD "") with
      | (.error fault, session) => (.error fault, session)
      | (.ok (), session) => (.ok (), { session with mode := .editing source error })

/-- The session after it was to go on with a text. -/
def load (session : Session) (source : String) : Session := (session.tryLoad source).2

/-- Tells the log of a text, and goes on with it. -/
def tryReplace (session : Session) (event source : String) :
    Except SessionFault Unit × Session :=
  match session.tryNote event source with
  | (.error fault, session) => (.error fault, session)
  | (.ok (), session) => session.tryLoad source

/-- Makes every cell zero. -/
def clearCanvas (session : Session) : Session := { session with canvas := Canvas.blank }

/-- A session before its start. -/
def idle (clock : Clock) (log : Option Log) (random : Script.RandomStream) : Session :=
  { clock := clock, log := log, random := random, frame := 0, canvas := Canvas.blank,
    mode := .editing firstPattern none }

/-- A new session, which runs the first built-in script. -/
def start (clock : Clock) (log : Option Log) (random : Script.RandomStream) : Session :=
  ((idle clock log random).load firstPattern).note "start" firstPattern

/-- Makes a frame while a script runs. A cell that fails ends the frame and opens the editor; the
canvas is kept then. -/
def tryTick (session : Session) (loudness : Float) : Except SessionFault Unit × Session :=
  match session.mode with
  | .editing _ _ => (.ok (), session)
  | .running script start source =>
      let (now, clock) := session.clock.read
      match script.evaluateFrame session.canvas (now - start) loudness session.random with
      | (.ok canvas, random) =>
          (.ok (), { session with
            clock := clock, random := random, canvas := canvas, frame := session.frame + 1 })
      | (.error fault, random) =>
          let session :=
            { session with
              clock := clock, random := random, mode := .editing source (some fault.message) }
          session.tryNote "eval_error" fault.message

/-- The session after a frame was to be made. -/
def tick (session : Session) (loudness : Float) : Session := (session.tryTick loudness).2

/-- Loads the built-in script of a digit, if there is one. -/
def loadPattern (session : Session) (digit : Nat) : Session :=
  match patterns[digit]? with
  | none => session
  | some source =>
      ((session.note "pattern" (Number.Decimal.numeral digit)).load source).clearCanvas

/-- Handles a key while a script runs. The result is false if the key asks to quit. -/
def handleKey (session : Session) (event : KeyEvent) : Bool × Session :=
  match session.mode with
  | .editing _ _ => (true, session)
  | .running _ _ source =>
      if event.isInterrupt then (false, session.note "quit" "")
      else if event.key = .escape then
        (true, { session with mode := .editing source none }.note "edit" "")
      else
        match event.digit? with
        | some digit => (true, session.loadPattern digit)
        | none => (true, session)

/-- Handles keys one by one, as long as a script runs and until a poll brings nothing. The result is
false if a key asks to quit; the last part are the polls that were not made. -/
def handleKeys (session : Session) : List KeyPoll → Bool × Session × List KeyPoll
  | [] => (true, session, [])
  | poll :: rest =>
      if session.isRunning then
        match poll with
        | .event event =>
            match session.handleKey event with
            | (true, next) => next.handleKeys rest
            | (false, next) => (false, next, rest)
        | .ignored => session.handleKeys rest
        | .idle => (true, session, rest)
      else (true, session, poll :: rest)

/-- Ends an edit. What was submitted runs on an empty canvas; what was discarded is replaced by the
text from before the edit, and the canvas is kept. The result is false if the session is to quit. -/
def finishEdit (session : Session) (outcome : EditOutcome) (text : String) :
    Except SessionFault Bool × Session :=
  match session.mode with
  | .running _ _ _ => (.error .notEditing, session)
  | .editing source _ =>
      match outcome with
      | .quit => (.ok false, session.note "quit" "")
      | .submit =>
          match session.tryReplace "commit" text with
          | (.error fault, session) => (.error fault, session)
          | (.ok (), session) => (.ok true, session.clearCanvas)
      | .discard =>
          let (result, session) := session.tryReplace "discard" source
          (result.map fun _ => true, session)
      | .proceed => (.error .unfinished, session)

/-- The time since the script that runs was started; zero during an edit. -/
def elapsed (session : Session) : Float × Session :=
  match session.mode with
  | .editing _ _ => (0, session)
  | .running _ start _ =>
      let (now, clock) := session.clock.read
      (now - start, { session with clock := clock })

end Session

end LiveGrid
