import LiveGrid.Screen.Picture
import LiveGrid.Screen.Prompt
import LiveGrid.Screen.Status
import LiveGrid.Sound.Microphone

/-!
Contract: a run of the program in a terminal, from its start until a key asks to quit.

Owns:
- what the program tells the terminal, call by call;
- a frame of a running script: a tick for the loudness of that moment, a picture, and the keys that
  wait;
- an edit: the picture below the prompt, which is drawn anew before every key;
- the pause after both, which keeps the frames at their rate;
- the end of a run by a call that is broken off.

The keys of a run are a finite list that is followed by a key that asks to quit.
Time stands still except that showing a window takes some time, each time its own,
with what comes before the next call, and that pauses last.

Does not own: the terminal.
-/

namespace LiveGrid

/-- What a run is asked to do. -/
structure RunSettings where
  framesPerSecond : Float := 30
  usesMicrophone : Bool := true
  writesLog : Bool := true

/-- What the program tells the terminal. A refresh shows what the window holds. -/
inductive TerminalCall where
  | raw
  | cursor (visibility : Nat)
  | keypad (on : Bool)
  | noDelay (on : Bool)
  | startColor
  | useDefaultColors
  | pair (value : ColorPair)
  | refresh (window : Window)
  | sleep (seconds : Float)

/-- The surroundings of a run: the window, the numbers of colors and of pairs of colors, what the
sound system does and what the worker of the microphone hears before each frame, the log's file, the
time, what each refresh costs, and the random numbers. -/
structure Surroundings where
  size : WindowSize
  colors : Int := 256
  pairs : Int := 256
  sound : Sound.System := .missing
  chunks : Nat → List Sound.Chunk := fun _ => []
  logFile : LogFile := {}
  now : Float := 0
  cost : Nat → Float := fun _ => 0
  random : Script.RandomStream

/-- The state of a run: the session, the window, the microphone and how many frames it was heard
for, the time and how many refreshes took some of it, the polls of the keyboard that are still to
come, the calls so far, the last one first, and the fault that has ended the run, if one has. -/
structure Run where
  session : Session
  window : Window
  colors : ColorMap
  microphone : Microphone
  chunks : Nat → List Sound.Chunk
  heard : Nat := 0
  now : Float
  cost : Nat → Float
  refreshes : Nat := 0
  budget : Float
  polls : List KeyPoll
  calls : List TerminalCall
  fault : Option SessionFault := none

namespace Run

/-- The key that asks to quit. -/
def quitKey : KeyEvent := { key := .char, char := "c", ctrl := true }

/-- The time that a frame may take. -/
def frameBudget (framesPerSecond : Float) : Float :=
  1.0 / (if 0.001 > framesPerSecond then 0.001 else framesPerSecond)

/-- Tells the terminal something. -/
def tell (run : Run) (call : TerminalCall) : Run := { run with calls := call :: run.calls }

/-- Lets time pass, for the session and for its log. -/
def pass (run : Run) (seconds : Float) : Run :=
  let now := run.now + seconds
  let clock := Clock.still now
  { run with
    now := now
    session :=
      { run.session with
        clock := clock
        log := run.session.log.map fun log => { log with clock := clock } } }

/-- Empties the window that was shown, and lets the time of a refresh pass. -/
def clear (run : Run) : Run :=
  { run with window := run.window.erase, refreshes := run.refreshes + 1 }.pass
    (run.cost run.refreshes)

/-- Shows what the window holds. -/
def refresh (run : Run) : Run := (run.tell (.refresh run.window)).clear

/-- Lets the worker of the microphone hear what comes before a frame. -/
def hear (run : Run) : Run :=
  let microphone :=
    if run.microphone.isRunning then
      (run.microphone.capture (run.chunks run.heard)).getLastD run.microphone
    else run.microphone
  { run with microphone := microphone, heard := run.heard + 1 }

/-- A run that is ended by a call of its session that was broken off. -/
def breakOff (run : Run) (session : Session) (fault : SessionFault) : Run :=
  { run with session := session, fault := some fault }

/-- Draws the canvas of the session on an empty window. -/
def drawCanvas (run : Run) (status : String) : Run :=
  { run with
    window := Screen.drawPicture run.window.erase run.colors run.session.canvas status }

/-- A frame of a running script, and the keys that wait. The result is false if one asks to quit. -/
def frame (run : Run) : Bool × Run :=
  let run := run.hear
  let loudness := run.microphone.volume
  match run.session.tryTick loudness with
  | (.error fault, session) => (false, run.breakOff session fault)
  | (.ok (), session) =>
      let (status, session) := session.statusLine loudness
      let shown := ({ run with session := session }.drawCanvas status).refresh
      let (goesOn, session, polls) := shown.session.handleKeys shown.polls
      (goesOn, { shown with session := session, polls := polls })

/-- Draws the prompt with a line and an error, and shows it. -/
def redraw (error : Option String) (run : Run) (editor : LineEditor) : Run :=
  { run with window := Screen.drawPrompt run.window run.colors editor error }.refresh

/-- A run after the last key of an edit, which its session is not told yet. -/
def closed (run : Run) (source : String) (error : Option String) : Run :=
  let opened := ((run.drawCanvas "").tell (.cursor 1)).tell (.noDelay false)
  let edit := editLine (LineEditor.ofText source) opened.polls
  let drawn := edit.redraws.foldl (redraw error) opened
  let closed := (drawn.tell (.noDelay true)).tell (.cursor 0)
  { closed with window := closed.window.erase, polls := edit.unread }

/-- A run whose session was told of the end of an edit. -/
def conclude (run : Run) : Except SessionFault Bool × Session → Bool × Run
  | (.ok goesOn, session) => (goesOn, { run with session := session })
  | (.error fault, session) => (false, run.breakOff session fault)

/-- An edit of a text after an error. The result is false if a key asks to quit. -/
def edit (run : Run) (source : String) (error : Option String) : Bool × Run :=
  let edit := editLine (LineEditor.ofText source) run.polls
  let closed := run.closed source error
  match edit.outcome with
  | none => (false, closed)
  | some outcome => closed.conclude (closed.session.finishEdit outcome edit.editor.text)

/-- A frame or an edit, as the mode asks for, and the pause after it. -/
def turn (run : Run) : Bool × Run :=
  let (goesOn, next) :=
    match run.session.mode with
    | .running _ _ _ => run.frame
    | .editing source error => run.edit source error
  if goesOn then
    let delay := run.budget - (next.now - run.now)
    if delay > 0 then (true, (next.tell (.sleep delay)).pass delay) else (true, next)
  else (false, next)

/-- Turns until one does not go on, or as many as there may be. -/
def turns : Nat → Run → Run
  | 0, run => run
  | fuel + 1, run =>
      match run.turn with
      | (true, next) => turns fuel next
      | (false, next) => next

/-- Closes the log. -/
def finish (run : Run) : Run :=
  { run with session := { run.session with log := run.session.log.map (·.closeFile) } }

/-- What the terminal is told before the first frame. -/
def openingCalls (pairs : List ColorPair) : List TerminalCall :=
  [.raw, .cursor 0, .keypad true, .noDelay true, .startColor, .useDefaultColors] ++
    pairs.map TerminalCall.pair

/-- The log of a run before its session starts, and the microphone. A microphone that cannot be
started is told to the log. -/
def prepare (settings : RunSettings) (around : Surroundings) :
    Except EncodingFault Unit × Log × Microphone :=
  let log := Log.new (Clock.still around.now) around.logFile
  let log := if settings.writesLog then log.openFile else log
  let (hasStarted, microphone, _) :=
    if settings.usesMicrophone then Microphone.start {} around.sound else (true, {}, [])
  if hasStarted then (.ok (), log, microphone)
  else
    let (result, log) := log.tryWrite 0 "audio" (microphone.error.getD "unavailable")
    (result, log, microphone)

/-- A run before its first frame. Its session is started unless the log cannot encode why there is
no microphone. -/
def opening (settings : RunSettings) (around : Surroundings) (polls : List KeyPoll) : Run :=
  let clock := Clock.still around.now
  let pairs := colorPairs around.colors around.pairs
  let (result, log, microphone) := prepare settings around
  let (session, fault) : Session × Option SessionFault :=
    match result with
    | .ok () => (Session.start clock (some log) around.random, none)
    | .error fault => (Session.idle clock (some log) around.random, some (.unencodable fault))
  { session := session
    window := { size := around.size }
    colors := ColorMap.ofPairs pairs
    microphone := microphone
    chunks := around.chunks
    now := around.now
    cost := around.cost
    budget := frameBudget settings.framesPerSecond
    polls := polls ++ [.event quitKey]
    calls := (openingCalls pairs).reverse
    fault := fault }

/-- A run from its start until a key asks to quit or a call is broken off. Every turn but the failing
frame before an edit takes a key, so twice as many turns as there are keys suffice. The log is not
closed if the run has not even begun. -/
def ofKeys (settings : RunSettings) (around : Surroundings) (inputs : List (Option KeyInput)) : Run :=
  let polls := inputs.map KeyPoll.ofInput
  let opened := opening settings around polls
  if opened.fault.isSome then opened else (turns (2 * (polls.length + 1)) opened).finish

/-- The calls of a run, in order. -/
def trace (run : Run) : List TerminalCall := run.calls.reverse

/-- How many of the keys were not taken. The last poll is not one of them. -/
def keysLeft (run : Run) : Nat := run.polls.length - 1

/-- The text of the log. -/
def logText (run : Run) : Option String := run.session.log.bind (·.file.text)

end Run

end LiveGrid
