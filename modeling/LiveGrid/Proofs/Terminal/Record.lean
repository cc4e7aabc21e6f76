import LiveGrid.Proofs.Terminal.Turn

/-!
Contract: a run as its terminal sees it, call by call and read by read.

Owns:
- what happens between a run and its terminal: calls, and reads of the keyboard with who makes them;
- a run that keeps a record of that, and reads each poll when it needs it;
- the record changes nothing: without it such a run is the run itself.

A run takes all polls of an edit and then redraws as often. One with a record redraws before each of
them, as the line then is. Redrawing does not look at the polls, so both come to the same.

Does not own: what a record obeys.
-/

namespace LiveGrid

/-- Who reads the keyboard: the session while a script runs, or a line that is edited after an
error. -/
inductive Reader where
  | session
  | line (editor : LineEditor) (error : Option String)

/-- What happens between a run and its terminal: a call, or a read in some mode of the session. -/
inductive TerminalEvent where
  | call (call : TerminalCall)
  | read (mode : Mode) (reader : Reader) (poll : KeyPoll)

def TerminalEvent.call? : TerminalEvent → Option TerminalCall
  | .call told => some told
  | .read _ _ _ => none

def TerminalEvent.poll? : TerminalEvent → Option KeyPoll
  | .call _ => none
  | .read _ _ poll => some poll

/-- A run with what has happened between it and its terminal, in order. -/
structure Recorded where
  run : Run
  events : List TerminalEvent

namespace Recorded

def calls (recorded : Recorded) : List TerminalCall :=
  recorded.events.filterMap TerminalEvent.call?

def reads (recorded : Recorded) : List KeyPoll := recorded.events.filterMap TerminalEvent.poll?

/-! ## Steps -/

/-- A step that the terminal does not notice. -/
def silently (recorded : Recorded) (step : Run → Run) : Recorded :=
  { recorded with run := step recorded.run }

def tell (recorded : Recorded) (call : TerminalCall) : Recorded :=
  ⟨recorded.run.tell call, recorded.events ++ [.call call]⟩

def refresh (recorded : Recorded) : Recorded :=
  (recorded.tell (.refresh recorded.run.window)).silently Run.clear

/-- Reads a poll, after which others are still to come. -/
def read (recorded : Recorded) (reader : Reader) (poll : KeyPoll) (rest : List KeyPoll) :
    Recorded :=
  ⟨{ recorded.run with polls := rest },
    recorded.events ++ [.read recorded.run.session.mode reader poll]⟩

/-- Draws the prompt with a line and an error, and shows it. -/
def redraw (recorded : Recorded) (error : Option String) (editor : LineEditor) : Recorded :=
  (recorded.silently fun run =>
    { run with window := Screen.drawPrompt run.window run.colors editor error }).refresh

/-- Reads keys one by one, as long as a script runs and until a poll brings nothing. The result is
false if a key asks to quit. -/
def handlePolls (recorded : Recorded) : List KeyPoll → Bool × Recorded
  | [] => (true, recorded)
  | poll :: rest =>
      if recorded.run.session.isRunning then
        let after := recorded.read .session poll rest
        match poll with
        | .event event =>
            match after.run.session.handleKey event with
            | (true, next) => (after.silently ({ · with session := next })).handlePolls rest
            | (false, next) => (false, after.silently ({ · with session := next }))
        | .ignored => after.handlePolls rest
        | .idle => (true, after)
      else (true, recorded)

/-- Redraws the line and reads a key in turn, until a key ends the edit. -/
def editPolls (recorded : Recorded) (error : Option String) (editor : LineEditor) :
    List KeyPoll → Option EditOutcome × LineEditor × Recorded
  | [] => (none, editor, recorded.redraw error editor)
  | poll :: rest =>
      let after := (recorded.redraw error editor).read (.line editor error) poll rest
      match poll with
      | .event event =>
          match editor.feed event with
          | (.proceed, next) => after.editPolls error next rest
          | (outcome, next) => (some outcome, next, after)
      | .ignored => after.editPolls error editor rest
      | .idle => after.editPolls error editor rest

/-! ## Turns -/

/-- A frame of a running script, and the keys that wait. -/
def frame (recorded : Recorded) : Bool × Recorded :=
  let heard := recorded.silently Run.hear
  let loudness := heard.run.microphone.volume
  match heard.run.session.tryTick loudness with
  | (.error fault, session) => (false, heard.silently (·.breakOff session fault))
  | (.ok (), session) =>
      let (status, session) := session.statusLine loudness
      let shown :=
        (heard.silently fun run =>
          ({ run with session := session } : Run).drawCanvas status).refresh
      shown.handlePolls shown.run.polls

/-- A window with the picture, a cursor that shows, and reads that wait. -/
def openEdit (recorded : Recorded) : Recorded :=
  ((recorded.silently (·.drawCanvas "")).tell (.cursor 1)).tell (.noDelay false)

/-- Reads that do not wait, a hidden cursor, and an empty window. -/
def closeEdit (recorded : Recorded) : Recorded :=
  ((recorded.tell (.noDelay true)).tell (.cursor 0)).silently fun run =>
    { run with window := run.window.erase }

/-- Tells the session how an edit has ended. -/
def endEdit (recorded : Recorded) (editor : LineEditor) :
    Option EditOutcome → Bool × Recorded
  | none => (false, recorded)
  | some outcome =>
      let (result, session) := recorded.run.session.finishEdit outcome editor.text
      (result.toOption.getD false, recorded.silently (·.ended result session))

/-- An edit of a text after an error. -/
def edit (recorded : Recorded) (source : String) (error : Option String) : Bool × Recorded :=
  let edit :=
    recorded.openEdit.editPolls error (LineEditor.ofText source) recorded.openEdit.run.polls
  edit.2.2.closeEdit.endEdit edit.2.1 edit.1

def work (recorded : Recorded) : Bool × Recorded :=
  match recorded.run.session.mode with
  | .running _ _ _ => recorded.frame
  | .editing source error => recorded.edit source error

def pause (recorded : Recorded) (delay : Float) : Recorded :=
  if delay > 0 then (recorded.tell (.sleep delay)).silently (·.pass delay) else recorded

/-- A frame or an edit, and the pause after it. -/
def turn (recorded : Recorded) : Bool × Recorded :=
  let (goesOn, next) := recorded.work
  if goesOn then (true, next.pause (recorded.run.budget - (next.run.now - recorded.run.now)))
  else (false, next)

def turns : Nat → Recorded → Recorded
  | 0, recorded => recorded
  | fuel + 1, recorded =>
      match recorded.turn with
      | (true, next) => turns fuel next
      | (false, next) => next

/-- A run with its record, before its first frame. -/
def opening (settings : RunSettings) (around : Surroundings) (polls : List KeyPoll) : Recorded where
  run := Run.opening settings around polls
  events := (Run.openingCalls (colorPairs around.colors around.pairs)).map .call

/-- A run with its record, from its start until a key asks to quit or a call is broken off. -/
def ofKeys (settings : RunSettings) (around : Surroundings) (inputs : List (Option KeyInput)) :
    Recorded :=
  let polls := inputs.map KeyPoll.ofInput
  let opened := opening settings around polls
  if opened.run.fault.isSome then opened
  else (turns (2 * (polls.length + 1)) opened).silently Run.finish

/-! ## Without the record -/

variable {recorded : Recorded} {error : Option String}

/-- A result without the record. -/
def erase (result : Bool × Recorded) : Bool × Run := (result.1, result.2.run)

theorem erase_handlePolls {polls : List KeyPoll} (waiting : recorded.run.polls = polls) :
    erase (recorded.handlePolls polls) =
      ((recorded.run.session.handleKeys polls).1,
        { recorded.run with
          session := (recorded.run.session.handleKeys polls).2.1
          polls := (recorded.run.session.handleKeys polls).2.2 }) := by
  induction polls generalizing recorded with
  | nil =>
      rw [handlePolls, Session.handleKeys, erase, ← waiting]
  | cons poll rest inductionHypothesis =>
      rw [handlePolls.eq_def, Session.handleKeys.eq_def]
      dsimp only
      by_cases runs : recorded.run.session.isRunning = true
      · rw [if_pos runs, if_pos runs]
        cases poll with
        | idle => rfl
        | ignored => exact inductionHypothesis rfl
        | event event =>
            have sameSession : (recorded.read .session (.event event) rest).run.session =
              recorded.run.session := rfl
            dsimp only
            rw [sameSession]
            rcases recorded.run.session.handleKey event with ⟨_ | _, next⟩
            · rfl
            · exact inductionHypothesis rfl
      · rw [if_neg runs, if_neg runs, ← waiting]
        rfl

/-- Redrawing does not look at the polls. -/
theorem foldl_redraw_polls {run : Run} {editors : List LineEditor} {polls : List KeyPoll} :
    editors.foldl (Run.redraw error) { run with polls := polls } =
      { editors.foldl (Run.redraw error) run with polls := polls } := by
  induction editors generalizing run with
  | nil => rfl
  | cons editor rest inductionHypothesis =>
      rw [List.foldl_cons, List.foldl_cons, ← inductionHypothesis]
      rfl

/-- Redrawing before each poll of an edit is redrawing as often after all of them. -/
theorem editPolls_eq {editor : LineEditor} {polls : List KeyPoll}
    (waiting : recorded.run.polls = polls) :
    (recorded.editPolls error editor polls).1 = (editLine editor polls).outcome ∧
      (recorded.editPolls error editor polls).2.1 = (editLine editor polls).editor ∧
      (recorded.editPolls error editor polls).2.2.run =
        { (editLine editor polls).redraws.foldl (Run.redraw error) recorded.run with
          polls := (editLine editor polls).unread } := by
  induction polls generalizing recorded editor with
  | nil =>
      refine ⟨rfl, rfl, ?_⟩
      show (recorded.redraw error editor).run =
        { recorded.run.redraw error editor with polls := [] }
      rw [← waiting]
      rfl
  | cons poll rest inductionHypothesis =>
      let after := (recorded.redraw error editor).read (.line editor error) poll rest
      have goesOn (next : LineEditor) :
          (after.editPolls error next rest).1 = (editLine next rest).outcome ∧
            (after.editPolls error next rest).2.1 = (editLine next rest).editor ∧
            (after.editPolls error next rest).2.2.run =
              { (editor :: (editLine next rest).redraws).foldl (Run.redraw error) recorded.run with
                polls := (editLine next rest).unread } := by
        obtain ⟨outcome, line, redrawn⟩ := @inductionHypothesis after next rfl
        refine ⟨outcome, line, ?_⟩
        have drawn : after.run = { recorded.run.redraw error editor with polls := rest } := rfl
        rw [redrawn, drawn, foldl_redraw_polls, List.foldl_cons]
      cases poll with
      | idle | ignored => exact goesOn editor
      | event event =>
          rw [editPolls, editLine.eq_def]
          dsimp only
          rcases editor.feed event with ⟨outcome, next⟩
          cases outcome with
          | proceed => exact goesOn next
          | submit | discard | quit => exact ⟨rfl, rfl, rfl⟩

theorem erase_frame : erase recorded.frame = recorded.run.frame := by
  rw [frame, Run.frame_eq]
  have heard : (recorded.silently Run.hear).run = recorded.run.hear := rfl
  have sameSession : recorded.run.hear.session = recorded.run.session := rfl
  dsimp only
  rw [heard, sameSession]
  rcases recorded.run.session.tryTick recorded.run.hear.microphone.volume with
    ⟨fault | ⟨⟩, ticked⟩
  · rfl
  · exact erase_handlePolls rfl

theorem erase_endEdit {editor : LineEditor} {outcome : Option EditOutcome} :
    erase (recorded.endEdit editor outcome) =
      match outcome with
      | none => (false, recorded.run)
      | some outcome =>
          recorded.run.conclude (recorded.run.session.finishEdit outcome editor.text) := by
  cases outcome with
  | none => rfl
  | some outcome => exact (Run.conclude_eq _ _).symm

theorem erase_edit {source : String} :
    erase (recorded.edit source error) = recorded.run.edit source error := by
  obtain ⟨outcome, line, redrawn⟩ :=
    @editPolls_eq recorded.openEdit error (LineEditor.ofText source) recorded.run.polls rfl
  have closed : (recorded.openEdit.editPolls error (LineEditor.ofText source)
      recorded.run.polls).2.2.closeEdit.run = recorded.run.closed source error := by
    rw [closeEdit, silently, tell, tell, redrawn]
    rfl
  have edited : recorded.edit source error =
      (recorded.openEdit.editPolls error (LineEditor.ofText source)
        recorded.run.polls).2.2.closeEdit.endEdit
          (editLine (LineEditor.ofText source) recorded.run.polls).editor
          (editLine (LineEditor.ofText source) recorded.run.polls).outcome := by
    rw [← outcome, ← line]
    rfl
  rw [edited, erase_endEdit, closed]
  rfl

theorem erase_work : erase recorded.work = recorded.run.work := by
  rw [work, Run.work]
  cases recorded.run.session.mode with
  | running script start source => exact erase_frame
  | editing source error => exact erase_edit

theorem erase_turn : erase recorded.turn = recorded.run.turn := by
  have worked : recorded.run.work = (recorded.work.1, recorded.work.2.run) := erase_work.symm
  have turned : recorded.run.turn =
      if recorded.run.work.1 then
        let delay := recorded.run.budget - (recorded.run.work.2.now - recorded.run.now)
        if delay > 0 then (true, (recorded.run.work.2.tell (.sleep delay)).pass delay)
        else (true, recorded.run.work.2)
      else (false, recorded.run.work.2) := rfl
  rw [turned, worked, turn]
  rcases recorded.work with ⟨_ | _, next⟩
  · rfl
  · rw [if_pos rfl]
    dsimp only
    rw [if_pos rfl, pause]
    split
    · rfl
    · rfl

theorem run_turns {fuel : Nat} : (turns fuel recorded).run = Run.turns fuel recorded.run := by
  induction fuel generalizing recorded with
  | zero => rfl
  | succ fuel inductionHypothesis =>
      have made : recorded.run.turn = (recorded.turn.1, recorded.turn.2.run) := erase_turn.symm
      rw [turns, Run.turns, made]
      rcases recorded.turn with ⟨_ | _, next⟩
      · rfl
      · exact inductionHypothesis

/-- The record changes nothing. -/
theorem run_ofKeys (settings : RunSettings) (around : Surroundings)
    (inputs : List (Option KeyInput)) :
    (ofKeys settings around inputs).run = Run.ofKeys settings around inputs := by
  rw [ofKeys, Run.ofKeys]
  have opened : (opening settings around (inputs.map KeyPoll.ofInput)).run =
      Run.opening settings around (inputs.map KeyPoll.ofInput) := rfl
  rw [opened]
  split
  · rfl
  · exact congrArg Run.finish run_turns

end Recorded

end LiveGrid
