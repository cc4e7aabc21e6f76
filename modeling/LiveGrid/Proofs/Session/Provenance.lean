import LiveGrid.Proofs.Outcome
import LiveGrid.Proofs.Session.Operation

/-!
Contract: where the canvas of a session comes from.

Owns:
- the frames that a run of a session makes, and when its canvas is reset;
- the canvas after a run is what the frames since the latest reset draw on an empty
  canvas, and the session has counted all frames of the run.

Does not own: what a frame draws.
-/

namespace LiveGrid

/-! ## Events of the canvas -/

/-- A frame that is made: by which script, for which time and loudness, and with which random
numbers. -/
structure FrameCall where
  script : Script
  time : Float
  loudness : Float
  stream : Script.RandomStream

/-- The canvas that a frame makes of another one. -/
def FrameCall.draw (call : FrameCall) (canvas : Canvas) : Except FrameFault Canvas :=
  (call.script.evaluateFrame canvas call.time call.loudness call.stream).1

/-- What changes the canvas of a session. -/
inductive CanvasEvent where
  | reset
  | frame (call : FrameCall)

namespace CanvasEvent

/-- How many frames there are among events. -/
def frameCount (events : List CanvasEvent) : Nat :=
  events.countP fun
    | .reset => false
    | .frame _ => true

/-- The frames since the latest reset, when an event comes after others. -/
def remember (calls : List FrameCall) : CanvasEvent → List FrameCall
  | .reset => []
  | .frame call => calls ++ [call]

/-- The frames since the latest reset among events. -/
def framesSinceReset (events : List CanvasEvent) : List FrameCall := events.foldl remember []

/-- The canvas that frames draw one after the other on an empty canvas. -/
def drawFrames (calls : List FrameCall) : Except FrameFault Canvas :=
  calls.foldlM (fun canvas call => call.draw canvas) Canvas.blank

/-- What an event makes of a canvas and the number of frames. -/
def apply (shown : Canvas × Nat) : CanvasEvent → Except FrameFault (Canvas × Nat)
  | .reset => .ok (Canvas.blank, shown.2)
  | .frame call => (call.draw shown.1).map fun canvas => (canvas, shown.2 + 1)

/-- What events make of a canvas and the number of frames. -/
def applyAll (shown : Canvas × Nat) (events : List CanvasEvent) :
    Except FrameFault (Canvas × Nat) :=
  events.foldlM apply shown

theorem applyAll_append {shown between : Canvas × Nat} {first second : List CanvasEvent}
    (success : applyAll shown first = .ok between) :
    applyAll shown (first ++ second) = applyAll between second := by
  rw [applyAll, List.foldlM_append, ← applyAll, success]
  rfl

/-- If a canvas is drawn by frames, it stays drawn by the frames that are remembered. -/
theorem drawFrames_foldl_remember {canvas final : Canvas} {count finalCount : Nat}
    {calls : List FrameCall} {events : List CanvasEvent} (drawn : drawFrames calls = .ok canvas)
    (applied : applyAll (canvas, count) events = .ok (final, finalCount)) :
    drawFrames (events.foldl remember calls) = .ok final ∧
      finalCount = count + frameCount events := by
  induction events generalizing canvas count calls with
  | nil =>
      cases applied
      exact ⟨drawn, rfl⟩
  | cons event rest inductionHypothesis =>
      obtain ⟨⟨next, nextCount⟩, stepped, appliedRest⟩ := bind_eq_ok_iff.1 applied
      cases event with
      | reset =>
          cases stepped
          have counted : frameCount (.reset :: rest) = frameCount rest := rfl
          rw [counted]
          exact inductionHypothesis rfl appliedRest
      | frame call =>
          have counted : frameCount (.frame call :: rest) = frameCount rest + 1 :=
            List.countP_cons_of_pos rfl
          cases drawnNext : call.draw canvas with
          | error fault =>
              rw [apply, drawnNext] at stepped
              cases stepped
          | ok after =>
              rw [apply, drawnNext] at stepped
              cases stepped
              have drawnAll : drawFrames (calls ++ [call]) = .ok next := by
                rw [drawFrames, List.foldlM_append, ← drawFrames]
                exact bind_eq_ok_iff.2 ⟨canvas, drawn, bind_eq_ok_iff.2 ⟨next, drawnNext, rfl⟩⟩
              obtain ⟨drawnRest, countedRest⟩ := inductionHypothesis drawnAll appliedRest
              exact ⟨drawnRest, by omega⟩

end CanvasEvent

namespace Session

/-! ## Events of operations -/

/-- A tick makes a frame if a script runs and no cell fails. -/
def tickEvents (session : Session) (loudness : Float) : List CanvasEvent :=
  match session.mode with
  | .editing _ _ => []
  | .running script start _ =>
      let call : FrameCall := ⟨script, session.clock.read.1 - start, loudness, session.random⟩
      match call.draw session.canvas with
      | .ok _ => [.frame call]
      | .error _ => []

/-- A digit with a built-in script resets the canvas while a script runs. -/
def keyEvents (session : Session) (event : KeyEvent) : List CanvasEvent :=
  match event.digit? with
  | some digit => if session.isRunning = true ∧ digit < patterns.length then [.reset] else []
  | none => []

/-- The events of keys that are handled one by one. -/
def keysEvents (session : Session) : List KeyEvent → List CanvasEvent
  | [] => []
  | event :: rest => session.keyEvents event ++ (session.handleKey event).2.keysEvents rest

/-- A text that is submitted at the end of an edit resets the canvas, also if it is refused, unless
the call is broken off. -/
def finishEvents (session : Session) (outcome : EditOutcome) (text : String) : List CanvasEvent :=
  match outcome, (session.finishEdit outcome text).1 with
  | .submit, .ok _ => [.reset]
  | _, _ => []

/-- What an operation does to the canvas. -/
def canvasEvents (session : Session) : Operation → List CanvasEvent
  | .tick loudness => session.tickEvents loudness
  | .key event => session.keyEvents event
  | .keys polls => session.keysEvents (session.handledKeys polls)
  | .finish outcome text => session.finishEvents outcome text

/-- What operations do to the canvas, one after the other. -/
def trace (session : Session) : List Operation → List CanvasEvent
  | [] => []
  | operation :: rest => session.canvasEvents operation ++ (session.perform operation).trace rest

/-! ## What operations do -/

variable {session : Session}

/-- What is seen of the canvas: its cells, and how many frames were counted. -/
def shown (session : Session) : Canvas × Nat := (session.canvas, session.frame)

theorem shown_note {event detail : String} : (session.note event detail).shown = session.shown := by
  rw [shown, note_canvas, note_frame, shown]

open CanvasEvent

theorem applyAll_tickEvents (loudness : Float) :
    applyAll session.shown (session.tickEvents loudness) = .ok (session.tick loudness).shown := by
  have ticks := session.ticks_tick loudness
  generalize (session.tryTick loudness).1 = result, session.tick loudness = after at ticks
  unfold tickEvents FrameCall.draw
  cases ticks with
  | idle edits =>
      cases mode : session.mode with
      | editing source error => rfl
      | running script start source =>
          rw [isRunning_of_running mode] at edits
          cases edits
  | frame runs drawn => simp [runs, applyAll, apply, FrameCall.draw, shown, drawn, Except.map]
  | fails runs failure =>
      simp only [runs, failure, shown_note]
      rfl

theorem digit?_of_isInterrupt {event : KeyEvent} (interrupts : event.isInterrupt = true) :
    event.digit? = none := by
  simp only [KeyEvent.isInterrupt, Bool.and_eq_true, Bool.or_eq_true, beq_iff_eq] at interrupts
  obtain ⟨⟨isChar, -⟩, lower | upper⟩ := interrupts
  · rw [KeyEvent.digit?, isChar, lower]
    decide +kernel
  · rw [KeyEvent.digit?, isChar, upper]
    decide +kernel

theorem digit?_of_escape {event : KeyEvent} (escapes : event.key = .escape) :
    event.digit? = none := by
  rw [KeyEvent.digit?, escapes]

theorem applyAll_loadPattern (digit : Nat) :
    applyAll session.shown (if digit < patterns.length then [.reset] else []) =
      .ok (session.loadPattern digit).shown := by
  unfold loadPattern
  by_cases bound : digit < patterns.length
  · rw [if_pos bound, List.getElem?_eq_getElem bound]
    simp [applyAll, apply, shown]
  · rw [if_neg bound, List.getElem?_eq_none (Nat.le_of_not_lt bound)]
    rfl

theorem applyAll_keyEvents (event : KeyEvent) :
    applyAll session.shown (session.keyEvents event) = .ok (session.handleKey event).2.shown := by
  unfold handleKey keyEvents
  cases mode : session.mode with
  | editing source error =>
      have idle : session.isRunning = false := isRunning_of_editing mode
      cases event.digit? with
      | none => rfl
      | some digit =>
          simp only [idle, Bool.false_eq_true, false_and, ↓reduceIte]
          rfl
  | running script start source =>
      have running : session.isRunning = true := isRunning_of_running mode
      dsimp only
      by_cases interrupts : event.isInterrupt = true
      · rw [if_pos interrupts, digit?_of_isInterrupt interrupts, shown_note]
        rfl
      · rw [if_neg interrupts]
        by_cases escapes : event.key = .escape
        · rw [if_pos escapes, digit?_of_escape escapes, shown_note]
          rfl
        · rw [if_neg escapes]
          cases event.digit? with
          | none => rfl
          | some digit =>
              simp only [running, true_and]
              exact applyAll_loadPattern digit

theorem applyAll_keysEvents (events : List KeyEvent) :
    applyAll session.shown (session.keysEvents events) =
      .ok (session.run (events.map .key)).shown := by
  induction events generalizing session with
  | nil => rfl
  | cons event rest inductionHypothesis =>
      rw [keysEvents, applyAll_append (applyAll_keyEvents event), inductionHypothesis]
      rfl

theorem applyAll_finishEvents (outcome : EditOutcome) (text : String) :
    applyAll session.shown (session.finishEvents outcome text) =
      .ok (session.perform (.finish outcome text)).shown := by
  have finishes := session.finishes_perform outcome text
  unfold finishEvents
  generalize (session.finishEdit outcome text).1 = result,
    session.perform (.finish outcome text) = after at finishes
  have unreset {after : Session}
      (kept : after.canvas = session.canvas ∧ after.frame = session.frame) :
      applyAll session.shown [] = .ok after.shown := by
    rw [shown, shown, kept.1, kept.2]
    rfl
  cases finishes with
  | notEditing runs => cases outcome <;> exact unreset ⟨rfl, rfl⟩
  | unfinished edits => exact unreset ⟨rfl, rfl⟩
  | quits edits => exact unreset ⟨note_canvas, note_frame⟩
  | submits edits replaces => simp [applyAll, apply, shown, replaces.kept.2]
  | submitFails edits replaces => exact unreset replaces.kept
  | discards edits replaces => exact unreset replaces.kept

/-- One operation: what is seen changes by its events. -/
theorem applyAll_canvasEvents (operation : Operation) :
    applyAll session.shown (session.canvasEvents operation) =
      .ok (session.perform operation).shown := by
  cases operation with
  | tick loudness => exact applyAll_tickEvents loudness
  | key event => exact applyAll_keyEvents event
  | keys polls =>
      rw [perform_keys]
      exact applyAll_keysEvents (session.handledKeys polls)
  | finish outcome text => exact applyAll_finishEvents outcome text

/-- A run: what is seen changes by the events of its operations in their order. -/
theorem applyAll_trace (operations : List Operation) :
    applyAll session.shown (session.trace operations) = .ok (session.run operations).shown := by
  induction operations generalizing session with
  | nil => rfl
  | cons operation rest inductionHypothesis =>
      rw [trace, applyAll_append (applyAll_canvasEvents operation), inductionHypothesis, run_cons]

/-- An operation without events leaves the canvas and the number of frames as they were. -/
theorem shown_perform_of_canvasEvents {operation : Operation}
    (quiet : session.canvasEvents operation = []) :
    (session.perform operation).shown = session.shown := by
  have applied : applyAll session.shown (session.canvasEvents operation) =
      .ok (session.perform operation).shown := applyAll_canvasEvents operation
  rw [quiet] at applied
  exact (Except.ok.inj applied).symm

theorem start_shown {clock : Clock} {log : Option Log} {random : Script.RandomStream} :
    (Session.start clock log random).shown = (Canvas.blank, 0) := by
  simp [start, shown, idle]

/-- A text that is submitted resets the canvas, unless its compilation breaks off or the log cannot
encode what it is told. -/
theorem finishEvents_submit (edits : session.isRunning = false) (text : String) :
    session.finishEvents .submit text = [.reset] ∨
      session.finishEvents .submit text = [] ∧
        ((∃ target, Script.compile text = .error (.reserved target)) ∨
          ∃ fault, (session.finishEdit .submit text).1 = .error (.unencodable fault)) := by
  have finishes := session.finishes_perform .submit text
  unfold finishEvents
  generalize (session.finishEdit .submit text).1 = result,
    session.perform (.finish .submit text) = after at finishes
  cases finishes with
  | notEditing runs =>
      rw [edits] at runs
      cases runs
  | submits edits replaces => exact .inl rfl
  | submitFails edits replaces =>
      refine .inr ⟨rfl, ?_⟩
      cases replaces with
      | untold untold =>
          obtain ⟨cause, rfl⟩ := eq_unencodable_of_tryNote untold
          exact .inr ⟨cause, rfl⟩
      | told told loads =>
          cases loads with
          | reserved breaksOff => exact .inl ⟨_, breaksOff⟩
          | untold refused untold =>
              obtain ⟨cause, rfl⟩ := eq_unencodable_of_tryNote untold
              exact .inr ⟨cause, rfl⟩

/-- A session has counted the frames of its run, and its canvas is what the frames since the
latest reset draw on an empty one. Its start is a reset too, and so is every text that is submitted
while the session edits, unless the call is broken off. Whatever makes no frame and no reset leaves
both as they were. -/
theorem canvas_eq_drawFrames (clock : Clock) (log : Option Log) (random : Script.RandomStream)
    (operations : List Operation) :
    let initial := Session.start clock log random
    let session := initial.run operations
    let events := .reset :: initial.trace operations
    session.frame = frameCount events ∧
      drawFrames (framesSinceReset events) = .ok session.canvas ∧
      (session.isRunning = false → ∀ text,
        session.finishEvents .submit text = [.reset] ∨
          session.finishEvents .submit text = [] ∧
            ((∃ target, Script.compile text = .error (.reserved target)) ∨
              ∃ fault, (session.finishEdit .submit text).1 = .error (.unencodable fault))) ∧
      ∀ operation, session.canvasEvents operation = [] →
        (session.perform operation).canvas = session.canvas ∧
          (session.perform operation).frame = session.frame := by
  intro initial session events
  have applied : applyAll (Canvas.blank, 0) (initial.trace operations) =
      .ok (session.canvas, session.frame) := by
    rw [← start_shown]
    exact applyAll_trace operations
  have blank : drawFrames [] = .ok Canvas.blank := rfl
  obtain ⟨drawn, counted⟩ := drawFrames_foldl_remember blank applied
  refine ⟨?_, drawn, fun edits text => finishEvents_submit edits text, fun operation quiet => ?_⟩
  · rw [counted, Nat.zero_add]
    rfl
  · exact Prod.mk.inj (shown_perform_of_canvasEvents quiet)

/-- A text at which the compiler breaks off is submitted after a frame of ones, which stay. -/
theorem canvas_kept_of_reserved :
    let session := (Session.start (.still 0) none ⟨fun _ => 0.5, 0⟩).run
      [.key { key := .escape }, .finish .submit "1", .tick 0, .key { key := .escape }]
    session.isRunning = false ∧
      (session.perform (.finish .submit "Fªlse=1;x")).canvas ≠ Canvas.blank := by
  intro session
  have kept : session.isRunning = false ∧
      (session.perform (.finish .submit "Fªlse=1;x")).canvas.values.head?.map (· == 1) =
        some true := by decide +kernel
  refine ⟨kept.1, fun isBlank => ?_⟩
  rw [isBlank] at kept
  exact absurd kept.2 (by decide +kernel)

end Session

end LiveGrid
