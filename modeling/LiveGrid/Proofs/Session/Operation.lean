import LiveGrid.Proofs.Script.Floats
import LiveGrid.Session.Live

/-!
Contract: runs of a session.

Owns:
- the operations of a session, and the session after an operation and after a run, whether they
  were broken off or not;
- what becomes of a text that a session is to go on with, and of one that ends an edit;
- when a key ends a session;
- the keys that are handled when keys are polled, as a run of single keys;
- induction over a run from what ticks, keys and ends of edits preserve.

Does not own: what any operation preserves.
-/

namespace LiveGrid

/-- What can be done with a session. -/
inductive Operation where
  | tick (loudness : Float)
  | key (event : KeyEvent)
  | keys (polls : List KeyPoll)
  | finish (outcome : EditOutcome) (text : String)

namespace Session

/-- The session after an operation. -/
def perform (session : Session) : Operation → Session
  | .tick loudness => session.tick loudness
  | .key event => (session.handleKey event).2
  | .keys polls => (session.handleKeys polls).2.1
  | .finish outcome text => (session.finishEdit outcome text).2

/-- The session after operations, one after the other. -/
def run (session : Session) (operations : List Operation) : Session :=
  operations.foldl perform session

variable {session : Session}

@[simp] theorem run_nil : session.run [] = session := rfl

@[simp] theorem run_cons {operation : Operation} {rest : List Operation} :
    session.run (operation :: rest) = (session.perform operation).run rest := rfl

/-! ## Parts of a session -/

theorem isRunning_of_running {script : Script} {start : Float} {source : String}
    (runs : session.mode = .running script start source) : session.isRunning = true := by
  rw [isRunning, runs, Mode.isRunning]

theorem isRunning_of_editing {source : String} {error : Option String}
    (edits : session.mode = .editing source error) : session.isRunning = false := by
  rw [isRunning, edits, Mode.isRunning]

theorem note_eq (session : Session) (event detail : String) :
    session.note event detail =
      { session with log := session.log.map (·.write session.frame event detail) } := by
  obtain ⟨clock, log, random, frame, canvas, mode⟩ := session
  cases log <;> rfl

@[simp] theorem note_mode {event detail : String} :
    (session.note event detail).mode = session.mode := by rw [note_eq]

@[simp] theorem note_canvas {event detail : String} :
    (session.note event detail).canvas = session.canvas := by rw [note_eq]

@[simp] theorem note_frame {event detail : String} :
    (session.note event detail).frame = session.frame := by rw [note_eq]

@[simp] theorem note_clock {event detail : String} :
    (session.note event detail).clock = session.clock := by rw [note_eq]

@[simp] theorem note_random {event detail : String} :
    (session.note event detail).random = session.random := by rw [note_eq]

/-- A log refuses a row only if it cannot encode it. -/
theorem eq_unencodable_of_tryNote {event detail : String} {fault : SessionFault}
    (refused : (session.tryNote event detail).1 = .error fault) :
    ∃ cause, fault = .unencodable cause := by
  unfold tryNote at refused
  cases kept : session.log with
  | none =>
      rw [kept] at refused
      cases refused
  | some log =>
      simp only [kept] at refused
      cases written : (log.tryWrite session.frame event detail).1 with
      | ok =>
          rw [written] at refused
          cases refused
      | error cause =>
          rw [written] at refused
          cases refused
          exact ⟨cause, rfl⟩

/-- A session whose clock was read once more. -/
def afterReading (session : Session) : Session := { session with clock := session.clock.read.2 }

/-- A session whose script has failed in a frame, which took random numbers up to some stream. -/
def failed (session : Session) (source : String) (fault : FrameFault)
    (random : Script.RandomStream) : Session :=
  { session.afterReading with random := random, mode := .editing source (some fault.message) }

/-- What a tick does: nothing during an edit, a frame, or the end of the script, which is told. -/
inductive Ticks (session : Session) (loudness : Float) :
    Except SessionFault Unit → Session → Prop where
  | idle (edits : session.isRunning = false) : Ticks session loudness (.ok ()) session
  | frame {script : Script} {start : Float} {source : String} {canvas : Canvas}
      {random : Script.RandomStream} (runs : session.mode = .running script start source)
      (drawn : script.evaluateFrame session.canvas (session.clock.read.1 - start) loudness
        session.random = (.ok canvas, random)) :
      Ticks session loudness (.ok ())
        { session.afterReading with
          random := random, canvas := canvas, frame := session.frame + 1 }
  | fails {script : Script} {start : Float} {source : String} {fault : FrameFault}
      {random : Script.RandomStream} (runs : session.mode = .running script start source)
      (failure : script.evaluateFrame session.canvas (session.clock.read.1 - start) loudness
        session.random = (.error fault, random)) :
      Ticks session loudness
        ((session.failed source fault random).tryNote "eval_error" fault.message).1
        ((session.failed source fault random).note "eval_error" fault.message)

theorem ticks_tick (session : Session) (loudness : Float) :
    session.Ticks loudness (session.tryTick loudness).1 (session.tick loudness) := by
  obtain ⟨clock, log, random, frame, canvas, mode⟩ := session
  unfold tick tryTick
  cases mode with
  | editing source error => exact .idle rfl
  | running script start source =>
      dsimp only
      rcases drawn : script.evaluateFrame canvas (clock.read.1 - start) loudness random with
        ⟨fault | canvas, random⟩
      · exact .fails rfl drawn
      · exact .frame rfl drawn

/-- What becomes of a text that a session is to go on with: it runs, its compilation breaks off, or
it is refused. Then it is edited, unless the log cannot be told. -/
inductive Loads (session : Session) (source : String) :
    Except SessionFault Unit → Session → Prop where
  | runs {script : Script} (compiled : Script.compile source = .ok script) :
      Loads session source (.ok ())
        { session.afterReading with mode := .running script session.clock.read.1 source }
  | reserved {target : Script.ReservedTarget}
      (breaksOff : Script.compile source = .error (.reserved target)) :
      Loads session source (.error (.reserved target)) session.afterReading
  | edited {cause : Script.CompileError}
      (refused : Script.compile source = .error (.refused cause))
      (told : (session.afterReading.tryNote "compile_error" cause.message).1 = .ok ()) :
      Loads session source (.ok ())
        { session.afterReading.note "compile_error" cause.message with
          mode := .editing source (some cause.message) }
  | untold {cause : Script.CompileError} {fault : SessionFault}
      (refused : Script.compile source = .error (.refused cause))
      (untold : (session.afterReading.tryNote "compile_error" cause.message).1 = .error fault) :
      Loads session source (.error fault) (session.afterReading.note "compile_error" cause.message)

theorem tryLoad_of_ok {source : String} {script : Script}
    (compiled : Script.compile source = .ok script) :
    session.tryLoad source =
      (.ok (), { session.afterReading with
        mode := .running script session.clock.read.1 source }) := by
  unfold tryLoad Mode.construct
  rw [compiled]
  rfl

theorem tryLoad_of_reserved {source : String} {target : Script.ReservedTarget}
    (breaksOff : Script.compile source = .error (.reserved target)) :
    session.tryLoad source = (.error (.reserved target), session.afterReading) := by
  unfold tryLoad Mode.construct
  rw [breaksOff]
  rfl

theorem tryLoad_of_refused {source : String} {cause : Script.CompileError}
    (refused : Script.compile source = .error (.refused cause)) :
    session.tryLoad source =
      match (session.afterReading.tryNote "compile_error" cause.message).1 with
      | .error fault => (.error fault, session.afterReading.note "compile_error" cause.message)
      | .ok () =>
          (.ok (), { session.afterReading.note "compile_error" cause.message with
            mode := .editing source (some cause.message) }) := by
  unfold tryLoad Mode.construct note afterReading
  rw [refused]
  dsimp only [Option.getD_some]
  split
  · rename_i fault after untold
    rw [untold]
  · rename_i after told
    rw [told]

theorem loads_of_tryLoad {source : String} {result : Except SessionFault Unit} {after : Session}
    (loaded : session.tryLoad source = (result, after)) : session.Loads source result after := by
  cases compiled : Script.compile source with
  | ok script =>
      rw [tryLoad_of_ok compiled] at loaded
      cases loaded
      exact .runs compiled
  | error fault =>
      cases fault with
      | reserved target =>
          rw [tryLoad_of_reserved compiled] at loaded
          cases loaded
          exact .reserved compiled
      | refused cause =>
          rw [tryLoad_of_refused compiled] at loaded
          cases told : (session.afterReading.tryNote "compile_error" cause.message).1 with
          | ok =>
              rw [told] at loaded
              cases loaded
              exact .edited compiled told
          | error fault =>
              rw [told] at loaded
              cases loaded
              exact .untold compiled told

theorem load_of_ok {source : String} {script : Script}
    (compiled : Script.compile source = .ok script) :
    session.load source =
      { session.afterReading with mode := .running script session.clock.read.1 source } :=
  congrArg Prod.snd (tryLoad_of_ok compiled)

theorem loads_load (session : Session) (source : String) :
    session.Loads source (session.tryLoad source).1 (session.load source) :=
  loads_of_tryLoad rfl

/-- What is kept by a text that a session is to go on with, whatever becomes of it. -/
theorem Loads.kept {source : String} {result : Except SessionFault Unit} {after : Session}
    (loads : session.Loads source result after) :
    after.canvas = session.canvas ∧ after.frame = session.frame := by
  cases loads <;> simp [afterReading]

@[simp] theorem load_canvas {source : String} :
    (session.load source).canvas = session.canvas := (session.loads_load source).kept.1

@[simp] theorem load_frame {source : String} :
    (session.load source).frame = session.frame := (session.loads_load source).kept.2

/-- What becomes of a text that ends an edit: the log cannot be told of it, or the session is to go
on with it. -/
inductive Replaces (session : Session) (event source : String) :
    Except SessionFault Unit → Session → Prop where
  | untold {fault : SessionFault} (untold : (session.tryNote event source).1 = .error fault) :
      Replaces session event source (.error fault) (session.note event source)
  | told {result : Except SessionFault Unit} {after : Session}
      (told : (session.tryNote event source).1 = .ok ())
      (loads : (session.note event source).Loads source result after) :
      Replaces session event source result after

theorem tryReplace_eq (session : Session) (event source : String) :
    session.tryReplace event source =
      match (session.tryNote event source).1 with
      | .error fault => (.error fault, session.note event source)
      | .ok () => (session.note event source).tryLoad source := by
  unfold tryReplace note
  rcases session.tryNote event source with ⟨fault | ⟨⟩, noted⟩ <;> rfl

theorem replaces_of_tryReplace {event source : String} {result : Except SessionFault Unit}
    {after : Session} (replaced : session.tryReplace event source = (result, after)) :
    session.Replaces event source result after := by
  rw [tryReplace_eq] at replaced
  cases told : (session.tryNote event source).1 with
  | ok =>
      rw [told] at replaced
      exact .told told (loads_of_tryLoad replaced)
  | error fault =>
      rw [told] at replaced
      cases replaced
      exact .untold told

theorem Replaces.kept {event source : String} {result : Except SessionFault Unit}
    {after : Session} (replaces : session.Replaces event source result after) :
    after.canvas = session.canvas ∧ after.frame = session.frame := by
  cases replaces with
  | untold untold => exact ⟨note_canvas, note_frame⟩
  | told told loads => exact ⟨loads.kept.1.trans note_canvas, loads.kept.2.trans note_frame⟩

/-- How an edit ends. A text that was submitted comes on an empty canvas, unless the call is broken
off. -/
inductive Finishes (session : Session) (text : String) :
    EditOutcome → Except SessionFault Bool → Session → Prop where
  | notEditing {outcome : EditOutcome} (runs : session.isRunning = true) :
      Finishes session text outcome (.error .notEditing) session
  | unfinished {source : String} {error : Option String}
      (edits : session.mode = .editing source error) :
      Finishes session text .proceed (.error .unfinished) session
  | quits {source : String} {error : Option String}
      (edits : session.mode = .editing source error) :
      Finishes session text .quit (.ok false) (session.note "quit" "")
  | submits {source : String} {error : Option String} {after : Session}
      (edits : session.mode = .editing source error)
      (replaces : session.Replaces "commit" text (.ok ()) after) :
      Finishes session text .submit (.ok true) after.clearCanvas
  | submitFails {source : String} {error : Option String} {fault : SessionFault} {after : Session}
      (edits : session.mode = .editing source error)
      (replaces : session.Replaces "commit" text (.error fault) after) :
      Finishes session text .submit (.error fault) after
  | discards {source : String} {error : Option String} {result : Except SessionFault Unit}
      {after : Session} (edits : session.mode = .editing source error)
      (replaces : session.Replaces "discard" source result after) :
      Finishes session text .discard (result.map fun _ => true) after

theorem finishEdit_submit {source : String} {error : Option String}
    (edits : session.mode = .editing source error) (text : String) :
    session.finishEdit .submit text =
      ((session.tryReplace "commit" text).1.map fun _ => true,
        match (session.tryReplace "commit" text).1 with
        | .ok () => (session.tryReplace "commit" text).2.clearCanvas
        | .error _ => (session.tryReplace "commit" text).2) := by
  rw [finishEdit, edits]
  dsimp only
  rcases session.tryReplace "commit" text with ⟨fault | ⟨⟩, next⟩ <;> rfl

theorem finishEdit_discard {source : String} {error : Option String}
    (edits : session.mode = .editing source error) (text : String) :
    session.finishEdit .discard text =
      ((session.tryReplace "discard" source).1.map fun _ => true,
        (session.tryReplace "discard" source).2) := by
  rw [finishEdit, edits]

theorem finishes_of_finishEdit {outcome : EditOutcome} {text : String}
    {result : Except SessionFault Bool} {after : Session}
    (finished : session.finishEdit outcome text = (result, after)) :
    session.Finishes text outcome result after := by
  cases mode : session.mode with
  | running script start source =>
      rw [finishEdit, mode] at finished
      cases finished
      exact .notEditing (isRunning_of_running mode)
  | editing source error =>
      cases outcome with
      | proceed =>
          rw [finishEdit, mode] at finished
          cases finished
          exact .unfinished mode
      | quit =>
          rw [finishEdit, mode] at finished
          cases finished
          exact .quits mode
      | submit =>
          rw [finishEdit_submit mode] at finished
          rcases replaced : session.tryReplace "commit" text with ⟨fault | ⟨⟩, next⟩
          · rw [replaced] at finished
            cases finished
            exact .submitFails mode (replaces_of_tryReplace replaced)
          · rw [replaced] at finished
            cases finished
            exact .submits mode (replaces_of_tryReplace replaced)
      | discard =>
          rw [finishEdit_discard mode] at finished
          cases finished
          exact .discards mode (replaces_of_tryReplace rfl)

/-- A text whose compilation breaks off has been told of by then, and nothing else has changed but
the clock. -/
theorem finishEdit_of_reserved {source text : String} {error : Option String}
    {target : Script.ReservedTarget} (edits : session.mode = .editing source error)
    (told : (session.tryNote "commit" text).1 = .ok ())
    (breaksOff : Script.compile text = .error (.reserved target)) :
    session.finishEdit .submit text =
      (.error (.reserved target), (session.note "commit" text).afterReading) := by
  rw [finishEdit_submit edits]
  simp only [tryReplace_eq, told, tryLoad_of_reserved breaksOff, Except.map]

theorem finishes_perform (session : Session) (outcome : EditOutcome) (text : String) :
    session.Finishes text outcome (session.finishEdit outcome text).1
      (session.perform (.finish outcome text)) :=
  finishes_of_finishEdit rfl

/-! ## The start -/

/-- A session starts with the first built-in script, which compiles. -/
theorem exists_start_eq (clock : Clock) (log : Option Log) (random : Script.RandomStream) :
    ∃ script, Script.compile firstPattern = .ok script ∧
      start clock log random =
        { (idle clock log random).afterReading with
          mode := .running script clock.read.1 firstPattern }.note "start" firstPattern := by
  have isPattern : firstPattern ∈ patterns := List.mem_cons_self
  obtain ⟨script, compiled, -⟩ := Script.evaluate_pattern_ok isPattern
  exact ⟨script, compiled, by rw [start, load_of_ok compiled]; rfl⟩

@[simp] theorem clearCanvas_canvas : session.clearCanvas.canvas = Canvas.blank := rfl

@[simp] theorem clearCanvas_frame : session.clearCanvas.frame = session.frame := rfl

/-! ## Keys -/

/-- A key ends a session exactly if it asks to quit while a script runs. -/
theorem handleKey_fst_eq_false_iff {event : KeyEvent} :
    (session.handleKey event).1 = false ↔
      session.isRunning = true ∧ event.isInterrupt = true := by
  unfold handleKey isRunning
  cases session.mode with
  | editing source error => simp [Mode.isRunning]
  | running script start source =>
      by_cases interrupts : event.isInterrupt = true
      · simp [Mode.isRunning, interrupts]
      · by_cases escapes : event.key = .escape
        · simp [interrupts, escapes]
        · cases event.digit? <;> simp [interrupts, escapes]

theorem handleKey_of_escape {script : Script} {start : Float} {source : String}
    {escape : KeyEvent} (runs : session.mode = .running script start source)
    (escapes : escape.key = .escape) :
    session.handleKey escape =
      (true, { session with mode := .editing source none }.note "edit" "") := by
  have notInterrupt : escape.isInterrupt = false := by simp [KeyEvent.isInterrupt, escapes]
  simp [handleKey, runs, notInterrupt, escapes]

/-! ## Polled keys -/

/-- The key events that are handled when keys are polled. -/
def handledKeys (session : Session) : List KeyPoll → List KeyEvent
  | [] => []
  | poll :: rest =>
      if session.isRunning then
        match poll with
        | .event event =>
            match session.handleKey event with
            | (true, next) => event :: next.handledKeys rest
            | (false, _) => [event]
        | .ignored => session.handledKeys rest
        | .idle => []
      else []

/-- Polling keys is handling those keys one by one. -/
theorem perform_keys {polls : List KeyPoll} :
    session.perform (.keys polls) = session.run ((session.handledKeys polls).map .key) := by
  change (session.handleKeys polls).2.1 = _
  induction polls generalizing session with
  | nil => rfl
  | cons poll rest inductionHypothesis =>
      rw [handleKeys.eq_def, handledKeys.eq_def]
      dsimp only
      by_cases running : session.isRunning = true
      · rw [if_pos running, if_pos running]
        cases poll with
        | ignored => exact inductionHypothesis
        | idle => rfl
        | event event =>
            have performed : session.perform (.key event) = (session.handleKey event).2 := rfl
            rcases outcome : session.handleKey event with ⟨_ | _, next⟩
            · simp only [List.map_cons, List.map_nil, run_cons, run_nil, performed, outcome]
            · simp only [List.map_cons, run_cons, performed, outcome]
              exact inductionHypothesis
      · rw [if_neg running, if_neg running]
        rfl

/-! ## Induction over a run -/

section Induction

variable {invariant : Session → Prop}
  (tick : ∀ session loudness, invariant session → invariant (session.tick loudness))
  (key : ∀ session event, invariant session → invariant (session.handleKey event).2)

include tick key

/-- What ticks, keys and ends of edits preserve, every operation preserves. -/
theorem perform_induction (operation : Operation)
    (finish : ∀ session outcome text result after, operation = .finish outcome text →
      invariant session → session.Finishes text outcome result after → invariant after)
    (holds : invariant session) : invariant (session.perform operation) := by
  cases operation with
  | tick loudness => exact tick session loudness holds
  | key event => exact key session event holds
  | keys polls =>
      rw [perform_keys]
      generalize session.handledKeys polls = events
      induction events generalizing session with
      | nil => exact holds
      | cons event rest inductionHypothesis =>
          exact inductionHypothesis (key session event holds)
  | finish outcome text =>
      exact finish session outcome text _ _ rfl holds (session.finishes_perform outcome text)

/-- What ticks, keys and ends of edits preserve, every run preserves. -/
theorem run_induction (operations : List Operation)
    (finish : ∀ session outcome text result after, .finish outcome text ∈ operations →
      invariant session → session.Finishes text outcome result after → invariant after)
    (holds : invariant session) : invariant (session.run operations) := by
  induction operations generalizing session with
  | nil => exact holds
  | cons operation rest inductionHypothesis =>
      refine inductionHypothesis (fun _ _ _ _ _ member => finish _ _ _ _ _ (.tail _ member)) ?_
      refine perform_induction tick key operation (fun _ _ _ _ _ same => ?_) holds
      exact finish _ _ _ _ _ (same ▸ List.mem_cons_self)

end Induction

end Session

end LiveGrid
