import LiveGrid.Proofs.Grid.Frame
import LiveGrid.Proofs.Script.Compiled
import LiveGrid.Proofs.Session.Provenance

/-!
Contract: the parts of a session's mode fit together.

Owns:
- modes that are sound: what runs is the compiled text, started at the latest start, and what is
  edited compiles unless the error says why it does not;
- the readings of the clock at which a run of a session starts scripts;
- the mode of a session is sound after every run of operations.

Does not own: what a text compiles to, and why a cell fails.
-/

namespace LiveGrid

/-! ## Errors -/

namespace Script

/-- Every cause for which a text is no script has a text of its own. -/
theorem CompileError.message_ne_empty {cause : CompileError} : cause.message ≠ "" := by
  cases cause with
  | malformed | empty | noFinalExpression | indirectCall | notPlainName | chainedAssignment =>
      decide
  | keywordArguments function =>
      intro same
      exact absurd (String.append_eq_empty_iff.1 same).2 (by decide)
  | _ =>
      intro same
      exact absurd (String.append_eq_empty_iff.1 same).1 (by decide)

theorem source_of_compile {source : String} {script : Script}
    (compiled : compile source = .ok script) : script.source = source := by
  obtain ⟨tree, -, -, -, rfl⟩ := compile_eq_ok_iff.1 compiled
  rfl

end Script

/-- The text with which the error of a cell begins. -/
def cellMark (column row : Nat) : String :=
  "at cell (" ++ toString column ++ ", " ++ toString row ++ "): "

theorem cellMark_ne_empty {column row : Nat} : cellMark column row ≠ "" := by
  intro same
  exact absurd (String.append_eq_empty_iff.1 same).2 (by decide)

/-- Whether an error tells why a text is edited: the text does not compile, or a cell of its script
failed. -/
def Explains (source error : String) : Prop :=
  (∃ cause, Script.compile source = .error (.refused cause) ∧ error = cause.message) ∨
    ((∃ script, Script.compile source = .ok script) ∧
      ∃ column row message, column < 32 ∧ row < 32 ∧ error = cellMark column row ++ message)

namespace Mode

/-- Modes whose parts fit together, given when a script was last started. -/
inductive IsSound (latestStart : Float) : Mode → Prop where
  | running {script : Script} {start : Float} {source : String}
      (compiled : Script.compile source = .ok script) (named : script.source = source)
      (started : start = latestStart) : IsSound latestStart (.running script start source)
  | edited {source : String} {script : Script} (compiled : Script.compile source = .ok script) :
      IsSound latestStart (.editing source none)
  | failed {source error : String} (told : error ≠ "") (explained : Explains source error) :
      IsSound latestStart (.editing source (some error))

theorem IsSound.compile_eq_ok {latestStart start : Float} {script : Script} {source : String}
    (sound : (Mode.running script start source).IsSound latestStart) :
    Script.compile source = .ok script := by
  cases sound with
  | running compiled => exact compiled

/-- What is edited does not know when a script was started. -/
theorem IsSound.of_stopped {mode : Mode} {latestStart other : Float}
    (sound : mode.IsSound latestStart) (stopped : mode.isRunning = false) :
    mode.IsSound other := by
  cases sound with
  | running compiled named started => cases stopped
  | edited compiled => exact .edited compiled
  | failed told explained => exact .failed told explained

end Mode

/-- The error of a frame that fails tells why its text is edited. -/
theorem explains_of_evaluateFrame {source : String} {script : Script} {canvas : Canvas}
    {time loudness : Float} {stream after : Script.RandomStream} {fault : FrameFault}
    (compiled : Script.compile source = .ok script)
    (failure : script.evaluateFrame canvas time loudness stream = (.error fault, after)) :
    fault.message ≠ "" ∧ Explains source fault.message := by
  have message : fault.message =
      cellMark (fault.index % 32) (fault.index / 32) ++ fault.fault.message := rfl
  have below : fault.index < 32 * 32 := Script.index_lt_of_evaluateFrame failure
  rw [message]
  constructor
  · intro same
    exact cellMark_ne_empty (String.append_eq_empty_iff.1 same).1
  · have inColumns : fault.index % 32 < 32 := Nat.mod_lt _ (by decide)
    have inRows : fault.index / 32 < 32 := Nat.div_lt_of_lt_mul below
    exact .inr ⟨⟨script, compiled⟩, _, _, _, inColumns, inRows, rfl⟩

namespace Session

/-! ## When scripts are started -/

/-- The reading of the clock at which a key starts a script: a digit with a built-in script, while
another script runs. -/
def keyStarts (session : Session) (event : KeyEvent) : List Float :=
  match event.digit? with
  | some digit =>
      if session.isRunning = true ∧ digit < patterns.length then [session.clock.read.1] else []
  | none => []

/-- The readings at which keys start scripts that are handled one by one. -/
def keysStarts (session : Session) : List KeyEvent → List Float
  | [] => []
  | event :: rest => session.keyStarts event ++ (session.handleKey event).2.keysStarts rest

/-- The reading at which the end of an edit starts a script. -/
def finishStarts (session : Session) (outcome : EditOutcome) : List Float :=
  match session.mode, outcome with
  | .editing _ _, .submit => [session.clock.read.1]
  | .editing _ _, .discard => [session.clock.read.1]
  | _, _ => []

/-- The readings at which an operation starts scripts. -/
def operationStarts (session : Session) : Operation → List Float
  | .tick _ => []
  | .key event => session.keyStarts event
  | .keys polls => session.keysStarts (session.handledKeys polls)
  | .finish outcome _ => session.finishStarts outcome

/-- The readings at which operations start scripts, one after the other. -/
def starts (session : Session) : List Operation → List Float
  | [] => []
  | operation :: rest =>
      session.operationStarts operation ++ (session.perform operation).starts rest

/-! ## Sound modes -/

variable {session : Session} {latest : Float}

theorem isSound_tick (loudness : Float) (sound : session.mode.IsSound latest) :
    (session.tick loudness).mode.IsSound latest := by
  have ticks := session.ticks_tick loudness
  generalize (session.tryTick loudness).1 = result, session.tick loudness = after at ticks
  cases ticks with
  | idle edits => exact sound
  | frame runs drawn => exact sound
  | @fails script start source fault random runs failure =>
      have compiled : (Mode.running script start source).IsSound latest := runs ▸ sound
      obtain ⟨told, explained⟩ := explains_of_evaluateFrame compiled.compile_eq_ok failure
      rw [note_mode]
      exact .failed told explained

/-- A text that a session is to go on with runs or is edited. If the call is broken off, the session
edits what it has edited. -/
theorem isSound_loads {source : String} {result : Except SessionFault Unit} {after : Session}
    (sound : session.mode.IsSound latest) (stopped : session.isRunning = false)
    (loads : session.Loads source result after) : after.mode.IsSound session.clock.read.1 := by
  cases loads with
  | runs compiled => exact .running compiled (Script.source_of_compile compiled) rfl
  | reserved breaksOff => exact sound.of_stopped stopped
  | edited refused told =>
      exact .failed Script.CompileError.message_ne_empty (.inl ⟨_, refused, rfl⟩)
  | untold refused untold =>
      rw [note_mode]
      exact sound.of_stopped stopped

theorem isSound_replaces {event source : String} {result : Except SessionFault Unit}
    {after : Session} (sound : session.mode.IsSound latest) (stopped : session.isRunning = false)
    (replaces : session.Replaces event source result after) :
    after.mode.IsSound session.clock.read.1 := by
  cases replaces with
  | untold untold =>
      rw [note_mode]
      exact sound.of_stopped stopped
  | told told loads =>
      rw [← @note_clock session event source]
      refine @isSound_loads _ latest _ _ _ ?_ ?_ loads
      · rw [note_mode]
        exact sound
      · rw [isRunning, note_mode]
        exact stopped

theorem isSound_loadPattern (digit : Nat) (sound : session.mode.IsSound latest) :
    (session.loadPattern digit).mode.IsSound
      ((if digit < patterns.length then [session.clock.read.1] else []).getLastD latest) := by
  unfold loadPattern
  by_cases bound : digit < patterns.length
  · rw [if_pos bound, List.getElem?_eq_getElem bound]
    obtain ⟨script, compiled, -⟩ := Script.evaluate_pattern_ok (List.getElem_mem bound)
    dsimp only
    rw [load_of_ok compiled, note_clock]
    exact .running compiled (Script.source_of_compile compiled) rfl
  · rw [if_neg bound, List.getElem?_eq_none (Nat.le_of_not_lt bound)]
    exact sound

theorem isSound_handleKey (event : KeyEvent) (sound : session.mode.IsSound latest) :
    (session.handleKey event).2.mode.IsSound ((session.keyStarts event).getLastD latest) := by
  unfold handleKey keyStarts isRunning
  cases mode : session.mode with
  | editing source error =>
      have edited : (session.mode).IsSound latest := sound
      cases event.digit? <;> exact edited
  | running script start source =>
      have runs : (Mode.running script start source).IsSound latest := mode ▸ sound
      dsimp only
      by_cases interrupts : event.isInterrupt = true
      · rw [if_pos interrupts, digit?_of_isInterrupt interrupts, note_mode]
        exact sound
      · rw [if_neg interrupts]
        by_cases escapes : event.key = .escape
        · rw [if_pos escapes, digit?_of_escape escapes, note_mode]
          exact .edited runs.compile_eq_ok
        · rw [if_neg escapes]
          cases event.digit? with
          | none => exact sound
          | some digit =>
              simp only [Mode.isRunning, true_and]
              exact isSound_loadPattern digit sound

theorem isSound_finishEdit (outcome : EditOutcome) (text : String)
    (sound : session.mode.IsSound latest) :
    (session.perform (.finish outcome text)).mode.IsSound
      ((session.finishStarts outcome).getLastD latest) := by
  have finishes := session.finishes_perform outcome text
  generalize (session.finishEdit outcome text).1 = result,
    session.perform (.finish outcome text) = after at finishes
  unfold finishStarts
  cases finishes with
  | notEditing runs =>
      cases mode : session.mode with
      | running script start source =>
          rw [mode] at sound
          exact sound
      | editing source error =>
          rw [isRunning_of_editing mode] at runs
          cases runs
  | unfinished edits =>
      rw [edits] at sound ⊢
      exact sound
  | quits edits =>
      rw [note_mode]
      rw [edits] at sound ⊢
      exact sound
  | submits edits replaces =>
      have replaced := isSound_replaces sound (isRunning_of_editing edits) replaces
      rw [edits]
      exact replaced
  | submitFails edits replaces =>
      rw [edits]
      exact isSound_replaces sound (isRunning_of_editing edits) replaces
  | discards edits replaces =>
      rw [edits]
      exact isSound_replaces sound (isRunning_of_editing edits) replaces

theorem getLastD_append {Item : Type} {first second : List Item} {default : Item} :
    (first ++ second).getLastD default = second.getLastD (first.getLastD default) := by
  rw [List.getLastD_eq_getLast?, List.getLastD_eq_getLast?, List.getLastD_eq_getLast?,
    List.getLast?_append, Option.getD_or]

theorem isSound_keysStarts (events : List KeyEvent) (sound : session.mode.IsSound latest) :
    (session.run (events.map .key)).mode.IsSound ((session.keysStarts events).getLastD latest) := by
  induction events generalizing session latest with
  | nil => exact sound
  | cons event rest inductionHypothesis =>
      rw [keysStarts, getLastD_append]
      exact inductionHypothesis (isSound_handleKey event sound)

/-- One operation: the mode stays sound, given the latest start with those of the operation. -/
theorem isSound_perform (operation : Operation) (sound : session.mode.IsSound latest) :
    (session.perform operation).mode.IsSound
      ((session.operationStarts operation).getLastD latest) := by
  cases operation with
  | tick loudness => exact isSound_tick loudness sound
  | key event => exact isSound_handleKey event sound
  | keys polls =>
      rw [perform_keys]
      exact isSound_keysStarts (session.handledKeys polls) sound
  | finish outcome text => exact isSound_finishEdit outcome text sound

/-- A run: the mode stays sound, given the latest start with those of the run. -/
theorem isSound_run (operations : List Operation) (sound : session.mode.IsSound latest) :
    (session.run operations).mode.IsSound ((session.starts operations).getLastD latest) := by
  induction operations generalizing session latest with
  | nil => exact sound
  | cons operation rest inductionHypothesis =>
      rw [starts, getLastD_append]
      exact inductionHypothesis (isSound_perform operation sound)

theorem isSound_start (clock : Clock) (log : Option Log) (random : Script.RandomStream) :
    (Session.start clock log random).mode.IsSound clock.read.1 := by
  obtain ⟨script, compiled, started⟩ := exists_start_eq clock log random
  rw [started, note_mode]
  exact .running compiled (Script.source_of_compile compiled) rfl

/-- The mode of a session is sound after every run: a script that runs is the compiled text and was
started at the latest start, the session's own one if there was no other, and a text that is edited
compiles, unless the error says why it does not or where its script failed. -/
theorem isSound_mode (clock : Clock) (log : Option Log) (random : Script.RandomStream)
    (operations : List Operation) :
    ((Session.start clock log random).run operations).mode.IsSound
      (((Session.start clock log random).starts operations).getLastD clock.read.1) := by
  exact isSound_run operations (isSound_start clock log random)

end Session

end LiveGrid
