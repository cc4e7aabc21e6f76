import LiveGrid.Proofs.Session.Log
import LiveGrid.Proofs.Session.Operation

/-!
Contract: the log of a session tells its mode.

Owns:
- the events that the log of a session tells;
- what can be seen of a mode, and what each event of a log makes of it;
- the rows of a session's log, replayed, give what can be seen of its mode, after every
  run of operations.

Does not own: the script that runs, and since when.
-/

namespace LiveGrid

/-- What can be seen of a mode: whether a script runs, the text and the error. -/
structure ModeView where
  isRunning : Bool
  source : String
  error : Option String
deriving DecidableEq, Repr

/-- What can be seen of a mode. -/
def Mode.view (mode : Mode) : ModeView := ⟨mode.isRunning, mode.source, mode.error?⟩

/-- The built-in script whose number a detail is the numeral of. -/
def patternOf? (detail : String) : Option String :=
  if detail.toList ≠ [] ∧ detail.toList.all Char.isDigit then
    patterns[Nat.ofDigitChars 10 detail.toList 0]?
  else none

namespace ModeView

/-- What an event with its detail makes of a mode, if there is such an event. -/
def after? (view : ModeView) : String × String → Option ModeView
  | ("start", detail) => some ⟨true, detail, none⟩
  | ("commit", detail) => some ⟨true, detail, none⟩
  | ("discard", detail) => some ⟨true, detail, none⟩
  | ("pattern", detail) => (patternOf? detail).map fun source => ⟨true, source, none⟩
  | ("edit", _) => some ⟨false, view.source, none⟩
  | ("compile_error", detail) => some ⟨false, view.source, some detail⟩
  | ("eval_error", detail) => some ⟨false, view.source, some detail⟩
  | ("quit", _) => some view
  | _ => none

/-- What events make of a mode, one after the other. -/
def replay? (view : ModeView) (entries : List (String × String)) : Option ModeView :=
  entries.foldlM after? view

end ModeView

namespace Session

variable {session : Session}

/-! ## What a log tells -/

/-- The log of a session tells events with their details. -/
def Tells (session : Session) (entries : List (String × String)) : Prop :=
  ∃ log, session.log = some log ∧ log.Records entries

namespace Tells

variable {entries : List (String × String)}

theorem of_log {other : Session} (tells : session.Tells entries)
    (same : other.log = session.log) : other.Tells entries := by
  obtain ⟨log, hasLog, records⟩ := tells
  exact ⟨log, same.trans hasLog, records⟩

/-- Every event is told after those before it. -/
theorem note (tells : session.Tells entries) (event detail : String) :
    (session.note event detail).Tells (entries ++ [(event, detail)]) := by
  obtain ⟨log, hasLog, records⟩ := tells
  refine ⟨log.write session.frame event detail, ?_, records.write session.frame event detail⟩
  rw [note_eq, hasLog, Option.map_some]

/-- No event is refused. -/
theorem tryNote_fst (tells : session.Tells entries) (event detail : String) :
    (session.tryNote event detail).1 = .ok () := by
  obtain ⟨log, hasLog, records⟩ := tells
  simp [tryNote, hasLog, records.tryWrite_fst, Except.mapError]

/-- What the log tells is read from its file. -/
theorem entries? (tells : session.Tells entries) :
    session.log.bind Log.entries? = some entries := by
  obtain ⟨log, hasLog, records⟩ := tells
  rw [hasLog, Option.bind_some, records.told]

end Tells

/-- The log of a session tells a mode, whatever mode the replay begins with. -/
def Recounts (session : Session) (view : ModeView) : Prop :=
  ∃ entries, session.Tells entries ∧ ∀ seed : ModeView, seed.replay? entries = some view

variable {view next : ModeView}

namespace Recounts

theorem congr {other : Session} (recounts : session.Recounts view)
    (same : other.log = session.log) : other.Recounts view := by
  obtain ⟨entries, tells, replayed⟩ := recounts
  exact ⟨entries, tells.of_log same, replayed⟩

/-- A further row tells what its event makes of the mode told before. -/
theorem note (recounts : session.Recounts view) {event detail : String}
    (changes : view.after? (event, detail) = some next) :
    (session.note event detail).Recounts next := by
  obtain ⟨entries, tells, replayed⟩ := recounts
  refine ⟨_, tells.note event detail, fun seed => ?_⟩
  rw [ModeView.replay?, List.foldlM_append, ← ModeView.replay?, replayed seed]
  simpa using changes

theorem tryNote_fst (recounts : session.Recounts view) (event detail : String) :
    (session.tryNote event detail).1 = .ok () := by
  obtain ⟨entries, tells, -⟩ := recounts
  exact tells.tryNote_fst event detail

theorem afterReading (recounts : session.Recounts view) : session.afterReading.Recounts view :=
  recounts.congr rfl

end Recounts

/-- A text is no script, but compiling it breaks off. -/
def BreaksOff (source : String) : Prop :=
  ∃ target, Script.compile source = .error (.reserved target)

/-- The log of a session tells its mode. If the latest text that was submitted did not come to run
since compiling it broke off, the log tells that it runs. -/
structure TellsMode (session : Session) (isSubmitted : String → Prop) : Prop where
  sourceKept : ¬ BreaksOff session.mode.source
  tells : session.Recounts session.mode.view ∨ ∃ text, isSubmitted text ∧ BreaksOff text ∧
    session.isRunning = false ∧ session.Recounts ⟨true, text, none⟩

namespace TellsMode

variable {isSubmitted : String → Prop}

theorem told_of_isRunning (tells : session.TellsMode isSubmitted)
    (runs : session.isRunning = true) : session.Recounts session.mode.view := by
  refine tells.tells.resolve_right ?_
  rintro ⟨text, -, -, stopped, -⟩
  rw [runs] at stopped
  cases stopped

/-- A row that tells the mode does not change it. -/
theorem of_note {event detail : String} (sourceKept : ¬ BreaksOff session.mode.source)
    (recounts : (session.note event detail).Recounts session.mode.view) :
    (session.note event detail).TellsMode isSubmitted := by
  refine ⟨?_, .inl ?_⟩
  · rw [note_mode]
    exact sourceKept
  · rw [note_mode]
    exact recounts

theorem tick (tells : session.TellsMode isSubmitted) (loudness : Float) :
    (session.tick loudness).TellsMode isSubmitted := by
  have ticks := session.ticks_tick loudness
  generalize (session.tryTick loudness).1 = result, session.tick loudness = after at ticks
  cases ticks with
  | idle edits => exact tells
  | frame runs drawn =>
      have told := tells.told_of_isRunning (isRunning_of_running runs)
      exact ⟨tells.sourceKept, .inl (told.congr rfl)⟩
  | @fails script start source fault random runs failure =>
      have sourceKept := tells.sourceKept
      have told := tells.told_of_isRunning (isRunning_of_running runs)
      rw [runs] at told sourceKept
      have noted : ((session.failed source fault random).note "eval_error" fault.message).Recounts
          ⟨false, source, some fault.message⟩ :=
        (told.congr rfl : (session.failed source fault random).Recounts _).note rfl
      exact of_note sourceKept noted

theorem of_running {source : String} {script : Script} {start : Float}
    (recounts : session.Recounts ⟨true, source, none⟩)
    (compiled : Script.compile source = .ok script)
    (runs : session.mode = .running script start source) : session.TellsMode isSubmitted := by
  refine ⟨?_, .inl ?_⟩
  · rintro ⟨target, breaksOff⟩
    rw [runs, Mode.source, compiled] at breaksOff
    cases breaksOff
  · rw [runs]
    exact recounts

/-- A text that is told as running: it runs, or it is refused and told so, or the session goes on as
before although the log tells that it runs. -/
theorem loads {source : String} {result : Except SessionFault Unit} {after : Session}
    (recounts : session.Recounts ⟨true, source, none⟩)
    (sourceKept : ¬ BreaksOff session.mode.source) (stopped : session.isRunning = false)
    (submitted : BreaksOff source → isSubmitted source)
    (loads : session.Loads source result after) : after.TellsMode isSubmitted := by
  cases loads with
  | runs compiled => exact .of_running (recounts.congr rfl) compiled rfl
  | reserved breaksOff =>
      exact ⟨sourceKept, .inr ⟨source, submitted ⟨_, breaksOff⟩, ⟨_, breaksOff⟩, stopped,
        recounts.congr rfl⟩⟩
  | edited refused told =>
      refine ⟨?_, .inl ((recounts.afterReading.note rfl).congr rfl)⟩
      rintro ⟨target, breaksOff⟩
      rw [Mode.source, refused] at breaksOff
      cases breaksOff
  | untold refused untold =>
      rw [recounts.afterReading.tryNote_fst] at untold
      cases untold

end TellsMode

/-- The first script compiles, so nothing stands in the log before the start. -/
theorem exists_tells_start (clock : Clock) {log : Log} (random : Script.RandomStream)
    (records : log.Records []) :
    ∃ script, Script.compile firstPattern = .ok script ∧
      (start clock (some log) random).mode = .running script clock.read.1 firstPattern ∧
      (start clock (some log) random).Tells [("start", firstPattern)] := by
  obtain ⟨script, compiled, started⟩ := exists_start_eq clock (some log) random
  refine ⟨script, compiled, ?_, ?_⟩
  · rw [started, note_mode]
  · rw [started, note_eq]
    exact ⟨_, rfl, records.write _ "start" firstPattern⟩

theorem Tells.recounts_start (tells : session.Tells [("start", firstPattern)]) :
    session.Recounts ⟨true, firstPattern, none⟩ := ⟨_, tells, fun _ => rfl⟩

theorem patternOf?_numeral (number : Nat) :
    patternOf? (Number.Decimal.numeral number) = patterns[number]? := by
  have digits : (Number.Decimal.numeral number).toList = Nat.toDigits 10 number :=
    String.toList_ofList
  have allDigits : (Nat.toDigits 10 number).all Char.isDigit = true :=
    List.all_eq_true.2 fun _ member => Nat.isDigit_of_mem_toDigits (by decide) (by decide) member
  rw [patternOf?, digits, if_pos ⟨Nat.toDigits_ne_nil, allDigits⟩, Nat.ofDigitChars_ten_toDigits]

namespace TellsMode

variable {isSubmitted : String → Prop}

theorem loadPattern (tells : session.TellsMode isSubmitted) (runs : session.isRunning = true)
    (digit : Nat) : (session.loadPattern digit).TellsMode isSubmitted := by
  unfold Session.loadPattern
  split
  · exact tells
  · rename_i source found
    have noted : (session.note "pattern" (Number.Decimal.numeral digit)).Recounts
        ⟨true, source, none⟩ := by
      refine (tells.told_of_isRunning runs).note ?_
      simp only [ModeView.after?, patternOf?_numeral, found, Option.map_some]
    obtain ⟨script, compiled, -⟩ := Script.evaluate_pattern_ok (List.mem_of_getElem? found)
    rw [load_of_ok compiled]
    exact .of_running (noted.congr rfl) compiled rfl

theorem handleKey (tells : session.TellsMode isSubmitted) (event : KeyEvent) :
    (session.handleKey event).2.TellsMode isSubmitted := by
  unfold Session.handleKey
  cases mode : session.mode with
  | editing source error => exact tells
  | running script start source =>
      have runs : session.isRunning = true := isRunning_of_running mode
      have told := tells.told_of_isRunning runs
      have sourceKept := tells.sourceKept
      dsimp only
      split
      · exact of_note sourceKept (told.note rfl)
      · split
        · rw [mode] at told sourceKept
          have stopped : { session with mode := .editing source none }.Recounts
              ⟨true, source, none⟩ := told.congr rfl
          exact of_note sourceKept (stopped.note rfl)
        · split
          · exact tells.loadPattern runs _
          · exact tells

/-- Any event that is told as a text running puts the text in the place of the mode. -/
theorem replaces {event source : String} {result : Except SessionFault Unit} {after : Session}
    (tells : session.TellsMode isSubmitted) (stopped : session.isRunning = false)
    (isStart : ∀ view : ModeView, view.after? (event, source) = some ⟨true, source, none⟩)
    (submitted : BreaksOff source → isSubmitted source)
    (replaces : session.Replaces event source result after) : after.TellsMode isSubmitted := by
  obtain ⟨view, recounts⟩ : ∃ view, session.Recounts view := by
    rcases tells.tells with told | ⟨text, -, -, -, told⟩
    · exact ⟨_, told⟩
    · exact ⟨_, told⟩
  cases replaces with
  | untold untold =>
      rw [recounts.tryNote_fst] at untold
      cases untold
  | told told loads =>
      refine TellsMode.loads (recounts.note (isStart view)) ?_ ?_ submitted loads
      · rw [note_mode]
        exact tells.sourceKept
      · rw [isRunning, note_mode]
        exact stopped

theorem clearCanvas (tells : session.TellsMode isSubmitted) :
    session.clearCanvas.TellsMode isSubmitted := by
  refine ⟨tells.sourceKept, tells.tells.imp (·.congr rfl) ?_⟩
  rintro ⟨text, submitted, breaksOff, stopped, told⟩
  exact ⟨text, submitted, breaksOff, stopped, told.congr rfl⟩

theorem quit (tells : session.TellsMode isSubmitted) :
    (session.note "quit" "").TellsMode isSubmitted := by
  refine ⟨?_, ?_⟩
  · rw [note_mode]
    exact tells.sourceKept
  · rw [isRunning, note_mode]
    refine tells.tells.imp (·.note rfl) ?_
    rintro ⟨text, submitted, breaksOff, stopped, told⟩
    exact ⟨text, submitted, breaksOff, stopped, told.note rfl⟩

theorem finishes (tells : session.TellsMode isSubmitted) {outcome : EditOutcome} {text : String}
    {result : Except SessionFault Bool} {after : Session}
    (submitted : outcome = .submit → isSubmitted text)
    (finishes : session.Finishes text outcome result after) : after.TellsMode isSubmitted := by
  cases finishes with
  | notEditing runs => exact tells
  | unfinished edits => exact tells
  | quits edits => exact tells.quit
  | submits edits replaces =>
      exact (tells.replaces (isRunning_of_editing edits) (fun _ => rfl) (fun _ => submitted rfl)
        replaces).clearCanvas
  | submitFails edits replaces =>
      exact tells.replaces (isRunning_of_editing edits) (fun _ => rfl) (fun _ => submitted rfl)
        replaces
  | @discards source error result after edits replaces =>
      refine tells.replaces (isRunning_of_editing edits) (fun _ => rfl) (fun breaksOff => ?_)
        replaces
      have sourceKept := tells.sourceKept
      rw [edits] at sourceKept
      exact absurd breaksOff sourceKept

theorem start {clock : Clock} {log : Log} {random : Script.RandomStream}
    (records : log.Records []) :
    (Session.start clock (some log) random).TellsMode isSubmitted := by
  obtain ⟨script, compiled, runs, tells⟩ := exists_tells_start clock random records
  exact .of_running tells.recounts_start compiled runs

theorem run (tells : session.TellsMode isSubmitted) {operations : List Operation}
    (submitted : ∀ text, .finish .submit text ∈ operations → isSubmitted text) :
    (session.run operations).TellsMode isSubmitted := by
  refine @run_induction session (·.TellsMode isSubmitted)
    (fun _ loudness holds => holds.tick loudness) (fun _ event holds => holds.handleKey event)
    operations ?_ tells
  intro _ outcome text _ _ member holds finishes
  exact holds.finishes (fun submits => submitted text (submits ▸ member)) finishes

end TellsMode

/-- The rows that a session has written, replayed from any mode, give its mode, unless the compiler
has broken off at a text that was submitted: the log tells then that this text runs, while another
one is still edited. The file of the log is emptied when the log is opened, whatever it held. -/
theorem replay_entries_eq_view (clock logClock : Clock) (oldText : Option String)
    (random : Script.RandomStream) (operations : List Operation) (seed : ModeView) :
    let log := (Log.new logClock { text := oldText }).openFile
    let session := (Session.start clock (some log) random).run operations
    ∃ view, (session.log.bind Log.entries?).bind seed.replay? = some view ∧
      (view = session.mode.view ∨
        ∃ text target, .finish .submit text ∈ operations ∧
          Script.compile text = .error (.reserved target) ∧ session.mode.isRunning = false ∧
          view = ⟨true, text, none⟩) := by
  intro log session
  have records : log.Records [] :=
    Log.records_openFile rfl rfl Encoding.unicode_represents
  have tells : session.TellsMode (.finish .submit · ∈ operations) :=
    (TellsMode.start records).run fun _ => id
  rcases tells.tells with recounts | ⟨text, submitted, ⟨target, breaksOff⟩, stopped, recounts⟩
  · obtain ⟨entries, told, replayed⟩ := recounts
    refine ⟨_, ?_, .inl rfl⟩
    rw [told.entries?, Option.bind_some]
    exact replayed seed
  · obtain ⟨entries, told, replayed⟩ := recounts
    refine ⟨_, ?_, .inr ⟨text, target, submitted, breaksOff, stopped, rfl⟩⟩
    rw [told.entries?, Option.bind_some]
    exact replayed seed

/-- A text at which the compiler breaks off is told as running when it is submitted, and the session
edits the text that it was to replace. -/
theorem Recounts.submit_reserved {source text : String} {target : Script.ReservedTarget}
    {script : Script} {start : Float} (recounts : session.Recounts ⟨true, source, none⟩)
    (runs : session.mode = .running script start source)
    (breaksOff : Script.compile text = .error (.reserved target)) :
    let after := session.run [.key { key := .escape }, .finish .submit text]
    after.mode = .editing source none ∧ after.Recounts ⟨true, text, none⟩ := by
  intro after
  let stopped : Session := { session with mode := .editing source none }
  have editing : (stopped.note "edit" "").Recounts ⟨false, source, none⟩ :=
    (recounts.congr rfl : stopped.Recounts _).note rfl
  have edits : (stopped.note "edit" "").mode = .editing source none := note_mode
  have isAfter : after = ((stopped.note "edit" "").note "commit" text).afterReading := by
    have opened : session.perform (.key { key := .escape }) = stopped.note "edit" "" :=
      congrArg Prod.snd (handleKey_of_escape runs rfl)
    have finished := finishEdit_of_reserved edits (editing.tryNote_fst "commit" text) breaksOff
    have isRun : after =
      (session.perform (.key { key := .escape })).perform (.finish .submit text) := rfl
    rw [isRun, opened]
    exact congrArg Prod.snd finished
  rw [isAfter]
  exact ⟨note_mode.trans edits, (editing.note rfl).afterReading⟩

/-- The log tells that the text runs which was submitted, and the session still edits the script
that it was to replace. -/
theorem replay_entries_ne_view :
    let log := (Log.new (.still 0) {}).openFile
    let session := (Session.start (.still 0) (some log) ⟨fun _ => 0.5, 0⟩).run
      [.key { key := .escape }, .finish .submit "Fªlse=1;x"]
    session.mode.view = ⟨false, firstPattern, none⟩ ∧
      (session.log.bind Log.entries?).bind (ModeView.replay? ⟨false, "", none⟩) =
        some ⟨true, "Fªlse=1;x", none⟩ := by
  intro log session
  have records : log.Records [] := Log.records_openFile rfl rfl Encoding.unicode_represents
  obtain ⟨script, -, runs, tells⟩ := exists_tells_start (.still 0) ⟨fun _ => 0.5, 0⟩ records
  obtain ⟨edits, entries, told, replayed⟩ :=
    tells.recounts_start.submit_reserved runs Script.compile_reserved_false
  rw [edits, told.entries?, Option.bind_some, replayed]
  exact ⟨rfl, rfl⟩

end Session

end LiveGrid
