import LiveGrid.Proofs.Editor.Typing
import LiveGrid.Proofs.Session.Mode
import LiveGrid.Proofs.Session.Rows

/-!
Contract: the two ways out of an edit.

Owns:
- the session during an edit, which ticks leave as it is;
- an edit that is dropped: the session goes on as before, and only knows a new start;
- an edit that is submitted: the typed text takes the place of the script, on an empty canvas,
  unless the compiler breaks off at it.

What a dropped edit goes back to is compiled again. It is the same script, since a session only ever
runs what its text compiles to.

Does not own: which keys end an edit.
-/

namespace LiveGrid

namespace Session

variable {session : Session} {script : Script} {start : Float} {source text : String}
  {escape : KeyEvent}

/-! ## During an edit -/

/-- A session whose script is being edited after a key has opened the editor. -/
def edited (session : Session) (source : String) : Session :=
  { session with mode := .editing source none }.note "edit" ""

@[simp] theorem edited_mode : (session.edited source).mode = .editing source none := note_mode

@[simp] theorem edited_canvas : (session.edited source).canvas = session.canvas := note_canvas

@[simp] theorem edited_frame : (session.edited source).frame = session.frame := note_frame

@[simp] theorem edited_clock : (session.edited source).clock = session.clock := note_clock

theorem Tells.edited {entries : List (String × String)} (tells : session.Tells entries) :
    (session.edited source).Tells (entries ++ [("edit", "")]) :=
  (tells.of_log rfl : { session with mode := .editing source none }.Tells entries).note "edit" ""

theorem tick_of_editing {error : Option String} {loudness : Float}
    (edits : session.mode = .editing source error) : session.tick loudness = session := by
  rw [tick, tryTick, edits]

theorem run_ticks_of_editing {error : Option String} (edits : session.mode = .editing source error)
    (ticks : List Float) : session.run (ticks.map .tick) = session := by
  induction ticks with
  | nil => rfl
  | cons loudness rest inductionHypothesis =>
      have ticked : session.perform (.tick loudness) = session := tick_of_editing edits
      rw [List.map_cons, run_cons, ticked]
      exact inductionHypothesis

/-- The session that a key leaves which opens the editor, however often it was to tick since. -/
theorem run_ticks_of_escape (runs : session.mode = .running script start source)
    (escapes : escape.key = .escape) (ticks : List Float) :
    (session.handleKey escape).2.run (ticks.map .tick) = session.edited source := by
  have handled : session.handleKey escape = (true, session.edited source) :=
    handleKey_of_escape runs escapes
  rw [handled, run_ticks_of_editing edited_mode]

/-- What is typed before a key that ends an edit. -/
theorem editLine_ofText {typed : List KeyPoll}
    (types : ∀ event, .event event ∈ typed →
      event.key ≠ .enter ∧ event.key ≠ .escape ∧ event.isInterrupt = false)
    {last : KeyEvent} (isEnd : last.outcome ≠ .proceed) (unread : List KeyPoll) :
    let edit := editLine (LineEditor.ofText source) (typed ++ .event last :: unread)
    edit.outcome = some last.outcome ∧ edit.unread = unread ∧
      edit.editor.text = typedText source typed := by
  intro edit
  obtain ⟨ended, left, line⟩ :=
    LineEditor.editLine_typed (LineEditor.ofText source) types isEnd
  refine ⟨ended, left, ?_⟩
  show (editLine _ _).editor.text = _
  rw [line]
  exact LineEditor.text_run_ofText

/-! ## Ways out -/

/-- What the end of an edit leaves, whichever text the session goes on with. Only the log knows that
there was an edit. -/
structure Follows (session after : Session) (rows : List (String × String)) : Prop where
  frame : after.frame = session.frame
  clock : after.clock = session.clock.read.2
  random : after.random = session.random
  tells : ∀ entries, session.Tells entries → after.Tells (entries ++ rows)

namespace Follows

variable {after other : Session} {rows : List (String × String)}

theorem congr (follows : session.Follows after rows) (frame : other.frame = after.frame)
    (clock : other.clock = after.clock) (random : other.random = after.random)
    (log : other.log = after.log) : session.Follows other rows where
  frame := frame.trans follows.frame
  clock := clock.trans follows.clock
  random := random.trans follows.random
  tells entries told := (follows.tells entries told).of_log log

theorem note (follows : session.Follows after rows) (event detail : String) :
    session.Follows (after.note event detail) (rows ++ [(event, detail)]) where
  frame := note_frame.trans follows.frame
  clock := note_clock.trans follows.clock
  random := note_random.trans follows.random
  tells entries told := by
    rw [← List.append_assoc]
    exact (follows.tells entries told).note event detail

end Follows

/-- An edit is told, and the event that ends it, before the clock is read. -/
theorem follows_afterReading (event detail : String) :
    session.Follows ((session.edited source).note event detail).afterReading
      [("edit", ""), (event, detail)] where
  frame := note_frame.trans edited_frame
  clock := by rw [afterReading, note_clock, edited_clock]
  random := note_random.trans note_random
  tells entries told := by
    have edits : (session.edited source).Tells (entries ++ [("edit", "")]) := told.edited
    have noted := edits.note event detail
    rw [List.append_assoc] at noted
    exact noted.of_log rfl

/-- What the end of an edit leaves when the session is to go on with a text, which is told first. -/
theorem tryReplace_edited (encodes : session.Encodes) (event text : String) :
    ∃ result after, (session.edited source).tryReplace event text = (result, after) ∧
      after.canvas = session.canvas ∧
      match Script.compile text with
      | .ok script =>
          result = .ok () ∧ after.mode = .running script session.clock.read.1 text ∧
            session.Follows after [("edit", ""), (event, text)]
      | .error (.refused cause) =>
          result = .ok () ∧ after.mode = .editing text (some cause.message) ∧
            session.Follows after
              [("edit", ""), (event, text), ("compile_error", cause.message)]
      | .error (.reserved target) =>
          result = .error (.reserved target) ∧ after.mode = .editing source none ∧
            session.Follows after [("edit", ""), (event, text)] := by
  have encodesEdited : (session.edited source).Encodes :=
    (encodes.of_log rfl : { session with mode := .editing source none }.Encodes).logAfter log_note
  have encodesTold : ((session.edited source).note event text).afterReading.Encodes :=
    (encodesEdited.logAfter log_note).of_log rfl
  have told : (session.edited source).tryReplace event text =
      ((session.edited source).note event text).tryLoad text := by
    rw [tryReplace_eq, encodesEdited.tryNote_fst]
  have follows := @follows_afterReading session source event text
  have canvas : ((session.edited source).note event text).afterReading.canvas = session.canvas :=
    note_canvas.trans edited_canvas
  rw [told]
  cases compiled : Script.compile text with
  | ok script =>
      rw [tryLoad_of_ok compiled]
      refine ⟨_, _, rfl, canvas, rfl, ?_, follows.congr rfl rfl rfl rfl⟩
      rw [note_clock, edited_clock]
  | error fault =>
      cases fault with
      | reserved target =>
          rw [tryLoad_of_reserved compiled]
          exact ⟨_, _, rfl, canvas, rfl, note_mode.trans edited_mode, follows⟩
      | refused cause =>
          rw [tryLoad_of_refused compiled, encodesTold.tryNote_fst]
          refine ⟨_, _, rfl, note_canvas.trans canvas, rfl, rfl, ?_⟩
          exact (follows.note "compile_error" cause.message).congr rfl rfl rfl rfl

/-- An edit of what a session runs ends in one of two ways, whatever was typed before and however
often the session was to tick meanwhile. The log can encode every text, if there is one.

If it is dropped, the session runs the same script of the same text on the same canvas; apart from
the reading of the clock at which the script is started anew, only its log has changed, whose file
tells the edit and its end. If it is submitted, the text that was typed takes the place of the old
one, on an empty canvas: it runs if it compiles, and otherwise it is edited with its error, which
is told in a third row. If the compiler breaks off at it, the call is broken off, although its row
was written: the old text is edited on the old canvas. -/
theorem edit_resumes_or_replaces (clock : Clock) (log : Option Log) (random : Script.RandomStream)
    (operations : List Operation) {script : Script} {start : Float} {source : String}
    (encodes : ∀ kept ∈ log, ∀ text, kept.file.encoding.Represents text)
    (runs : ((Session.start clock log random).run operations).mode =
      .running script start source)
    {escape : KeyEvent} (escapes : escape.key = .escape) (ticks : List Float)
    {typed : List KeyPoll}
    (types : ∀ event, .event event ∈ typed →
      event.key ≠ .enter ∧ event.key ≠ .escape ∧ event.isInterrupt = false)
    (last : KeyEvent) (unread : List KeyPoll) :
    let session := (Session.start clock log random).run operations
    let opened := (session.handleKey escape).2.run (ticks.map .tick)
    let edit := editLine (LineEditor.ofText opened.mode.source)
      (typed ++ .event last :: unread)
    let now := session.clock.read.1
    let text := typedText source typed
    (last.key = .escape →
      edit.outcome = some .discard ∧ edit.unread = unread ∧
      ∃ after, opened.finishEdit .discard edit.editor.text = (.ok true, after) ∧
        after.mode = .running script now source ∧ after.canvas = session.canvas ∧
        session.Follows after [("edit", ""), ("discard", source)]) ∧
    (last.key = .enter →
      edit.outcome = some .submit ∧ edit.unread = unread ∧ edit.editor.text = text ∧
      ∃ result after, opened.finishEdit .submit edit.editor.text = (result, after) ∧
        match Script.compile text with
        | .ok replaced =>
            result = .ok true ∧ after.mode = .running replaced now text ∧
              after.canvas = Canvas.blank ∧
              session.Follows after [("edit", ""), ("commit", text)]
        | .error (.refused cause) =>
            result = .ok true ∧ after.mode = .editing text (some cause.message) ∧
              after.canvas = Canvas.blank ∧
              session.Follows after
                [("edit", ""), ("commit", text), ("compile_error", cause.message)]
        | .error (.reserved target) =>
            result = .error (.reserved target) ∧ after.mode = .editing source none ∧
              after.canvas = session.canvas ∧
              session.Follows after [("edit", ""), ("commit", text)]) := by
  intro session opened edit now text
  have sound := isSound_mode clock log random operations
  rw [runs] at sound
  have compiled : Script.compile source = .ok script := sound.compile_eq_ok
  have encodesAll : session.Encodes := (encodes_start encodes).run operations
  have isOpened : opened = session.edited source := run_ticks_of_escape runs escapes ticks
  have typedBefore {outcome : EditOutcome} (ends : last.outcome = outcome)
      (isEnd : outcome ≠ .proceed) :
      edit.outcome = some outcome ∧ edit.unread = unread ∧ edit.editor.text = text := by
    have sourceKept : opened.mode.source = source := by
      rw [isOpened, edited_mode, Mode.source]
    have isEdit : edit = editLine (LineEditor.ofText source) (typed ++ .event last :: unread) := by
      rw [← sourceKept]
    rw [isEdit, ← ends]
    exact editLine_ofText types (ends ▸ isEnd) unread
  constructor
  · intro dropped
    obtain ⟨ended, left, -⟩ := typedBefore (KeyEvent.outcome_of_escape dropped) (by decide)
    obtain ⟨result, after, replaced, canvas, resumes⟩ :=
      tryReplace_edited encodesAll "discard" source
    rw [compiled] at resumes
    obtain ⟨rfl, mode, follows⟩ := resumes
    refine ⟨ended, left, after, ?_, mode, canvas, follows⟩
    rw [isOpened, finishEdit_discard edited_mode, replaced]
    rfl
  · intro submitted
    obtain ⟨ended, left, line⟩ := typedBefore (KeyEvent.outcome_of_enter submitted) (by decide)
    refine ⟨ended, left, line, ?_⟩
    obtain ⟨result, after, replaced, canvas, goesOn⟩ :=
      tryReplace_edited encodesAll "commit" text
    rw [line, isOpened, finishEdit_submit edited_mode, replaced]
    cases result : Script.compile text with
    | ok script =>
        rw [result] at goesOn
        obtain ⟨rfl, mode, follows⟩ := goesOn
        exact ⟨_, _, rfl, rfl, mode, rfl, follows.congr rfl rfl rfl rfl⟩
    | error fault =>
        rw [result] at goesOn
        cases fault with
        | refused cause =>
            obtain ⟨rfl, mode, follows⟩ := goesOn
            exact ⟨_, _, rfl, rfl, mode, rfl, follows.congr rfl rfl rfl rfl⟩
        | reserved target =>
            obtain ⟨rfl, mode, follows⟩ := goesOn
            exact ⟨_, _, rfl, rfl, mode, canvas, follows⟩

/-- A session with an opened log. The line is emptied and gets two characters, the second one before
the first; what was typed is no script. -/
theorem edit_resumes_or_replaces_malformed :
    let log := (Log.new (.still 0) {}).openFile
    let session := Session.start (.still 2) (some log) ⟨fun _ => 0.5, 0⟩
    let typed : List KeyPoll :=
      [.event ⟨.backspace, "", false, true⟩, .event ⟨.char, "x", false, false⟩, .idle,
        .event ⟨.left, "", false, false⟩, .event ⟨.char, "3", false, false⟩]
    let opened := (session.handleKey ⟨.escape, "", false, false⟩).2.run [.tick 0.5, .tick 1]
    let editor := LineEditor.ofText opened.mode.source
    let dropped := editLine editor (typed ++ [.event ⟨.escape, "", false, false⟩])
    let submitted := editLine editor (typed ++ [.event ⟨.enter, "", false, false⟩, .idle])
    (∃ script after, opened.finishEdit .discard dropped.editor.text = (.ok true, after) ∧
      session.mode = .running script 2 firstPattern ∧
      after.mode = .running script session.clock.read.1 firstPattern ∧
      after.canvas = session.canvas ∧
      after.log.bind Log.entries? =
        some [("start", firstPattern), ("edit", ""), ("discard", firstPattern)]) ∧
      submitted.unread = [.idle] ∧ submitted.editor.text = "3x" ∧
      ∃ after, opened.finishEdit .submit submitted.editor.text = (.ok true, after) ∧
        after.mode = .editing "3x" (some "syntax error") ∧ after.canvas = Canvas.blank ∧
        after.log.bind Log.entries? =
          some [("start", firstPattern), ("edit", ""), ("commit", "3x"),
            ("compile_error", "syntax error")] := by
  intro log session typed opened editor dropped submitted
  have records : log.Records [] := Log.records_openFile rfl rfl Encoding.unicode_represents
  obtain ⟨script, -, runs, tells⟩ := exists_tells_start (.still 2) ⟨fun _ => 0.5, 0⟩ records
  have encodes : ∀ kept ∈ some log, ∀ text, kept.file.encoding.Represents text := by
    rintro _ ⟨rfl⟩ text
    exact records.represents text
  have isTyped : typedText firstPattern typed = "3x" := by decide +kernel
  have malformed : Script.compile "3x" = .error (.refused .malformed) := by
    have noTree : Script.Grammar.parse? "3x" = none := by decide +kernel
    rw [Script.compile, noTree]
  have types : ∀ event, .event event ∈ typed →
      event.key ≠ .enter ∧ event.key ≠ .escape ∧ event.isInterrupt = false := by
    intro event member
    have each : ∀ event ∈ typed.filterMap KeyPoll.event?,
        event.key ≠ .enter ∧ event.key ≠ .escape ∧ event.isInterrupt = false := by decide +kernel
    exact each event (List.mem_filterMap.2 ⟨_, member, rfl⟩)
  have escapes : KeyEvent.key ⟨.escape, "", false, false⟩ = .escape := rfl
  have runsYet : (Session.run session []).mode = .running script 2 firstPattern := by
    rw [run_nil]
    exact runs
  have resumes := (edit_resumes_or_replaces (.still 2) (some log) ⟨fun _ => 0.5, 0⟩ []
    encodes runsYet escapes [0.5, 1] types ⟨.escape, "", false, false⟩ []).1 rfl
  have replaces := (edit_resumes_or_replaces (.still 2) (some log) ⟨fun _ => 0.5, 0⟩ []
    encodes runsYet escapes [0.5, 1] types ⟨.enter, "", false, false⟩ [.idle]).2 rfl
  rw [run_nil] at resumes replaces
  rw [isTyped, malformed] at replaces
  obtain ⟨-, -, resumed, discards, mode, canvas, follows⟩ := resumes
  obtain ⟨-, left, line, _, after, submits, rfl, edits, blank, replacesTold⟩ := replaces
  refine ⟨⟨script, resumed, discards, runs, mode, canvas, ?_⟩, left, line, after, submits, edits,
    blank, ?_⟩
  · exact (follows.tells _ tells).entries?
  · exact (replacesTold.tells _ tells).entries?

/-- A text at which the compiler breaks off is typed and submitted: the script from before is still
edited. -/
theorem edit_not_replaced_reserved :
    let session := Session.start (.still 2) none ⟨fun _ => 0.5, 0⟩
    let opened := (session.handleKey ⟨.escape, "", false, false⟩).2
    let typed : List KeyPoll := .event ⟨.backspace, "", false, true⟩ ::
      "Fªlse=1;x".toList.map fun character => .event ⟨.char, character.toString, false, false⟩
    let submitted := editLine (LineEditor.ofText opened.mode.source)
      (typed ++ [.event ⟨.enter, "", false, false⟩])
    let finished := opened.finishEdit .submit submitted.editor.text
    submitted.outcome = some .submit ∧ submitted.editor.text = "Fªlse=1;x" ∧
      finished.1 = .error (.reserved ⟨"False"⟩) ∧ finished.2.mode.source = firstPattern := by
  decide +kernel

end Session

end LiveGrid
