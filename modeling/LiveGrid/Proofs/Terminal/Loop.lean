import LiveGrid.Proofs.Grid.Frame
import LiveGrid.Proofs.Session.Rows
import LiveGrid.Proofs.Terminal.Turn

/-!
Contract: a run ends, and reads every key once.

Owns:
- passes of turns, of which only the last does not go on, and of which each reads its own polls;
- a run makes such a pass, of as many turns as its keys allow; unless it is broken off, the last key
  that it reads asks to quit;
- what the log of a run tells about quitting;
- a run that is broken off by a text that was typed.

The bound counts two turns for a key, since a frame that fails reads nothing and an edit has to
follow, which then reads a key. A running session may fail before its first key, so that it has two
turns left without a key before the one that asks to quit, and an edit has one.

Does not own: what a turn reads, and who reads it.
-/

namespace LiveGrid

namespace Run

variable {run final : Run} {blocks : List (List KeyPoll)} {event : KeyEvent}

/-! ## Passes -/

/-- Turns up to the first one that does not go on, with the polls that each of them reads. The last
one quits, or a fault breaks it off. -/
inductive Passes : List (List KeyPoll) → Run → Option SessionFault → Run → Prop where
  | quits {used : List KeyPoll} {run final : Run} (turns : run.Turns used (.ok false) final) :
      Passes [used] run none final
  | breaksOff {used : List KeyPoll} {run final : Run} {fault : SessionFault}
      (turns : run.Turns used (.error fault) final) : Passes [used] run (some fault) final
  | next {used : List KeyPoll} {blocks : List (List KeyPoll)} {run next final : Run}
      {fault : Option SessionFault} (turns : run.Turns used (.ok true) next)
      (passes : Passes blocks next fault final) : Passes (used :: blocks) run fault final

namespace Passes

variable {fault : Option SessionFault}

/-- What is read is a first part of the polls, and every poll of it is read once. -/
theorem polls_eq (passes : Passes blocks run fault final) :
    run.polls = blocks.flatten ++ final.polls := by
  induction passes with
  | quits turns | breaksOff turns =>
      rw [List.flatten_singleton]
      exact turns.reads
  | next turns passes inductionHypothesis =>
      rw [turns.reads, inductionHypothesis, List.flatten_cons, List.append_assoc]

/-- The last poll that is read before a run quits is a key that asks for it. -/
theorem exists_interrupt (passes : Passes blocks run none final) :
    ∃ before event, blocks.flatten = before ++ [.event event] ∧ event.isInterrupt = true := by
  generalize ended : (none : Option SessionFault) = fault at passes
  induction passes with
  | quits turns =>
      rw [List.flatten_singleton]
      exact turns.exists_interrupt
  | breaksOff turns => cases ended
  | @next used blocks run next final fault turns passes inductionHypothesis =>
      obtain ⟨before, event, same, interrupts⟩ := inductionHypothesis ended
      refine ⟨used ++ before, event, ?_, interrupts⟩
      rw [List.flatten_cons, same, List.append_assoc]

/-- More turns than a pass has change nothing. -/
theorem turns_eq (passes : Passes blocks run fault final) {fuel : Nat}
    (enough : blocks.length ≤ fuel) : turns fuel run = final := by
  induction passes generalizing fuel with
  | quits turns | breaksOff turns =>
      obtain ⟨fuel, rfl⟩ := Nat.exists_eq_add_of_lt enough
      rw [List.length_nil, Nat.zero_add, Run.turns, turns.made]
      rfl
  | next turns passes inductionHypothesis =>
      obtain ⟨fuel, rfl⟩ := Nat.exists_eq_add_of_lt enough
      rw [Run.turns, turns.made]
      exact inductionHypothesis (Nat.le_add_right _ _)

theorem fault_eq (passes : Passes blocks run fault final) (unbroken : run.fault = none) :
    final.fault = fault := by
  induction passes with
  | quits turns => exact turns.fault.trans unbroken
  | breaksOff turns => exact turns.fault
  | next turns passes inductionHypothesis =>
      exact inductionHypothesis (turns.fault.trans unbroken)

theorem isBreak {cause : SessionFault} (passes : Passes blocks run (some cause) final) :
    cause.IsBreak := by
  generalize broken : some cause = fault at passes
  induction passes with
  | quits turns => cases broken
  | breaksOff turns =>
      cases broken
      exact turns.isBreak
  | next turns passes inductionHypothesis => exact inductionHypothesis broken

/-- After a pass the log tells of quitting, unless the pass is broken off. -/
theorem tellsQuit (passes : Passes blocks run fault final) (tells : run.session.TellsQuit true) :
    final.session.TellsQuit fault.isSome := by
  induction passes with
  | quits turns | breaksOff turns => exact turns.tellsQuit tells
  | next turns passes inductionHypothesis => exact inductionHypothesis (turns.tellsQuit tells)

end Passes

/-! ## The bound -/

/-- How many turns a run may make, as its mode and the number of keys before one that asks to quit
allow. -/
def turnBound (run : Run) (keys : Nat) : Nat :=
  2 * keys + if run.session.isRunning then 2 else 1

variable {before : List KeyPoll} {used : List KeyPoll} {next : Run}

/-- A turn that goes on reads only keys before the one that asks to quit. -/
theorem Turns.exists_unread (turns : run.Turns used (.ok true) next)
    (interrupts : event.isInterrupt = true) {after : List KeyPoll}
    (waits : run.polls = before ++ .event event :: after) :
    ∃ rest, before = used ++ rest ∧ next.polls = rest ++ .event event :: after := by
  have unread := turns.not_mem_of_goesOn interrupts
  rw [turns.reads] at waits
  rcases List.append_eq_append_iff.1 waits with ⟨rest, readFirst, waitsStill⟩ | ⟨more, longer, same⟩
  · exact ⟨rest, readFirst, waitsStill⟩
  · cases more with
    | nil => exact ⟨[], by rw [longer, List.append_nil, List.append_nil], same.symm⟩
    | cons first more =>
        cases same
        exact absurd (longer ▸ List.mem_append_right _ List.mem_cons_self) unread

/-- A turn that goes on leaves fewer turns: it reads a key, or it fails and an edit follows. -/
theorem Turns.turnBound_lt (turns : run.Turns used (.ok true) next) (rest : List KeyPoll) :
    next.turnBound rest.length < run.turnBound (used ++ rest).length := by
  cases used with
  | nil =>
      obtain ⟨runs, edits⟩ := turns.isRunning_of_nil
      simp [turnBound, runs, edits]
  | cons poll used =>
      rw [turnBound, turnBound, List.length_append, List.length_cons]
      split <;> split <;> omega

/-- As long as a key that asks to quit waits, a run makes a pass within its bound. -/
theorem exists_passes (interrupts : event.isInterrupt = true) {after : List KeyPoll}
    (waits : run.polls = before ++ .event event :: after) :
    ∃ blocks fault final, Passes blocks run fault final ∧
      blocks.length ≤ run.turnBound before.length := by
  generalize bounded : run.turnBound before.length = bound
  induction bound using Nat.strongRecOn generalizing run before with
  | ind bound inductionHypothesis =>
      have member : .event event ∈ run.polls := by simp [waits]
      have atLeastOne : 1 ≤ bound := by
        rw [← bounded, turnBound]
        split <;> omega
      obtain ⟨used, result, next, turns⟩ := exists_turns interrupts member
      match result with
      | .error fault => exact ⟨[used], some fault, next, .breaksOff turns, atLeastOne⟩
      | .ok false => exact ⟨[used], none, next, .quits turns, atLeastOne⟩
      | .ok true =>
          obtain ⟨rest, rfl, waitsStill⟩ := turns.exists_unread interrupts waits
          have lower := turns.turnBound_lt rest
          rw [bounded] at lower
          obtain ⟨blocks, fault, final, passes, few⟩ :=
            inductionHypothesis _ lower waitsStill rfl
          exact ⟨used :: blocks, fault, final, .next turns passes,
            Nat.lt_of_le_of_lt few lower⟩

/-! ## Runs from their start -/

variable {settings : RunSettings} {around : Surroundings}

/-- The log of a run is told why there is no microphone, if it can be told. -/
theorem tellsQuit_prepare (writes : settings.writesLog = true)
    (canOpen : around.logFile.canOpen = true) (notBroken : around.logFile.isBroken = false) :
    (Session.idle (Clock.still around.now) (some (prepare settings around).2.1)
      around.random).TellsQuit true := by
  have keeps : (Log.new (Clock.still around.now) around.logFile).openFile.Keeps [] :=
    Log.keeps_openFile canOpen notBroken
  have opened : (Session.idle (Clock.still around.now)
      (some (Log.new (Clock.still around.now) around.logFile).openFile)
      around.random).TellsQuit true := ⟨[], by simp, _, rfl, keeps⟩
  rcases started : (if settings.usesMicrophone then Microphone.start {} around.sound
    else (true, {}, [])) with ⟨hasStarted, microphone, requests⟩
  rw [prepare, started, if_pos writes]
  dsimp only
  cases hasStarted with
  | true => exact opened
  | false =>
      have noted := opened.note "audio" (microphone.error.getD "unavailable") (by decide)
      rw [Session.note_eq] at noted
      exact noted

/-- The session of a run is started unless the log cannot encode why there is no microphone. -/
theorem opening_cases (settings : RunSettings) (around : Surroundings) (polls : List KeyPoll) :
    let opened := opening settings around polls
    let clock := Clock.still around.now
    let log := (prepare settings around).2.1
    (opened.session = Session.start clock (some log) around.random ∧ opened.fault = none) ∨
      opened.session = Session.idle clock (some log) around.random ∧
        ∃ cause, opened.fault = some (.unencodable cause) := by
  rcases prepared : prepare settings around with ⟨cause | ⟨⟩, log, microphone⟩
  · exact .inr (by simp [opening, prepared])
  · exact .inl (by simp [opening, prepared])

theorem tellsQuit_opening (writes : settings.writesLog = true)
    (canOpen : around.logFile.canOpen = true) (notBroken : around.logFile.isBroken = false)
    (polls : List KeyPoll) : (opening settings around polls).session.TellsQuit true := by
  have tells := tellsQuit_prepare writes canOpen notBroken
  rcases opening_cases settings around polls with ⟨started, -⟩ | ⟨idles, -⟩
  · rw [started]
    exact tells.start
  · rw [idles]
    exact tells

theorem isBreak_opening {polls : List KeyPoll} {fault : SessionFault}
    (broken : (opening settings around polls).fault = some fault) : fault.IsBreak := by
  rcases opening_cases settings around polls with ⟨-, begins⟩ | ⟨-, cause, unencodable⟩
  · rw [begins] at broken
    cases broken
  · obtain rfl : SessionFault.unencodable cause = fault :=
      Option.some.inj (unencodable.symm.trans broken)
    exact .unencodable cause

/-- The code of the key that asks to quit, as a terminal delivers it. -/
def quitInput : KeyInput := .text "\x03"

theorem isInterrupt_quitKey : quitKey.isInterrupt = true := by decide

theorem ofInput_quitInput : KeyPoll.ofInput (some quitInput) = .event quitKey := by decide

theorem opening_polls (settings : RunSettings) (around : Surroundings) (polls : List KeyPoll) :
    (opening settings around polls).polls = polls ++ [.event quitKey] := rfl

theorem ofKeys_of_fault {inputs : List (Option KeyInput)} {fault : SessionFault}
    (broken : (opening settings around (inputs.map KeyPoll.ofInput)).fault = some fault) :
    ofKeys settings around inputs = opening settings around (inputs.map KeyPoll.ofInput) := by
  rw [ofKeys, broken]
  rfl

/-- A run that begins makes a pass, of at most two turns for each key before one that asks to quit,
and two more. -/
theorem exists_ofKeys_eq {inputs : List (Option KeyInput)}
    (begins : (opening settings around (inputs.map KeyPoll.ofInput)).fault = none)
    (interrupts : event.isInterrupt = true) {after : List KeyPoll}
    (waits : inputs.map KeyPoll.ofInput ++ [.event quitKey] = before ++ .event event :: after) :
    ∃ blocks final, ofKeys settings around inputs = final.finish ∧
      Passes blocks (opening settings around (inputs.map KeyPoll.ofInput))
        (ofKeys settings around inputs).fault final ∧
      blocks.length ≤ 2 * (before.length + 1) := by
  have opened : (opening settings around (inputs.map KeyPoll.ofInput)).polls =
      before ++ .event event :: after := waits
  obtain ⟨blocks, fault, final, passes, few⟩ := exists_passes interrupts opened
  have bounded : blocks.length ≤ 2 * (before.length + 1) := by
    rw [turnBound] at few
    split at few <;> omega
  have enough : blocks.length ≤ 2 * ((inputs.map KeyPoll.ofInput).length + 1) := by
    have sameLength := congrArg List.length waits
    simp only [List.length_append, List.length_cons, List.length_nil] at sameLength
    omega
  have made : ofKeys settings around inputs = final.finish := by
    rw [ofKeys, begins, passes.turns_eq enough]
    rfl
  have ended : (ofKeys settings around inputs).fault = fault := by
    rw [made]
    exact passes.fault_eq begins
  rw [ended]
  exact ⟨blocks, final, made, passes, bounded⟩

/-- If the log of a run could be opened, its last row, and no other one, tells of quitting; if the
run was broken off, no row does. -/
theorem told_ofKeys {inputs : List (Option KeyInput)} (writes : settings.writesLog = true)
    (canOpen : around.logFile.canOpen = true) (notBroken : around.logFile.isBroken = false) :
    ∃ entries, (∀ entry ∈ entries, entry.1 ≠ "quit") ∧
      (ofKeys settings around inputs).session.log.bind Log.entries? =
        some (if (ofKeys settings around inputs).fault = none then entries ++ [("quit", "")]
          else entries) := by
  have tells := tellsQuit_opening writes canOpen notBroken (inputs.map KeyPoll.ofInput)
  cases begins : (opening settings around (inputs.map KeyPoll.ofInput)).fault with
  | some fault =>
      obtain ⟨entries, others, log, hasLog, keeps⟩ := tells
      refine ⟨entries, others, ?_⟩
      rw [ofKeys_of_fault begins, begins, hasLog]
      exact keeps.told
  | none =>
      obtain ⟨blocks, final, made, passes, -⟩ :=
        exists_ofKeys_eq begins isInterrupt_quitKey (Eq.refl _)
      obtain ⟨entries, others, log, hasLog, keeps⟩ := passes.tellsQuit tells
      refine ⟨entries, others, ?_⟩
      have closed : (ofKeys settings around inputs).session.log = some log.closeFile := by
        rw [made, finish, hasLog]
        rfl
      rw [closed]
      cases ended : (ofKeys settings around inputs).fault with
      | none =>
          rw [ended] at keeps
          exact keeps.told
      | some fault =>
          rw [ended] at keeps
          exact keeps.told

/-- A run reads keys until one asks to quit, which is the last one that it reads, unless it is
broken off. -/
theorem exists_interrupt_ofKeys {inputs : List (Option KeyInput)}
    (unbroken : (ofKeys settings around inputs).fault = none) :
    ∃ before event, inputs.map KeyPoll.ofInput ++ [.event quitKey] =
        before ++ .event event :: (ofKeys settings around inputs).polls ∧
      event.isInterrupt = true := by
  have begins : (opening settings around (inputs.map KeyPoll.ofInput)).fault = none := by
    cases broken : (opening settings around (inputs.map KeyPoll.ofInput)).fault with
    | none => rfl
    | some fault =>
        rw [ofKeys_of_fault broken, broken] at unbroken
        cases unbroken
  obtain ⟨blocks, final, made, passes, -⟩ :=
    exists_ofKeys_eq begins isInterrupt_quitKey (Eq.refl _)
  rw [unbroken] at passes
  obtain ⟨before, event, ended, interrupts⟩ := passes.exists_interrupt
  refine ⟨before, event, ?_, interrupts⟩
  rw [made, ← opening_polls settings around, passes.polls_eq, ended, List.append_assoc]
  rfl

/-! ## A text that breaks a run off -/

/-- What the log of a session can encode does not depend on what its clock shows. -/
theorem encodes_of_timeless {session other : Session} (encodes : session.Encodes)
    (same : other.timeless = session.timeless) : other.Encodes := by
  intro kept member text
  have stopped : other.timeless.log = some { kept with clock := Clock.still 0 } := by
    rw [Session.timeless, Option.mem_def.1 member]
    rfl
  rw [same] at stopped
  obtain ⟨log, hasLog, sameLog⟩ := Option.map_eq_some_iff.1 stopped
  obtain ⟨-, -, sameFile, -⟩ := Log.mk.inj sameLog
  rw [← sameFile]
  exact encodes log hasLog text

theorem handleKeys_of_editing {session : Session} (edits : session.isRunning = false)
    (polls : List KeyPoll) : session.handleKeys polls = (true, session, polls) := by
  cases polls with
  | nil => rfl
  | cons poll rest => simp [Session.handleKeys, edits]

/-- The escape key ends a frame of a built-in script, whose text is edited then. -/
theorem exists_work_of_escape {script : Script} {start : Float} {source : String}
    {escape : KeyEvent} {typed : List KeyPoll} (member : source ∈ patterns)
    (compiled : Script.compile source = .ok script)
    (runs : run.session.mode = .running script start source) (escapes : escape.key = .escape)
    (waits : run.polls = .event escape :: typed) (encodes : run.session.Encodes) :
    ∃ next, run.work = (true, next) ∧ next.polls = typed ∧
      next.session.mode = .editing source none ∧ next.session.Encodes := by
  obtain ⟨canvas, random, drawn⟩ := Script.exists_evaluateFrame_pattern member compiled
    run.session.canvas (run.session.clock.read.1 - start) run.hear.microphone.volume
    run.session.random
  obtain ⟨ticked, ticks, stillRuns⟩ : ∃ ticked,
      run.session.tryTick run.hear.microphone.volume = (.ok (), ticked) ∧
        ticked.mode = .running script start source := by
    rw [Session.tryTick, runs]
    dsimp only
    rw [drawn]
    exact ⟨_, rfl, rfl⟩
  have tickedEncodes : ticked.Encodes := by
    have performed := encodes.perform (.tick run.hear.microphone.volume)
    rwa [Session.perform, Session.tick, ticks] at performed
  have shows : (run.shown ticked).session.timeless = ticked.timeless :=
    timeless_refresh.trans (timeless_statusLine ticked run.hear.microphone.volume)
  have shownRuns : (run.shown ticked).session.mode = .running script start source :=
    (Session.mode_of_timeless shows).trans stillRuns
  have shownEncodes := encodes_of_timeless tickedEncodes shows
  have handled : (run.shown ticked).session.handleKeys (.event escape :: typed) =
      (true, { (run.shown ticked).session with mode := .editing source none }.note "edit" "",
        typed) := by
    rw [Session.handleKeys, if_pos (Session.isRunning_of_running shownRuns)]
    dsimp only
    rw [Session.handleKey_of_escape shownRuns escapes]
    exact handleKeys_of_editing (Session.isRunning_of_editing Session.note_mode) typed
  have worked : run.work = run.frame := by rw [work, runs]
  rw [worked, frame_eq, ticks]
  dsimp only
  rw [waits, handled]
  refine ⟨_, rfl, rfl, Session.note_mode, ?_⟩
  have performed := shownEncodes.perform (.key escape)
  rwa [Session.perform, Session.handleKey_of_escape shownRuns escapes] at performed

/-- A text whose compilation breaks off ends the work at an edit. -/
theorem exists_work_of_reserved {source text : String} {error : Option String}
    {target : Script.ReservedTarget} (edits : run.session.mode = .editing source error)
    (encodes : run.session.Encodes)
    (submits : (editLine (LineEditor.ofText source) run.polls).outcome = some .submit)
    (typed : (editLine (LineEditor.ofText source) run.polls).editor.text = text)
    (breaksOff : Script.compile text = .error (.reserved target)) :
    ∃ next, run.work = (false, next) ∧ next.fault = some (.reserved target) := by
  have waited : (run.closed source error).session.timeless = run.session.timeless :=
    timeless_redraws
  have closedEdits := (Session.mode_of_timeless waited).trans edits
  have told := (encodes_of_timeless encodes waited).tryNote_fst "commit" text
  have finished := Session.finishEdit_of_reserved closedEdits told breaksOff
  rw [← typed] at finished
  have worked : run.work = run.edit source error := by rw [work, edits]
  rw [worked, edit_of_finishEdit submits finished]
  exact ⟨_, rfl, rfl⟩

/-- A turn whose work goes on leaves the polls and, apart from time, the session of its work. -/
theorem exists_turn_of_work (worked : run.work = (true, next)) :
    ∃ later, run.turn = (true, later) ∧ later.polls = next.polls ∧
      later.session.timeless = next.session.timeless := by
  obtain ⟨later, turned, rfl | ⟨-, delay, rfl⟩⟩ := turn_of_work worked
  · exact ⟨later, turned, rfl, rfl⟩
  · exact ⟨_, turned, rfl, timeless_pass⟩

theorem turn_of_work_eq_false (worked : run.work = (false, next)) : run.turn = (false, next) := by
  obtain ⟨later, turned, rfl | ⟨goesOn, -⟩⟩ := turn_of_work worked
  · exact turned
  · cases goesOn

/-- The session of a run that begins runs the first built-in script. -/
theorem exists_opening_mode {polls : List KeyPoll}
    (begins : (opening settings around polls).fault = none) :
    ∃ script start, Script.compile firstPattern = .ok script ∧
      (opening settings around polls).session.mode = .running script start firstPattern := by
  rcases opening_cases settings around polls with ⟨started, -⟩ | ⟨-, cause, broken⟩
  · obtain ⟨script, compiled, isStart⟩ := Session.exists_start_eq (Clock.still around.now)
      (some (prepare settings around).2.1) around.random
    exact ⟨script, _, compiled, by rw [started, isStart, Session.note_mode]⟩
  · rw [broken] at begins
    cases begins

theorem encodes_opening
    (represents : ∀ text, (prepare settings around).2.1.file.encoding.Represents text)
    (polls : List KeyPoll) : (opening settings around polls).session.Encodes := by
  have encodes : ∀ kept ∈ some (prepare settings around).2.1,
      ∀ text, kept.file.encoding.Represents text := by
    rintro _ ⟨rfl⟩
    exact represents
  rcases opening_cases settings around polls with ⟨started, -⟩ | ⟨idles, -⟩
  · rw [started]
    exact Session.encodes_start encodes
  · rw [idles]
    exact encodes

/-- Typing a text whose compilation breaks off, after the escape key, breaks a run off. -/
theorem fault_ofKeys_of_reserved {inputs : List (Option KeyInput)} {escape : KeyEvent}
    {typed : List KeyPoll} {text : String} {target : Script.ReservedTarget}
    (begins : (opening settings around (inputs.map KeyPoll.ofInput)).fault = none)
    (represents : ∀ text, (prepare settings around).2.1.file.encoding.Represents text)
    (escapes : escape.key = .escape)
    (keys : inputs.map KeyPoll.ofInput ++ [.event quitKey] = .event escape :: typed)
    (submits : (editLine (LineEditor.ofText firstPattern) typed).outcome = some .submit)
    (types : (editLine (LineEditor.ofText firstPattern) typed).editor.text = text)
    (breaksOff : Script.compile text = .error (.reserved target)) :
    (ofKeys settings around inputs).fault = some (.reserved target) := by
  let opened := opening settings around (inputs.map KeyPoll.ofInput)
  obtain ⟨script, start, compiled, runs⟩ := exists_opening_mode begins
  have encodes : opened.session.Encodes := encodes_opening represents _
  have waits : opened.polls = .event escape :: typed := keys
  have isFirst : firstPattern ∈ patterns := List.mem_cons_self
  -- The first turn reads the escape key, the second one the text.
  obtain ⟨framed, worked, unread, edits, stillEncodes⟩ :=
    exists_work_of_escape isFirst compiled runs escapes waits encodes
  obtain ⟨paused, turned, samePolls, sameSession⟩ := exists_turn_of_work worked
  rw [← unread, ← samePolls] at submits types
  obtain ⟨final, broken, isFault⟩ := exists_work_of_reserved
    ((Session.mode_of_timeless sameSession).trans edits)
    (encodes_of_timeless stillEncodes sameSession) submits types breaksOff
  have made (fuel : Nat) : turns (fuel + 2) opened = final := by
    rw [turns, turned]
    dsimp only
    rw [turns, turn_of_work_eq_false broken]
  rw [ofKeys, begins]
  exact (congrArg Run.fault (congrArg finish (made _))).trans isFault

/-! ## All runs -/

/-- Keys that ask to quit, and the one after all keys, are alike. -/
theorem quitPolls_eq (inputs : List (Option KeyInput)) (count : Nat) :
    (inputs ++ List.replicate count (some quitInput)).map KeyPoll.ofInput ++ [.event quitKey] =
      inputs.map KeyPoll.ofInput ++ .event quitKey :: List.replicate count (.event quitKey) := by
  rw [List.map_append, List.map_replicate, ofInput_quitInput, List.append_assoc,
    ← List.replicate_succ', List.replicate_succ]

/-- A run of some keys and then of keys that ask to quit, however many there are, ends. Either a
turn ends it in which a key asks to quit, or it is broken off, by a row that the log cannot encode or
by a text whose compilation breaks off.

A run that begins makes at most two turns for each of the first keys, and two more. Each turn reads
its own polls, one after the other from the first one on, and while a script runs the session
handles them, while a text is edited the line. If the log could be opened, its last row, and no
other one, tells of quitting; if the run is broken off, none does. -/
theorem exists_passes_ofKeys (settings : RunSettings) (around : Surroundings)
    (inputs : List (Option KeyInput)) (count : Nat) :
    let keys := inputs ++ List.replicate count (some quitInput)
    let polls := keys.map KeyPoll.ofInput
    let opened := opening settings around polls
    let run := ofKeys settings around keys
    (∀ fault, run.fault = some fault → fault.IsBreak) ∧
    (opened.fault ≠ none → run = opened) ∧
    (opened.fault = none → ∃ blocks final,
      Passes blocks opened run.fault final ∧ run = final.finish ∧
      blocks.length ≤ 2 * (inputs.length + 1) ∧
      polls ++ [.event quitKey] = blocks.flatten ++ run.polls ∧
      (run.fault = none → ∃ before event,
        blocks.flatten = before ++ [.event event] ∧ event.isInterrupt = true)) ∧
    (settings.writesLog = true → around.logFile.canOpen = true → around.logFile.isBroken = false →
      ∃ entries, (∀ entry ∈ entries, entry.1 ≠ "quit") ∧
        run.session.log.bind Log.entries? =
          some (if run.fault = none then entries ++ [("quit", "")] else entries)) := by
  intro keys polls opened run
  refine ⟨fun fault broken => ?_, fun broken => ?_, fun begins => ?_, told_ofKeys⟩
  · cases begins : opened.fault with
    | some cause =>
        have same : run = opened := ofKeys_of_fault begins
        rw [same] at broken
        exact isBreak_opening broken
    | none =>
        obtain ⟨blocks, final, -, passes, -⟩ :=
          exists_ofKeys_eq begins isInterrupt_quitKey (Eq.refl _)
        have sameFault : (ofKeys settings around keys).fault = some fault := broken
        rw [sameFault] at passes
        exact passes.isBreak
  · obtain ⟨fault, isFault⟩ := Option.ne_none_iff_exists'.1 broken
    exact ofKeys_of_fault isFault
  · obtain ⟨blocks, final, made, passes, few⟩ :=
      exists_ofKeys_eq begins isInterrupt_quitKey (quitPolls_eq inputs count)
    rw [List.length_map] at few
    have unread : run.polls = final.polls := (congrArg Run.polls made).trans rfl
    refine ⟨blocks, final, passes, made, few, ?_, fun quits => ?_⟩
    · rw [unread]
      exact passes.polls_eq
    · have noFault : (ofKeys settings around keys).fault = none := quits
      rw [noFault] at passes
      exact passes.exists_interrupt

/-- A run in which such a text is typed ends before any key asks to quit, and its log, which was
opened, tells of no quitting. -/
theorem not_quits_of_reserved :
    let around : Surroundings :=
      { size := { rows := 24, columns := 80 }, random := ⟨fun _ => 0.5, 0⟩ }
    let inputs : List (Option KeyInput) :=
      "\x1b\x15Fªlse=1;x\n".toList.map fun character => some (.text character.toString)
    let run := ofKeys { usesMicrophone := false } around inputs
    run.fault = some (.reserved ⟨"False"⟩) ∧
      ¬ ∃ entries, run.session.log.bind Log.entries? = some (entries ++ [("quit", "")]) := by
  intro around inputs run
  let typed : List KeyPoll :=
    .event ⟨.backspace, "", false, true⟩ ::
      "Fªlse=1;x".toList.map (fun character => .event ⟨.char, character.toString, false, false⟩) ++
      [.event ⟨.enter, "", false, false⟩, .event quitKey]
  have keys : inputs.map KeyPoll.ofInput ++ [.event quitKey] =
      .event ⟨.escape, "", false, false⟩ :: typed := by decide +kernel
  have represents (text : String) :
      (prepare { usesMicrophone := false } around).2.1.file.encoding.Represents text := by
    have opened : (prepare { usesMicrophone := false } around).2.1 =
        (Log.new (Clock.still around.now) around.logFile).openFile := rfl
    rw [opened, Log.openFile_encoding]
    exact Encoding.unicode_represents text
  have broken : run.fault = some (.reserved ⟨"False"⟩) :=
    fault_ofKeys_of_reserved rfl represents rfl keys (by decide +kernel) (by decide +kernel)
      Script.compile_reserved_false
  refine ⟨broken, ?_⟩
  rintro ⟨entries, told⟩
  obtain ⟨others, notQuit, same⟩ :=
    @told_ofKeys { usesMicrophone := false } around inputs rfl rfl rfl
  have isBroken : (ofKeys { usesMicrophone := false } around inputs).fault ≠ none :=
    fun unbroken => Option.some_ne_none _ (broken.symm.trans unbroken)
  rw [if_neg isBroken] at same
  have sameEntries := Option.some.inj (told.symm.trans same)
  exact notQuit ("quit", "") (sameEntries ▸ List.mem_append_right _ List.mem_cons_self) rfl

end Run

end LiveGrid
