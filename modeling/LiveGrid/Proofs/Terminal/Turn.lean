import LiveGrid.Proofs.Session.Quit
import LiveGrid.Proofs.Terminal.Keys
import LiveGrid.Terminal.Run

/-!
Contract: what one turn of a run reads, who reads it, and how the turn ends.

Owns:
- turns that read a first part of the polls: the session reads it in a frame, the line in an edit;
- a turn is such a turn as long as some key that asks to quit waits;
- a turn that reads nothing is broken off, or is a frame that fails and is followed by an edit;
- a turn that goes on has read no key that asks to quit, and its log tells of none;
- a turn that quits has read such a key last, and one that is broken off tells of no quitting;
- what breaks a turn off.

Drawing and pausing only let time pass.

Does not own: how many turns a run makes.
-/

namespace LiveGrid

/-- The keys of a running script leave a log that tells of quitting exactly if one asks to quit. -/
theorem Session.HandlesKeys.tellsQuit {session after : Session} {used : List KeyPoll}
    {goesOn : Bool} (handles : session.HandlesKeys used goesOn after)
    (tells : session.TellsQuit true) : after.TellsQuit goesOn := by
  induction handles with
  | stopped edited => exact tells
  | idle runs => exact tells
  | quits runs handled => exact tells.handleKey handled
  | event runs handled handlesRest inductionHypothesis =>
      exact inductionHypothesis (tells.handleKey handled)
  | ignored runs handlesRest inductionHypothesis => exact inductionHypothesis tells

/-- Causes that break off a call of a session that is made in time: a row that its log cannot
encode, and a text whose compilation breaks off. -/
inductive SessionFault.IsBreak : SessionFault → Prop where
  | unencodable (cause : EncodingFault) : IsBreak (.unencodable cause)
  | reserved {source : String} {target : Script.ReservedTarget}
      (breaksOff : Script.compile source = .error (.reserved target)) :
      IsBreak (.reserved target)

namespace Session

variable {session after : Session} {fault : SessionFault} {text : String} {outcome : EditOutcome}

theorem isBreak_of_tryNote {event detail : String}
    (untold : (session.tryNote event detail).1 = .error fault) : fault.IsBreak := by
  obtain ⟨cause, rfl⟩ := eq_unencodable_of_tryNote untold
  exact .unencodable cause

theorem Ticks.isBreak {loudness : Float} (ticks : session.Ticks loudness (.error fault) after) :
    fault.IsBreak := by
  generalize broken : (.error fault : Except SessionFault Unit) = result at ticks
  cases ticks with
  | idle edits => cases broken
  | frame runs drawn => cases broken
  | fails runs failure => exact isBreak_of_tryNote broken.symm

theorem Loads.isBreak {source : String} (loads : session.Loads source (.error fault) after) :
    fault.IsBreak := by
  cases loads with
  | reserved breaksOff => exact .reserved breaksOff
  | untold refused untold => exact isBreak_of_tryNote untold

theorem Replaces.isBreak {event source : String}
    (replaces : session.Replaces event source (.error fault) after) : fault.IsBreak := by
  cases replaces with
  | untold untold => exact isBreak_of_tryNote untold
  | told told loads => exact loads.isBreak

theorem Finishes.isBreak (finishes : session.Finishes text outcome (.error fault) after)
    (edits : session.isRunning = false) (isEnd : outcome ≠ .proceed) : fault.IsBreak := by
  generalize broken : (.error fault : Except SessionFault Bool) = result at finishes
  cases finishes with
  | notEditing runs =>
      rw [edits] at runs
      cases runs
  | unfinished => exact absurd rfl isEnd
  | quits | submits => cases broken
  | submitFails edits replaces =>
      cases broken
      exact replaces.isBreak
  | @discards source error result after edits replaces =>
      cases result with
      | ok => cases broken
      | error cause =>
          cases broken
          exact replaces.isBreak

/-- Only an edit that quits ends a session. -/
theorem Finishes.eq_quit (finishes : session.Finishes text outcome (.ok false) after) :
    outcome = .quit := by
  generalize isEnd : (.ok false : Except SessionFault Bool) = result at finishes
  cases finishes with
  | notEditing | unfinished | submits | submitFails => cases isEnd
  | quits edits => rfl
  | @discards source error result after edits replaces => cases result <;> cases isEnd

end Session

namespace Run

variable {run next : Run} {used : List KeyPoll} {goesOn : Bool} {result : Except SessionFault Bool}

/-- The fault of a run after a turn, which keeps the one before unless it is broken off. -/
def faultAfter (run : Run) : Except SessionFault Bool → Option SessionFault
  | .ok _ => run.fault
  | .error fault => some fault

/-- Who reads polls in a turn, apart from the time that passes, and how the turn ends: after its
tick the session, while a script runs, or the line of an edit, whose end the session is told. A tick
that is broken off ends the turn at once. -/
inductive Takes (run : Run) (used : List KeyPoll) : Except SessionFault Bool → Run → Prop where
  | frame {next : Run} {goesOn : Bool} {ticked shown after : Session}
      (runs : run.session.isRunning = true)
      (ticks : run.session.tryTick run.hear.microphone.volume = (.ok (), ticked))
      (shows : shown.timeless = ticked.timeless)
      (handles : shown.HandlesKeys used goesOn after)
      (leaves : next.session.timeless = after.timeless) : Takes run used (.ok goesOn) next
  | untold {next : Run} {fault : SessionFault} (runs : run.session.isRunning = true)
      (nothing : used = [])
      (ticks : run.session.tryTick run.hear.microphone.volume = (.error fault, next.session)) :
      Takes run used (.error fault) next
  | edit {next : Run} {result : Except SessionFault Bool} {source : String}
      {error : Option String} {outcome : EditOutcome} {final : LineEditor}
      {waited after : Session} (edits : run.session.mode = .editing source error)
      (ends : (LineEditor.ofText source).EndsEdit used outcome final)
      (waits : waited.timeless = run.session.timeless)
      (finishes : waited.Finishes final.text outcome result after)
      (leaves : next.session.timeless = after.timeless) : Takes run used result next

/-- A turn of a run, with the polls that it reads and how it ends. -/
structure Turns (run : Run) (used : List KeyPoll) (result : Except SessionFault Bool)
    (next : Run) : Prop where
  made : run.turn = (result.toOption.getD false, next)
  fault : next.fault = run.faultAfter result
  reads : run.polls = used ++ next.polls
  takes : run.Takes used result next

/-! ## Time -/

theorem timeless_pass {seconds : Float} :
    (run.pass seconds).session.timeless = run.session.timeless := by
  simp only [pass, Session.timeless, Option.map_map]
  rfl

theorem timeless_refresh : run.refresh.session.timeless = run.session.timeless := timeless_pass

theorem timeless_redraws {error : Option String} {editors : List LineEditor} :
    (editors.foldl (redraw error) run).session.timeless = run.session.timeless := by
  induction editors generalizing run with
  | nil => rfl
  | cons editor rest inductionHypothesis =>
      rw [List.foldl_cons, inductionHypothesis]
      exact timeless_refresh

theorem timeless_statusLine (session : Session) (loudness : Float) :
    (session.statusLine loudness).2.timeless = session.timeless := by
  obtain ⟨clock, log, random, frame, canvas, mode⟩ := session
  cases mode <;> rfl

/-! ## Frames and edits -/

/-- A run whose session was told of the end of its edit. -/
def ended (run : Run) (result : Except SessionFault Bool) (after : Session) : Run :=
  { run with session := after, fault := run.faultAfter result }

theorem conclude_eq (result : Except SessionFault Bool) (after : Session) :
    run.conclude (result, after) = (result.toOption.getD false, run.ended result after) := by
  cases result <;> rfl

theorem edit_of_finishEdit {source : String} {error : Option String} {outcome : EditOutcome}
    (edited : (editLine (LineEditor.ofText source) run.polls).outcome = some outcome)
    {after : Session}
    (finished : (run.closed source error).session.finishEdit outcome
      (editLine (LineEditor.ofText source) run.polls).editor.text = (result, after)) :
    run.edit source error =
      (result.toOption.getD false, (run.closed source error).ended result after) := by
  rw [edit, edited]
  dsimp only
  rw [finished, conclude_eq]

theorem fault_redraws {error : Option String} {editors : List LineEditor} :
    (editors.foldl (redraw error) run).fault = run.fault := by
  induction editors generalizing run with
  | nil => rfl
  | cons editor rest inductionHypothesis =>
      rw [List.foldl_cons, inductionHypothesis]
      rfl

/-- A part of a turn that was made, with the polls that it reads and how it ends. -/
structure Makes (run : Run) (made : Bool × Run) (used : List KeyPoll)
    (result : Except SessionFault Bool) (next : Run) : Prop where
  ended : made = (result.toOption.getD false, next)
  fault : next.fault = run.faultAfter result
  reads : run.polls = used ++ next.polls
  takes : run.Takes used result next

/-- A frame after its tick, as it is shown. -/
def shown (run : Run) (ticked : Session) : Run :=
  let heard := run.hear
  let (status, session) := ticked.statusLine heard.microphone.volume
  ({ heard with session := session }.drawCanvas status).refresh

theorem frame_eq (run : Run) :
    run.frame =
      match run.session.tryTick run.hear.microphone.volume with
      | (.error fault, session) => (false, run.hear.breakOff session fault)
      | (.ok (), session) =>
          (((run.shown session).session.handleKeys run.polls).1,
            { run.shown session with
              session := ((run.shown session).session.handleKeys run.polls).2.1
              polls := ((run.shown session).session.handleKeys run.polls).2.2 }) := rfl

section Waits

variable {event : KeyEvent} (interrupts : event.isInterrupt = true)
  (waits : .event event ∈ run.polls)

include interrupts waits

theorem exists_makes_frame (runs : run.session.isRunning = true) :
    ∃ used result next, run.Makes run.frame used result next := by
  rw [frame_eq]
  rcases ticks : run.session.tryTick run.hear.microphone.volume with ⟨fault | ⟨⟩, ticked⟩
  · exact ⟨[], .error fault, _, rfl, rfl, rfl, .untold runs rfl ticks⟩
  · have shows : (run.shown ticked).session.timeless = ticked.timeless :=
      timeless_refresh.trans (timeless_statusLine ticked run.hear.microphone.volume)
    dsimp only
    rcases handled : (run.shown ticked).session.handleKeys run.polls with ⟨goesOn, after, unread⟩
    obtain ⟨used, split, handles⟩ := Session.handlesKeys_of_handleKeys interrupts waits handled
    exact ⟨used, .ok goesOn, _, rfl, rfl, split, .frame runs ticks shows handles rfl⟩

theorem exists_makes_edit {source : String} {error : Option String}
    (edits : run.session.mode = .editing source error) :
    ∃ used result next, run.Makes (run.edit source error) used result next := by
  obtain ⟨used, outcome, edited, split, ends⟩ :=
    (LineEditor.ofText source).endsEdit_editLine interrupts waits
  have waited : (run.closed source error).session.timeless = run.session.timeless :=
    timeless_redraws
  have sameFault : (run.closed source error).fault = run.fault := fault_redraws
  rcases finished : (run.closed source error).session.finishEdit outcome
    (editLine (LineEditor.ofText source) run.polls).editor.text with ⟨result, after⟩
  refine ⟨used, result, _, edit_of_finishEdit edited finished, ?_, split,
    .edit edits ends waited (Session.finishes_of_finishEdit finished) rfl⟩
  cases result with
  | ok goesOn => exact sameFault
  | error fault => rfl

end Waits

/-! ## Turns -/

/-- A frame or an edit, without the pause after it. -/
def work (run : Run) : Bool × Run :=
  match run.session.mode with
  | .running _ _ _ => run.frame
  | .editing source error => run.edit source error

theorem exists_makes_work {event : KeyEvent} (interrupts : event.isInterrupt = true)
    (waits : .event event ∈ run.polls) :
    ∃ used result next, run.Makes run.work used result next := by
  unfold work
  cases mode : run.session.mode with
  | running script start source =>
      exact exists_makes_frame interrupts waits (Session.isRunning_of_running mode)
  | editing source error => exact exists_makes_edit interrupts waits mode

/-- A turn is its work, and time that passes if it goes on. -/
theorem turn_of_work (worked : run.work = (goesOn, next)) :
    ∃ later, run.turn = (goesOn, later) ∧
      (later = next ∨ goesOn = true ∧ ∃ delay, later = (next.tell (.sleep delay)).pass delay) := by
  have turned : run.turn =
      if run.work.1 then
        let delay := run.budget - (run.work.2.now - run.now)
        if delay > 0 then (true, (run.work.2.tell (.sleep delay)).pass delay)
        else (true, run.work.2)
      else (false, run.work.2) := rfl
  rw [turned, worked]
  cases goesOn with
  | false => exact ⟨next, rfl, .inl rfl⟩
  | true =>
      rw [if_pos rfl]
      dsimp only
      split
      · exact ⟨_, rfl, .inr ⟨rfl, _, rfl⟩⟩
      · exact ⟨next, rfl, .inl rfl⟩

/-- Time that passes after a turn that goes on changes nothing of what the turn takes. -/
theorem Takes.pass {delay : Float} (takes : run.Takes used (.ok true) next) :
    run.Takes used (.ok true) ((next.tell (.sleep delay)).pass delay) := by
  cases takes with
  | frame runs ticks shows handles leaves =>
      exact .frame runs ticks shows handles (timeless_pass.trans leaves)
  | edit edits ends waits finishes leaves =>
      exact .edit edits ends waits finishes (timeless_pass.trans leaves)

/-- As long as a key that asks to quit waits, a turn reads a first part of the polls. -/
theorem exists_turns {event : KeyEvent} (interrupts : event.isInterrupt = true)
    (waits : .event event ∈ run.polls) : ∃ used result next, run.Turns used result next := by
  obtain ⟨used, result, next, worked, fault, split, takes⟩ := exists_makes_work interrupts waits
  obtain ⟨later, turned, rfl | ⟨goesOn, delay, rfl⟩⟩ := turn_of_work worked
  · exact ⟨used, result, later, turned, fault, split, takes⟩
  · obtain rfl : result = .ok true := by
      rcases result with fault | goes
      · cases goesOn
      · exact congrArg _ goesOn
    exact ⟨used, .ok true, _, turned, fault, split, takes.pass⟩

namespace Turns

variable {event : KeyEvent} {fault : SessionFault}

/-- A turn that goes on has read no key that asks to quit. -/
theorem not_mem_of_goesOn (turns : run.Turns used (.ok true) next)
    (interrupts : event.isInterrupt = true) : .event event ∉ used := by
  cases turns.takes with
  | frame runs ticks shows handles leaves => exact handles.not_mem_of_goesOn interrupts
  | edit edits ends waits finishes leaves =>
      refine ends.not_mem_of_ne_quit ?_ interrupts
      rintro rfl
      cases finishes

/-- A turn that quits ends with a key that asks for it. -/
theorem exists_interrupt (turns : run.Turns used (.ok false) next) :
    ∃ before event, used = before ++ [.event event] ∧ event.isInterrupt = true := by
  cases turns.takes with
  | frame runs ticks shows handles leaves => exact handles.exists_interrupt
  | @edit next result source error outcome final waited after edits ends waits finishes leaves =>
      obtain rfl : outcome = .quit := finishes.eq_quit
      exact ends.exists_interrupt

/-- A turn is broken off only by a row that the log cannot encode or by a text. -/
theorem isBreak (turns : run.Turns used (.error fault) next) : fault.IsBreak := by
  cases turns.takes with
  | untold runs nothing ticks =>
      have broken := run.session.ticks_tick run.hear.microphone.volume
      rw [ticks] at broken
      exact broken.isBreak
  | edit edits ends waits finishes leaves =>
      have stillEdits := (Session.mode_of_timeless waits).trans edits
      exact finishes.isBreak (Session.isRunning_of_editing stillEdits) ends.ne_proceed

/-- A turn that goes on and reads nothing is a frame that fails, and an edit follows. -/
theorem isRunning_of_nil (turns : run.Turns [] (.ok true) next) :
    run.session.isRunning = true ∧ next.session.isRunning = false := by
  cases turns.takes with
  | frame runs ticks shows handles leaves =>
      obtain ⟨stopped, goesOn, rfl⟩ := handles.isRunning_eq_false
      refine ⟨runs, ?_⟩
      rw [Session.isRunning, Session.mode_of_timeless leaves]
      exact stopped
  | edit edits ends waits finishes leaves => exact absurd rfl ends.ne_nil

/-- After a turn the log tells of quitting exactly if the turn quits. -/
theorem tellsQuit (turns : run.Turns used result next) (tells : run.session.TellsQuit true) :
    next.session.TellsQuit (result.toOption.getD true) := by
  have ticked := tells.tick run.hear.microphone.volume
  cases turns.takes with
  | frame runs ticks shows handles leaves =>
      rw [Session.tick, ticks] at ticked
      exact (handles.tellsQuit (ticked.of_timeless shows)).of_timeless leaves
  | untold runs nothing ticks =>
      rw [Session.tick, ticks] at ticked
      exact ticked
  | edit edits ends waits finishes leaves =>
      exact ((tells.of_timeless waits).finishes finishes).of_timeless leaves

end Turns

end Run

end LiveGrid
