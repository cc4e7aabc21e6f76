import LiveGrid.Proofs.Session.Log
import LiveGrid.Proofs.Session.Operation

/-!
Contract: what the log of a session tells about quitting.

Owns:
- sessions that are the same apart from what their clocks show;
- sessions whose log tells some events, and no quitting or quitting once and last;
- a tick, a key and the end of an edit tell of quitting exactly if they ask to quit.

Does not own: what other events a log tells.
-/

namespace LiveGrid

namespace Session

/-! ## Sessions apart from time -/

/-- A session with clocks, its own and that of its log, that stand still at zero. -/
def timeless (session : Session) : Session :=
  { session with
    clock := Clock.still 0
    log := session.log.map fun log => { log with clock := Clock.still 0 } }

variable {session other : Session}

theorem timeless_mode : session.timeless.mode = session.mode := rfl

theorem mode_of_timeless (same : session.timeless = other.timeless) :
    session.mode = other.mode := by
  rw [← timeless_mode, same, timeless_mode]

/-! ## Logs -/

/-- The log of a session is open, its file is whole and tells events. -/
def Keeps (session : Session) (entries : List (String × String)) : Prop :=
  ∃ log, session.log = some log ∧ log.Keeps entries

/-- The log of a session tells of no quitting, if it is to go on, and else of quitting once and
last. -/
def TellsQuit (session : Session) (goesOn : Bool) : Prop :=
  ∃ entries, (∀ entry ∈ entries, entry.1 ≠ "quit") ∧
    session.Keeps (if goesOn then entries else entries ++ [("quit", "")])

/-- What a log keeps does not depend on what its clock shows. -/
theorem keeps_timeless_iff {entries : List (String × String)} :
    session.timeless.Keeps entries ↔ session.Keeps entries := by
  constructor
  · rintro ⟨_, hasStopped, keeps⟩
    obtain ⟨log, hasLog, rfl⟩ := Option.map_eq_some_iff.1 hasStopped
    exact ⟨log, hasLog, keeps.isOpen, keeps.notBroken, keeps.told⟩
  · rintro ⟨log, hasLog, keeps⟩
    refine ⟨{ log with clock := Clock.still 0 }, ?_, keeps.isOpen, keeps.notBroken, keeps.told⟩
    rw [timeless, hasLog, Option.map_some]

namespace TellsQuit

variable {goesOn : Bool}

theorem of_timeless (tells : session.TellsQuit goesOn)
    (same : other.timeless = session.timeless) : other.TellsQuit goesOn := by
  obtain ⟨entries, others, keeps⟩ := tells
  refine ⟨entries, others, ?_⟩
  rw [← keeps_timeless_iff, same, keeps_timeless_iff]
  exact keeps

theorem of_log (tells : session.TellsQuit goesOn) (same : other.log = session.log) :
    other.TellsQuit goesOn := by
  obtain ⟨entries, others, log, hasLog, keeps⟩ := tells
  exact ⟨entries, others, log, same.trans hasLog, keeps⟩

/-- A row about something else is told, or refused. -/
theorem note (tells : session.TellsQuit true) (event detail : String) (other : event ≠ "quit") :
    (session.note event detail).TellsQuit true := by
  obtain ⟨entries, others, log, hasLog, keeps⟩ := tells
  have noted : (session.note event detail).log =
      some (log.write session.frame event detail) := by
    rw [note_eq, hasLog, Option.map_some]
  by_cases has : log.file.encoding.Represents event ∧ log.file.encoding.Represents detail
  · refine ⟨entries ++ [(event, detail)], ?_, _, noted, keeps.write _ has.1 has.2⟩
    rw [List.forall_mem_append, List.forall_mem_singleton]
    exact ⟨others, other⟩
  · exact ⟨entries, others, _, noted, keeps.write_of_not_represents _ has⟩

/-- The row about quitting is plain, and never refused. -/
theorem quit (tells : session.TellsQuit true) : (session.note "quit" "").TellsQuit false := by
  obtain ⟨entries, others, log, hasLog, keeps⟩ := tells
  refine ⟨entries, others, log.write session.frame "quit" "", ?_,
    keeps.write _ (Encoding.represents_of_isPlain (by decide))
      (Encoding.represents_of_isPlain (by decide))⟩
  rw [note_eq, hasLog, Option.map_some]

theorem loads (tells : session.TellsQuit true) {source : String}
    {result : Except SessionFault Unit} {after : Session}
    (loads : session.Loads source result after) : after.TellsQuit true := by
  have reads : session.afterReading.TellsQuit true := tells.of_log rfl
  cases loads with
  | runs compiled => exact tells.of_log rfl
  | reserved breaksOff => exact reads
  | edited refused told =>
      exact (reads.note "compile_error" _ (by decide)).of_log rfl
  | untold refused untold => exact reads.note "compile_error" _ (by decide)

theorem replaces (tells : session.TellsQuit true) {event source : String}
    {result : Except SessionFault Unit} {after : Session} (other : event ≠ "quit")
    (replaces : session.Replaces event source result after) : after.TellsQuit true := by
  cases replaces with
  | untold untold => exact tells.note event source other
  | told told loads => exact (tells.note event source other).loads loads

/-- The start of a session tells of no quitting. -/
theorem start {clock : Clock} {log : Option Log} {random : Script.RandomStream}
    (tells : (idle clock log random).TellsQuit true) :
    (Session.start clock log random).TellsQuit true := by
  rw [Session.start]
  exact (tells.loads (Session.loads_load _ firstPattern)).note "start" firstPattern (by decide)

theorem tick (tells : session.TellsQuit true) (loudness : Float) :
    (session.tick loudness).TellsQuit true := by
  have ticks := session.ticks_tick loudness
  generalize (session.tryTick loudness).1 = result, session.tick loudness = after at ticks
  cases ticks with
  | idle edits => exact tells
  | frame runs drawn => exact tells.of_log rfl
  | @fails script start source fault random runs failure =>
      have stopped : (session.failed source fault random).TellsQuit true := tells.of_log rfl
      exact stopped.note "eval_error" _ (by decide)

theorem loadPattern (tells : session.TellsQuit true) (digit : Nat) :
    (session.loadPattern digit).TellsQuit true := by
  unfold Session.loadPattern
  split
  · exact tells
  · exact ((tells.note "pattern" _ (by decide)).loads (Session.loads_load _ _)).of_log rfl

theorem handleKey (tells : session.TellsQuit true) {event : KeyEvent} {after : Session}
    (handled : session.handleKey event = (goesOn, after)) : after.TellsQuit goesOn := by
  unfold Session.handleKey at handled
  split at handled
  · cases handled
    exact tells
  · rename_i source _
    split at handled
    · cases handled
      exact tells.quit
    · split at handled
      · cases handled
        have stopped : { session with mode := .editing source none }.TellsQuit true :=
          tells.of_log rfl
        exact stopped.note "edit" "" (by decide)
      · split at handled
        · cases handled
          exact tells.loadPattern _
        · cases handled
          exact tells

/-- A call that is broken off tells of no quitting. -/
theorem finishes (tells : session.TellsQuit true) {outcome : EditOutcome} {text : String}
    {result : Except SessionFault Bool} {after : Session}
    (finishes : session.Finishes text outcome result after) :
    after.TellsQuit (result.toOption.getD true) := by
  cases finishes with
  | notEditing runs => exact tells
  | unfinished edits => exact tells
  | quits edits => exact tells.quit
  | submits edits replaces => exact (tells.replaces (by decide) replaces).of_log rfl
  | submitFails edits replaces => exact tells.replaces (by decide) replaces
  | @discards source error result after edits replaces =>
      have told := tells.replaces (by decide) replaces
      cases result <;> exact told

end TellsQuit

end Session

end LiveGrid
