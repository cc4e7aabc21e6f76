import LiveGrid.Benchmark.Run
import LiveGrid.Proofs.Grid.Frame
import LiveGrid.Proofs.Script.Floats
import LiveGrid.Proofs.Session.Provenance
import LiveGrid.Proofs.Session.Resume

/-!
Contract: the time that the frames of a benchmark are made for.

Owns:
- how many steps of its clock a session has seen, and after how many of them its script was started;
- a frame never fails, and takes two steps: one for its tick and one for its status line;
- so the times of two frames in a row are two steps apart, where the clock is said to move as in a
  run with thirty frames a second.

Does not own: what the stopwatch measures.
-/

namespace LiveGrid

namespace Clock

/-- The time after steps of a thirtieth of a second. -/
def afterSteps (count : Nat) : Float := timeAfter (fun _ => frameStep) count

/-- A clock that has made steps of a thirtieth of a second, one for each reading. -/
def stepped (steps : Nat) : Clock := { stepping frameStep with taken := steps }

theorem read_stepped (steps : Nat) :
    (stepped steps).read = (afterSteps (steps + 1), stepped (steps + 1)) := rfl

end Clock

namespace Session

variable {session : Session} {script : Script} {source : String} {started steps : Nat}
  {loudness : Float}

/-- The session runs a built-in script, which was started after some steps of its clock, and the
clock has made some steps by now. -/
structure Paced (session : Session) (script : Script) (started steps : Nat) : Prop where
  runs : ∃ source ∈ patterns, Script.compile source = .ok script ∧
    session.mode = .running script (Clock.afterSteps started) source
  clock : session.clock = Clock.stepped steps

theorem Paced.read (paced : session.Paced script started steps) :
    session.clock.read = (Clock.afterSteps (steps + 1), Clock.stepped (steps + 1)) := by
  rw [paced.clock, Clock.read_stepped]

theorem Paced.congr {other : Session} (paced : session.Paced script started steps)
    (sameMode : other.mode = session.mode) (sameClock : other.clock = session.clock) :
    other.Paced script started steps := by
  obtain ⟨runs, clock⟩ := paced
  exact ⟨sameMode ▸ runs, sameClock.trans clock⟩

/-- What a tick does: it takes one step and makes a frame for the time since the start. -/
theorem Paced.tick (paced : session.Paced script started steps) (loudness : Float) :
    (session.tick loudness).Paced script started (steps + 1) ∧
      session.tickEvents loudness =
        [.frame ⟨script, Clock.afterSteps (steps + 1) - Clock.afterSteps started, loudness,
          session.random⟩] := by
  obtain ⟨source, member, compiled, runs⟩ := paced.runs
  obtain ⟨next, after, success⟩ := Script.exists_evaluateFrame_pattern member compiled
    session.canvas (Clock.afterSteps (steps + 1) - Clock.afterSteps started) loudness session.random
  constructor
  · rw [Session.tick, Session.tryTick, runs]
    dsimp only
    rw [paced.read, success]
    exact ⟨⟨source, member, compiled, rfl⟩, rfl⟩
  · rw [tickEvents, runs]
    dsimp only
    rw [paced.read, FrameCall.draw, success]

/-- The status line takes one step. -/
theorem Paced.statusLine (paced : session.Paced script started steps) (loudness : Float) :
    (session.statusLine loudness).2.Paced script started (steps + 1) := by
  obtain ⟨source, member, compiled, runs⟩ := paced.runs
  have left : (session.statusLine loudness).2 =
      { session with clock := session.clock.read.2 } := by
    rw [Session.statusLine, elapsed, runs]
  rw [left, paced.read]
  exact ⟨⟨source, member, compiled, runs⟩, rfl⟩

/-- Loading a built-in script takes one step. -/
theorem exists_paced_load (hasClock : session.clock = Clock.stepped steps)
    (member : source ∈ patterns) :
    ∃ script, (session.load source).Paced script (steps + 1) (steps + 1) := by
  obtain ⟨script, compiled, -⟩ := Script.evaluate_pattern_ok member
  refine ⟨script, ?_⟩
  rw [load_of_ok compiled, afterReading, hasClock, Clock.read_stepped]
  exact ⟨⟨source, member, compiled, rfl⟩, rfl⟩

theorem Paced.note (paced : session.Paced script started steps) (event detail : String) :
    (session.note event detail).Paced script started steps :=
  paced.congr note_mode note_clock

theorem Paced.clearCanvas (paced : session.Paced script started steps) :
    session.clearCanvas.Paced script started steps :=
  paced.congr rfl rfl

/-- A key that is not escape loads a built-in script, which takes one step, or does nothing. -/
theorem Paced.exists_handleKey (paced : session.Paced script 1 1) {event : KeyEvent}
    (notEscape : event.key ≠ .escape) :
    ∃ script started, started ≤ 2 ∧ (session.handleKey event).2.Paced script started started := by
  obtain ⟨source, member, compiled, runs⟩ := paced.runs
  simp only [handleKey, runs, notEscape, ↓reduceIte]
  split
  · exact ⟨script, 1, by decide, paced.note "quit" ""⟩
  · split
    case h_1 digit isDigit =>
      unfold loadPattern
      split
      · exact ⟨script, 1, by decide, paced⟩
      · rename_i found
        obtain ⟨next, loaded⟩ := exists_paced_load (paced.note "pattern" _).clock
          (List.mem_of_getElem? found)
        exact ⟨next, 2, by decide, loaded.clearCanvas⟩
    case h_2 => exact ⟨script, 1, by decide, paced⟩

end Session

namespace Benchmark

variable {script : Script} {started steps : Nat} {loudness : Float}

theorem exists_paced_start (random : Script.RandomStream) :
    ∃ script, (Session.start (Clock.stepping Clock.frameStep) none random).Paced script 1 1 := by
  have hasClock :
      (Session.idle (Clock.stepping Clock.frameStep) none random).clock = Clock.stepped 0 := rfl
  obtain ⟨script, loaded⟩ := Session.exists_paced_load hasClock
    (List.mem_cons_self : firstPattern ∈ patterns)
  rw [Session.start]
  exact ⟨script, loaded.note "start" firstPattern⟩

/-- The session of a benchmark starts its script with the first or the second step. -/
theorem exists_paced_newSession (pattern : Int) (random : Script.RandomStream) :
    ∃ script started, started ≤ 2 ∧ (newSession pattern random).Paced script started started := by
  obtain ⟨script, paced⟩ := exists_paced_start random
  unfold newSession
  split
  · exact ⟨script, 1, by decide, paced⟩
  · exact paced.exists_handleKey (by simp)

/-- The session after frames has taken two steps for each. -/
theorem paced_frames {state : State} (paced : state.session.Paced script started steps)
    (count : Nat) :
    (frames loudness count state).session.Paced script started (steps + 2 * count) := by
  induction count generalizing state steps with
  | zero => exact paced
  | succ count inductionHypothesis =>
      have framed : (frame loudness state).session.Paced script started (steps + 2) :=
        (paced.tick loudness).1.statusLine loudness
      have later := inductionHypothesis framed
      rwa [Nat.add_assoc, Nat.add_comm 2, ← Nat.mul_succ] at later

/-- Frames are the same whether the progress is told or not. -/
theorem timedFrames_snd (plan : BenchmarkPlan) (count done : Nat) (state : State) :
    (timedFrames plan count done state).2 = frames plan.loudness count state := by
  induction count generalizing done state with
  | zero => rfl
  | succ count inductionHypothesis => exact inductionHypothesis (done + 1) _

/-- The state before the first frame of a benchmark. A report on the run as a whole reads the
stopwatch once before. -/
def opened (plan : BenchmarkPlan) (stopwatch : Clock) (random : Script.RandomStream) : State where
  session := newSession plan.pattern random
  window := { size := { rows := plan.rows, columns := plan.columns } }
  stopwatch := if plan.isTimed then stopwatch else stopwatch.read.2

/-- The first built-in script runs from the start on. -/
theorem exists_paced_opened {plan : BenchmarkPlan} (first : plan.pattern = 0) (stopwatch : Clock)
    (random : Script.RandomStream) :
    ∃ script, (opened plan stopwatch random).session.Paced script 1 1 := by
  obtain ⟨script, paced⟩ := exists_paced_start random
  refine ⟨script, ?_⟩
  have isStart : (opened plan stopwatch random).session =
      Session.start (Clock.stepping Clock.frameStep) none random := if_pos first
  rw [isStart]
  exact paced

/-- The times that a benchmark reports are those of its frames. -/
theorem totals_run {plan : BenchmarkPlan} {source : String}
    (found : pattern? plan.pattern = some source) (stopwatch : Clock)
    (random : Script.RandomStream) :
    (run plan stopwatch random).totals =
      (frames plan.loudness plan.frames.toNat (opened plan stopwatch random)).totals.reverse := by
  rw [run, found]
  cases isTimed : plan.isTimed with
  | true =>
      simp only [isTimed, ↓reduceIte, timedReport, opened, timedFrames_snd]
      split <;> rfl
  | false =>
      simp only [isTimed, Bool.false_eq_true, ↓reduceIte, wholeReport, opened]
      split
      · rfl
      · split <;> rfl

/-- The frames of a benchmark are made for times that are two steps of its clock apart: the first
one for the time one step after the start of the script, the second one for three steps after it,
and so on. -/
theorem frames_take_two_steps (plan : BenchmarkPlan) (stopwatch : Clock)
    (random : Script.RandomStream) :
    let start := opened plan stopwatch random
    ((pattern? plan.pattern).isSome → (run plan stopwatch random).totals =
      (frames plan.loudness plan.frames.toNat start).totals.reverse) ∧
    ∃ script started, started ≤ 2 ∧ ∀ index,
      let session := (frames plan.loudness index start).session
      session.tickEvents plan.loudness =
        [.frame ⟨script, Clock.afterSteps (started + 2 * index + 1) - Clock.afterSteps started,
          plan.loudness, session.random⟩] := by
  intro start
  constructor
  · intro isBuiltIn
    obtain ⟨source, found⟩ := Option.isSome_iff_exists.mp isBuiltIn
    exact totals_run found stopwatch random
  · obtain ⟨script, started, early, paced⟩ := exists_paced_newSession plan.pattern random
    have opens : start.session.Paced script started started := paced
    exact ⟨script, started, early, fun index => ((paced_frames opens index).tick plan.loudness).2⟩

/-- The second frame of the first built-in script is made for the time three steps after the start
of the script, which is not the time two steps after it. -/
theorem second_frame_three_steps :
    let start := opened { frames := 2 } (Clock.still 0) ⟨fun _ => 0.5, 0⟩
    let session := (frames 0.2 1 start).session
    ∃ script source time,
      session.mode = .running script (Clock.afterSteps 1) source ∧
      session.tickEvents 0.2 = [.frame ⟨script, time, 0.2, session.random⟩] ∧
      time = Clock.afterSteps 4 - Clock.afterSteps 1 ∧
      time ≠ Clock.afterSteps 3 - Clock.afterSteps 1 := by
  intro start session
  obtain ⟨script, opens⟩ : ∃ script, start.session.Paced script 1 1 :=
    exists_paced_opened rfl (Clock.still 0) ⟨fun _ => 0.5, 0⟩
  have framed : session.Paced script 1 3 := paced_frames opens 1
  obtain ⟨source, -, -, runs⟩ := framed.runs
  exact ⟨script, source, _, runs, (framed.tick 0.2).2, rfl, by decide +kernel⟩

end Benchmark

end LiveGrid
