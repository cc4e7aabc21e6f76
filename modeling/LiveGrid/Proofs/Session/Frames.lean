import LiveGrid.Proofs.Session.Provenance
import LiveGrid.Proofs.Session.Silence

/-!
Contract: the frames in the rows of a session.

Owns:
- the ticks that succeed in a run, which are the frames that the session has counted;
- every row of a step has the number of ticks that succeeded before the step;
- these numbers never decrease from row to row.

Does not own: what a frame shows.
-/

namespace LiveGrid

namespace LogCall

/-- The row that is written. -/
def row? : LogCall → Option LogRow
  | .write row => some row
  | .control _ => none

def frames (calls : List LogCall) : List Int := (calls.filterMap row?).map LogRow.frame

theorem frames_append {first second : List LogCall} :
    frames (first ++ second) = frames first ++ frames second := by
  rw [frames, List.filterMap_append, List.map_append]
  rfl

end LogCall

namespace Session

/-! ## Frames -/

/-- The number of ticks in a step that succeed. -/
def ticks (session : Session) : SessionStep → Nat
  | .operate (.tick loudness) => (session.tickEvents loudness).length
  | _ => 0

def ticksMade (session : Session) : List SessionStep → Nat
  | [] => 0
  | step :: rest => session.ticks step + (session.after step).ticksMade rest

variable {session : Session}

theorem frame_tick (loudness : Float) :
    (session.tick loudness).frame = session.frame + (session.tickEvents loudness).length := by
  have ticks := session.ticks_tick loudness
  generalize (session.tryTick loudness).1 = result, session.tick loudness = after at ticks
  unfold tickEvents FrameCall.draw
  cases ticks with
  | idle edits =>
      cases mode : session.mode with
      | editing source error => rfl
      | running script start source =>
          rw [isRunning_of_running mode] at edits
          cases edits
  | frame runs drawn => simp [runs, drawn]
  | fails runs failure => simp [runs, failure, failed, afterReading]

theorem frame_handleKey (event : KeyEvent) :
    (session.handleKey event).2.frame = session.frame := by
  unfold handleKey
  split
  · rfl
  · split
    · exact note_frame
    · split
      · exact note_frame
      · split
        · unfold loadPattern
          split
          · rfl
          · rw [clearCanvas_frame, load_frame, note_frame]
        · rfl

theorem frame_finish (outcome : EditOutcome) (text : String) :
    (session.perform (.finish outcome text)).frame = session.frame := by
  have finishes := session.finishes_perform outcome text
  generalize (session.finishEdit outcome text).1 = result,
    session.perform (.finish outcome text) = after at finishes
  cases finishes with
  | notEditing runs => rfl
  | unfinished edits => rfl
  | quits edits => exact note_frame
  | submits edits replaces => exact replaces.kept.2
  | submitFails edits replaces => exact replaces.kept.2
  | discards edits replaces => exact replaces.kept.2

/-- Nothing but a tick that succeeds is counted. -/
theorem frame_after (step : SessionStep) :
    (session.after step).frame = session.frame + session.ticks step := by
  cases step with
  | setClock clock | setRandom random | logger control => rfl
  | operate operation =>
      cases operation with
      | tick loudness => exact frame_tick loudness
      | key event => exact frame_handleKey event
      | keys polls =>
          show (session.perform (.keys polls)).frame = session.frame
          rw [perform_keys]
          generalize session.handledKeys polls = events
          induction events generalizing session with
          | nil => rfl
          | cons event rest inductionHypothesis =>
              exact inductionHypothesis.trans (frame_handleKey event)
      | finish outcome text => exact frame_finish outcome text

theorem frame_runSteps (steps : List SessionStep) :
    (session.runSteps steps).frame = session.frame + session.ticksMade steps := by
  induction steps generalizing session with
  | nil => rfl
  | cons step rest inductionHypothesis =>
      have counted : (session.after step).frame = session.frame + session.ticks step :=
        frame_after step
      rw [runSteps_cons, inductionHypothesis, ticksMade]
      omega

/-! ## Frames of rows -/

variable {row : LogRow}

theorem frame_of_mem_row {event detail : String} (member : row ∈ [session.row event detail]) :
    row.frame = session.frame := by
  cases List.mem_singleton.1 member
  rfl

/-- The rows of a text that takes the place of another. -/
theorem frame_of_mem_replaceRows {event source : String}
    (member : row ∈ session.replaceRows event source) : row.frame = session.frame := by
  rcases List.mem_cons.1 member with rfl | member
  · rfl
  · split at member
    · unfold loadRows at member
      split at member
      · exact frame_of_mem_row member
      · cases member
    · cases member

theorem frame_of_mem_tickRows {loudness : Float} (member : row ∈ session.tickRows loudness) :
    row.frame = session.frame := by
  unfold tickRows at member
  split at member
  · cases member
  · dsimp only at member
    split at member
    · cases member
    · exact frame_of_mem_row member

theorem frame_of_mem_keyRows {event : KeyEvent} (member : row ∈ session.keyRows event) :
    row.frame = session.frame := by
  unfold keyRows at member
  split at member
  · cases member
  · split at member
    · exact frame_of_mem_row member
    · split at member
      · exact frame_of_mem_row member
      · split at member
        · unfold patternRows at member
          split at member
          · cases member
          · exact frame_of_mem_row member
        · cases member

theorem frame_of_mem_keysRows {events : List KeyEvent} (member : row ∈ session.keysRows events) :
    row.frame = session.frame := by
  induction events generalizing session with
  | nil => cases member
  | cons event rest inductionHypothesis =>
      rcases List.mem_append.1 member with first | later
      · exact frame_of_mem_keyRows first
      · rw [inductionHypothesis later, frame_handleKey]

theorem frame_of_mem_finishRows {outcome : EditOutcome} {text : String}
    (member : row ∈ session.finishRows outcome text) : row.frame = session.frame := by
  unfold finishRows at member
  split at member
  · exact frame_of_mem_row member
  · exact frame_of_mem_replaceRows member
  · exact frame_of_mem_replaceRows member
  · cases member

/-- Every row of an operation has the number of frames from before the operation. -/
theorem frame_of_mem_rows {operation : Operation} (member : row ∈ session.rows operation) :
    row.frame = session.frame := by
  cases operation with
  | tick loudness => exact frame_of_mem_tickRows member
  | key event => exact frame_of_mem_keyRows member
  | keys polls => exact frame_of_mem_keysRows member
  | finish outcome text => exact frame_of_mem_finishRows member

theorem frame_of_mem_stepCalls {step : SessionStep} {frame : Int}
    (member : frame ∈ LogCall.frames (session.stepCalls step)) : frame = session.frame := by
  cases step with
  | setClock clock | setRandom random | logger control => cases member
  | operate operation =>
      have written : (LogCall.row? ∘ LogCall.write) = some := rfl
      rw [stepCalls, LogCall.frames, List.filterMap_map, written, List.filterMap_some] at member
      obtain ⟨row, isRow, rfl⟩ := List.mem_map.1 member
      exact frame_of_mem_rows isRow

theorem frame_le_of_mem_logCalls {steps : List SessionStep} {frame : Int}
    (member : frame ∈ LogCall.frames (session.logCalls steps)) : session.frame ≤ frame := by
  induction steps generalizing session with
  | nil => cases member
  | cons step rest inductionHypothesis =>
      rw [logCalls, LogCall.frames_append] at member
      rcases List.mem_append.1 member with first | later
      · exact Int.le_of_eq (frame_of_mem_stepCalls first).symm
      · have counted : (session.after step).frame = session.frame + session.ticks step :=
          frame_after step
        have bound : ((session.after step).frame : Int) ≤ frame := inductionHypothesis later
        omega

/-- Frames never decrease from one row of a run to the next. -/
theorem pairwise_frames_logCalls (steps : List SessionStep) :
    (LogCall.frames (session.logCalls steps)).Pairwise (· ≤ ·) := by
  induction steps generalizing session with
  | nil => exact .nil
  | cons step rest inductionHypothesis =>
      rw [logCalls, LogCall.frames_append, List.pairwise_append]
      refine ⟨List.pairwise_of_forall_mem_list fun first memberFirst second memberSecond => ?_,
        inductionHypothesis, fun first memberFirst second memberSecond => ?_⟩
      · have same : first = second :=
          (frame_of_mem_stepCalls memberFirst).trans (frame_of_mem_stepCalls memberSecond).symm
        exact Int.le_of_eq same
      · have counted : (session.after step).frame = session.frame + session.ticks step :=
          frame_after step
        have bound : ((session.after step).frame : Int) ≤ second :=
          frame_le_of_mem_logCalls memberSecond
        rw [frame_of_mem_stepCalls memberFirst]
        omega

/-! ## A new session -/

variable {clock : Clock} {log : Option Log} {random : Script.RandomStream}

theorem frame_start : (Session.start clock log random).frame = 0 := by
  simp [start, idle]

/-- Nothing but the calls of a run happens to the log of a session. -/
theorem log_runSteps (steps : List SessionStep) :
    (session.runSteps steps).log = session.log.map (·.run (session.logCalls steps)) := by
  have unchanged : session.log = session.log.map (·.run []) := Option.map_id'.symm
  induction steps generalizing session with
  | nil => exact unchanged
  | cons step rest inductionHypothesis =>
      have stepped :
          (session.after step).log = session.log.map (·.run (session.stepCalls step)) := by
        cases step with
        | operate operation => exact log_perform
        | setClock clock | setRandom random => exact unchanged
        | logger control => rfl
      rw [runSteps_cons, inductionHypothesis Option.map_id'.symm, stepped, Option.map_map]
      exact congrArg (session.log.map ·) (funext fun _ => Log.run_append.symm)

/-- A log that is made for a session gets the row of its start and then those of its run. -/
theorem log_runSteps_start (steps : List SessionStep) :
    ((Session.start clock log random).runSteps steps).log =
      log.map (·.run (.write startRow :: (Session.start clock log random).logCalls steps)) := by
  have started : (Session.start clock log random).log = logAfter log [startRow] := by
    rw [start_withLog, log_withLog]
  rw [log_runSteps, started]
  cases log <;> rfl

/-- Every row in a run has the number of ticks that succeeded before. -/
theorem frame_eq_ticksMade {done : List SessionStep} {operation : Operation} {row : LogRow}
    (member : row ∈ ((Session.start clock log random).runSteps done).rows operation) :
    row.frame = (Session.start clock log random).ticksMade done := by
  rw [frame_of_mem_rows member, frame_runSteps, frame_start, Nat.zero_add]

/-- Frames never decrease in the calls of a log that is made for a session. -/
theorem pairwise_frames_start (earlier : List LogControl) (steps : List SessionStep) :
    (LogCall.frames (earlier.map .control ++
      .write startRow :: (Session.start clock log random).logCalls steps)).Pairwise (· ≤ ·) := by
  generalize started : Session.start clock log random = session
  have first : session.frame = 0 := by
    rw [← started, frame_start]
  have noRows : LogCall.frames (earlier.map .control) = [] := by
    induction earlier with
    | nil => rfl
    | cons control rest inductionHypothesis => exact inductionHypothesis
  have rows : LogCall.frames (.write startRow :: session.logCalls steps) =
    0 :: LogCall.frames (session.logCalls steps) := rfl
  rw [LogCall.frames_append, noRows, List.nil_append, rows, List.pairwise_cons]
  refine ⟨fun frame member => ?_, pairwise_frames_logCalls steps⟩
  have bound : (session.frame : Int) ≤ frame := frame_le_of_mem_logCalls member
  omega

end Session

end LiveGrid
