import LiveGrid.Proofs.Session.Handles

/-!
Contract: a session does not depend on a log that takes its rows.

Owns:
- runs in which the operations of a session alternate with whatever happens to its clock, to its
  random numbers and to its log;
- what is seen of a session in a run, and the calls that its log gets;
- a run is seen as without a log exactly if the log can encode every row that it is given while it
  is open and its file whole, and no call of such a log ends with a fault.

Does not own: what the file of a log tells.
-/

namespace LiveGrid

/-- What happens in a run of a session: to itself, or to its log. -/
inductive SessionStep where
  | operate (operation : Operation)
  | setClock (clock : Clock)
  | setRandom (random : Script.RandomStream)
  | logger (control : LogControl)

/-- Whether something happens to the session itself. -/
def SessionStep.isOfSession : SessionStep → Bool
  | .logger _ => false
  | _ => true

/-- What is seen of a session after a step: the answer, the mode, the canvas and the number of
frames. -/
structure Observation where
  answer : Answer
  mode : Mode
  canvas : Canvas
  frame : Nat

namespace Session

def after (session : Session) : SessionStep → Session
  | .operate operation => session.perform operation
  | .setClock clock => { session with clock := clock }
  | .setRandom random => { session with random := random }
  | .logger control => session.withLog (session.log.map (·.call (.control control)))

def runSteps (session : Session) (steps : List SessionStep) : Session := steps.foldl after session

/-- What is seen of a session after a step of its own. -/
def observe (session : Session) : SessionStep → List Observation
  | .logger _ => []
  | .operate operation =>
      let next := session.perform operation
      [⟨session.answer operation, next.mode, next.canvas, next.frame⟩]
  | _ => [⟨.done (.ok ()), session.mode, session.canvas, session.frame⟩]

def observations (session : Session) : List SessionStep → List Observation
  | [] => []
  | step :: rest => session.observe step ++ (session.after step).observations rest

/-- The calls that the log of a session gets in a step. -/
def stepCalls (session : Session) : SessionStep → List LogCall
  | .operate operation => (session.rows operation).map .write
  | .logger control => [.control control]
  | _ => []

def logCalls (session : Session) : List SessionStep → List LogCall
  | [] => []
  | step :: rest => session.stepCalls step ++ (session.after step).logCalls rest

variable {session : Session} {log : Option Log}

@[simp] theorem runSteps_nil : session.runSteps [] = session := rfl

@[simp] theorem runSteps_cons {step : SessionStep} {rest : List SessionStep} :
    session.runSteps (step :: rest) = (session.after step).runSteps rest := rfl

/-! ## Sessions that differ in their logs -/

theorem log_after_of_log_eq_none (noLog : session.log = none) (step : SessionStep) :
    (session.after step).log = none := by
  cases step with
  | operate operation => rw [after, log_perform, noLog, logAfter, Option.map_none]
  | setClock clock | setRandom random => exact noLog
  | logger control => rw [after, noLog, log_withLog, Option.map_none]

theorem after_withLog (noLog : session.log = none) {step : SessionStep}
    (takes : ∀ kept ∈ log, kept.Takes (session.stepCalls step)) :
    (session.withLog log).after step =
      (session.after step).withLog (log.map (·.run (session.stepCalls step))) := by
  cases step with
  | operate operation => exact perform_withLog noLog takes
  | setClock clock | setRandom random =>
      cases log <;> rfl
  | logger control => rfl

/-- A step is seen as without a log exactly if the log takes its rows. -/
theorem observe_withLog_eq_iff (noLog : session.log = none) {step : SessionStep} :
    (session.withLog log).observe step = session.observe step ↔
      ∀ kept ∈ log, kept.Takes (session.stepCalls step) := by
  cases step with
  | operate operation =>
      unfold observe
      dsimp only
      constructor
      · intro same
        have sameAnswer := congrArg (·.map Observation.answer) same
        exact (answer_withLog_eq_iff noLog).1 (List.singleton_inj.1 sameAnswer)
      · intro takes
        rw [(answer_withLog_eq_iff noLog).2 takes, perform_withLog noLog takes]
        rfl
  | setClock clock | setRandom random => exact iff_of_true rfl fun _ _ => Log.takes_nil
  | logger control =>
      exact iff_of_true rfl fun _ _ => Log.takes_cons.2 ⟨rfl, Log.takes_nil⟩

theorem length_observe_withLog (step : SessionStep) :
    ((session.withLog log).observe step).length = (session.observe step).length := by
  cases step <;> rfl

/-- What happens to a log later, after a step that it takes. -/
theorem takes_logCalls_cons {step : SessionStep} {rest : List SessionStep} :
    (∀ kept ∈ log, kept.Takes (session.logCalls (step :: rest))) ↔
      (∀ kept ∈ log, kept.Takes (session.stepCalls step)) ∧
        ∀ kept ∈ log.map (·.run (session.stepCalls step)),
          kept.Takes ((session.after step).logCalls rest) := by
  cases log with
  | none => simp
  | some log => simp [logCalls, Log.takes_append]

/-- A run with a log: its calls, in their order, are all that happens to the log. -/
theorem runSteps_withLog (noLog : session.log = none) {steps : List SessionStep}
    (takes : ∀ kept ∈ log, kept.Takes (session.logCalls steps)) :
    (session.withLog log).runSteps steps =
      (session.runSteps steps).withLog (log.map (·.run (session.logCalls steps))) := by
  induction steps generalizing session log with
  | nil => cases log <;> rfl
  | cons step rest inductionHypothesis =>
      -- The step is made with the log as it is, the rest with what the step left of it.
      obtain ⟨takesStep, takesRest⟩ := takes_logCalls_cons.1 takes
      rw [runSteps_cons, after_withLog noLog takesStep,
        inductionHypothesis (log_after_of_log_eq_none noLog step) takesRest, Option.map_map,
        runSteps_cons]
      have appended : (fun log : Log => log.run (session.logCalls (step :: rest))) =
          (fun log : Log => log.run ((session.after step).logCalls rest)) ∘
            (fun log : Log => log.run (session.stepCalls step)) :=
        funext fun _ => Log.run_append
      rw [appended]

/-- A run is seen as without a log exactly if the log takes its rows. -/
theorem observations_withLog_eq_iff (noLog : session.log = none) {steps : List SessionStep} :
    (session.withLog log).observations steps = session.observations steps ↔
      ∀ kept ∈ log, kept.Takes (session.logCalls steps) := by
  induction steps generalizing session log with
  | nil => exact iff_of_true rfl fun _ _ => Log.takes_nil
  | cons step rest inductionHypothesis =>
      have noLogAfter := log_after_of_log_eq_none noLog step
      rw [takes_logCalls_cons, ← observe_withLog_eq_iff noLog, observations, observations]
      constructor
      · intro same
        obtain ⟨sameStep, sameRest⟩ := List.append_inj same (length_observe_withLog step)
        have takes := (observe_withLog_eq_iff noLog).1 sameStep
        rw [after_withLog noLog takes] at sameRest
        exact ⟨sameStep, (inductionHypothesis noLogAfter).1 sameRest⟩
      · rintro ⟨sameStep, takesRest⟩
        have takes := (observe_withLog_eq_iff noLog).1 sameStep
        rw [after_withLog noLog takes, (inductionHypothesis noLogAfter).2 takesRest, sameStep]

/-! ## Sessions without a log -/

/-- Nothing can happen to a log that is not there. -/
theorem after_logger_of_log_eq_none (noLog : session.log = none) (control : LogControl) :
    session.after (.logger control) = session := by
  rw [after, noLog, Option.map_none, ← noLog, withLog_log]

/-- Without a log, a run is that of the session's own steps. -/
theorem runSteps_filter (noLog : session.log = none) (steps : List SessionStep) :
    session.runSteps (steps.filter SessionStep.isOfSession) = session.runSteps steps ∧
      session.observations (steps.filter SessionStep.isOfSession) = session.observations steps := by
  induction steps generalizing session with
  | nil => exact ⟨rfl, rfl⟩
  | cons step rest inductionHypothesis =>
      have noLogAfter : (session.after step).log = none := log_after_of_log_eq_none noLog step
      obtain ⟨sameRun, sameSeen⟩ := inductionHypothesis noLogAfter
      by_cases own : step.isOfSession = true
      · rw [List.filter_cons_of_pos own, runSteps_cons, runSteps_cons, observations, observations,
          sameRun, sameSeen]
        exact ⟨rfl, rfl⟩
      · cases step with
        | operate operation | setClock clock | setRandom random => exact absurd rfl own
        | logger control =>
            have unchanged := after_logger_of_log_eq_none noLog control
            rw [List.filter_cons_of_neg own, runSteps_cons, observations, unchanged]
            rw [unchanged] at sameRun sameSeen
            exact ⟨sameRun, sameSeen⟩

theorem takes_cons_startRow {calls : List LogCall} :
    (∀ kept ∈ log, kept.Takes (.write startRow :: calls)) ↔
      ∀ kept ∈ logAfter log [startRow], kept.Takes calls := by
  have isTaken : Accepts log [startRow] := accepts_startRow
  cases log with
  | none => simp [logAfter]
  | some log =>
      have answered := (Log.takes_cons.1 (isTaken log rfl)).1
      simp [logAfter, Log.takes_cons, answered, Log.writeRows]

theorem log_start_none {clock : Clock} {random : Script.RandomStream} :
    (Session.start clock none random).log = none := by
  rw [start_withLog]
  rfl

theorem observations_start_eq_iff {clock : Clock} {random : Script.RandomStream}
    {steps : List SessionStep} :
    (Session.start clock log random).observations steps =
        (Session.start clock none random).observations (steps.filter SessionStep.isOfSession) ↔
      ∀ kept ∈ log,
        kept.Takes (.write startRow :: (Session.start clock none random).logCalls steps) := by
  rw [start_withLog, (runSteps_filter log_start_none steps).2,
    observations_withLog_eq_iff log_start_none, takes_cons_startRow]

end Session

end LiveGrid
