import LiveGrid.Proofs.Session.Operation

/-!
Contract: who reads which polls of the keyboard.

Owns:
- polls that a session reads while a script runs: every event of them is handled by the session as
  it is then, and nothing is read once no script runs;
- polls that an edit reads: every event of them is fed to the line as it is then;
- both read a first part of the polls, and end with a key that asks to quit at the latest;
- which keys ask to quit, and what that does to an edit.

Does not own: what the keys do to the session and to the line.
-/

namespace LiveGrid

variable {session : Session} {editor : LineEditor} {polls : List KeyPoll}

/-! ## Keys of a running script -/

namespace Session

/-- A session reads polls while a script runs, until a key asks to quit, no script runs any more, or
a poll brings nothing. The result is false if a key asked to quit. -/
inductive HandlesKeys : Session → List KeyPoll → Bool → Session → Prop where
  | stopped {session : Session} (edited : session.isRunning = false) :
      HandlesKeys session [] true session
  | idle {session : Session} (runs : session.isRunning = true) :
      HandlesKeys session [.idle] true session
  | quits {session after : Session} {event : KeyEvent} (runs : session.isRunning = true)
      (handled : session.handleKey event = (false, after)) :
      HandlesKeys session [.event event] false after
  | event {session next after : Session} {event : KeyEvent} {rest : List KeyPoll} {goesOn : Bool}
      (runs : session.isRunning = true) (handled : session.handleKey event = (true, next))
      (handlesRest : HandlesKeys next rest goesOn after) :
      HandlesKeys session (.event event :: rest) goesOn after
  | ignored {session after : Session} {rest : List KeyPoll} {goesOn : Bool}
      (runs : session.isRunning = true) (handlesRest : HandlesKeys session rest goesOn after) :
      HandlesKeys session (.ignored :: rest) goesOn after

theorem handleKey_of_isInterrupt {event : KeyEvent} (runs : session.isRunning = true)
    (interrupts : event.isInterrupt = true) :
    session.handleKey event = (false, session.note "quit" "") := by
  unfold handleKey
  cases mode : session.mode with
  | editing source error =>
      rw [isRunning_of_editing mode] at runs
      cases runs
  | running script start source => simp [interrupts]

/-- If a key among the polls asks to quit, the session reads a first part of them. -/
theorem handlesKeys_of_handleKeys {event : KeyEvent} (interrupts : event.isInterrupt = true)
    (waits : .event event ∈ polls) {goesOn : Bool} {after : Session} {unread : List KeyPoll}
    (handled : session.handleKeys polls = (goesOn, after, unread)) :
    ∃ used, polls = used ++ unread ∧ session.HandlesKeys used goesOn after := by
  induction polls generalizing session with
  | nil => cases waits
  | cons poll rest inductionHypothesis =>
      rw [handleKeys.eq_def] at handled
      dsimp only at handled
      by_cases runs : session.isRunning = true
      · rw [if_pos runs] at handled
        cases poll with
        | idle =>
            cases handled
            exact ⟨[.idle], rfl, .idle runs⟩
        | ignored =>
            have waitsLater : .event event ∈ rest := by simpa using waits
            obtain ⟨used, rfl, handles⟩ := inductionHypothesis waitsLater handled
            exact ⟨.ignored :: used, rfl, .ignored runs handles⟩
        | event first =>
            dsimp only at handled
            rcases outcome : session.handleKey first with ⟨_ | _, next⟩
            · rw [outcome] at handled
              cases handled
              exact ⟨[.event first], rfl, .quits runs outcome⟩
            · rw [outcome] at handled
              have waitsLater : .event event ∈ rest := by
                rcases List.mem_cons.1 waits with same | later
                · cases same
                  rw [handleKey_of_isInterrupt runs interrupts] at outcome
                  cases outcome
                · exact later
              obtain ⟨used, rfl, handles⟩ := inductionHypothesis waitsLater handled
              exact ⟨.event first :: used, rfl, .event runs outcome handles⟩
      · rw [if_neg runs] at handled
        cases handled
        exact ⟨[], rfl, .stopped (Bool.eq_false_iff.2 runs)⟩

namespace HandlesKeys

variable {used : List KeyPoll} {goesOn : Bool} {after : Session}

/-- A key that asks to quit is the last one that is read. -/
theorem not_mem_of_goesOn (handles : session.HandlesKeys used true after) {event : KeyEvent}
    (interrupts : event.isInterrupt = true) : .event event ∉ used := by
  generalize result : true = goesOn at handles
  induction handles with
  | stopped edited => simp
  | idle runs => simp
  | quits runs handled => cases result
  | event runs handled handlesRest inductionHypothesis =>
      intro member
      rcases List.mem_cons.1 member with same | later
      · cases same
        rw [handleKey_of_isInterrupt runs interrupts] at handled
        cases handled
      · exact inductionHypothesis result later
  | ignored runs handlesRest inductionHypothesis =>
      intro member
      exact inductionHypothesis result (by simpa using member)

theorem exists_interrupt (handles : session.HandlesKeys used false after) :
    ∃ before event, used = before ++ [.event event] ∧ event.isInterrupt = true := by
  generalize result : false = goesOn at handles
  induction handles with
  | stopped edited => cases result
  | idle runs => cases result
  | quits runs handled =>
      have interrupts := (handleKey_fst_eq_false_iff.1 (congrArg Prod.fst handled)).2
      exact ⟨[], _, rfl, interrupts⟩
  | event runs handled handlesRest inductionHypothesis =>
      obtain ⟨before, last, rfl, interrupts⟩ := inductionHypothesis result
      exact ⟨_ :: before, last, rfl, interrupts⟩
  | ignored runs handlesRest inductionHypothesis =>
      obtain ⟨before, last, rfl, interrupts⟩ := inductionHypothesis result
      exact ⟨_ :: before, last, rfl, interrupts⟩

/-- While a script runs, something is read. -/
theorem isRunning_eq_false (handles : session.HandlesKeys [] goesOn after) :
    session.isRunning = false ∧ goesOn = true ∧ after = session := by
  cases handles with
  | stopped edited => exact ⟨edited, rfl, rfl⟩

end HandlesKeys

end Session

/-! ## Keys of an edit -/

namespace LineEditor

/-- An edit reads polls until a key ends it. -/
inductive EndsEdit : LineEditor → List KeyPoll → EditOutcome → LineEditor → Prop where
  | ends {editor final : LineEditor} {event : KeyEvent} {outcome : EditOutcome}
      (fed : editor.feed event = (outcome, final)) (isEnd : outcome ≠ .proceed) :
      EndsEdit editor [.event event] outcome final
  | event {editor next final : LineEditor} {event : KeyEvent} {rest : List KeyPoll}
      {outcome : EditOutcome} (fed : editor.feed event = (.proceed, next))
      (endsRest : EndsEdit next rest outcome final) :
      EndsEdit editor (.event event :: rest) outcome final
  | ignored {editor final : LineEditor} {rest : List KeyPoll} {outcome : EditOutcome}
      (endsRest : EndsEdit editor rest outcome final) :
      EndsEdit editor (.ignored :: rest) outcome final
  | idle {editor final : LineEditor} {rest : List KeyPoll} {outcome : EditOutcome}
      (endsRest : EndsEdit editor rest outcome final) :
      EndsEdit editor (.idle :: rest) outcome final

theorem feed_of_isInterrupt {event : KeyEvent} (interrupts : event.isInterrupt = true) :
    editor.feed event = (.quit, editor) := by
  rw [feed, KeyEvent.outcome, if_pos interrupts]

theorem isInterrupt_of_feed {event : KeyEvent} {final : LineEditor}
    (fed : editor.feed event = (.quit, final)) : event.isInterrupt = true := by
  unfold feed KeyEvent.outcome at fed
  by_cases interrupts : event.isInterrupt = true
  · exact interrupts
  · rw [if_neg interrupts] at fed
    cases key : event.key <;> rw [key] at fed <;> cases fed

/-- If a key among the polls asks to quit, the edit reads a first part of them, and ends. -/
theorem endsEdit_editLine (editor : LineEditor) {event : KeyEvent}
    (interrupts : event.isInterrupt = true) (waits : .event event ∈ polls) :
    ∃ used outcome, (editLine editor polls).outcome = some outcome ∧
      polls = used ++ (editLine editor polls).unread ∧
      editor.EndsEdit used outcome (editLine editor polls).editor := by
  induction polls generalizing editor with
  | nil => cases waits
  | cons poll rest inductionHypothesis =>
      cases poll with
      | idle =>
          have waitsLater : .event event ∈ rest := by simpa using waits
          obtain ⟨used, outcome, ended, split, ends⟩ := inductionHypothesis editor waitsLater
          refine ⟨.idle :: used, outcome, ended, ?_, .idle ends⟩
          exact congrArg (List.cons _) split
      | ignored =>
          have waitsLater : .event event ∈ rest := by simpa using waits
          obtain ⟨used, outcome, ended, split, ends⟩ := inductionHypothesis editor waitsLater
          refine ⟨.ignored :: used, outcome, ended, ?_, .ignored ends⟩
          exact congrArg (List.cons _) split
      | event first =>
          rw [editLine.eq_def]
          dsimp only
          rcases fed : editor.feed first with ⟨outcome, next⟩
          cases outcome with
          | proceed =>
              have waitsLater : .event event ∈ rest := by
                rcases List.mem_cons.1 waits with same | later
                · cases same
                  rw [feed_of_isInterrupt interrupts] at fed
                  cases fed
                · exact later
              obtain ⟨used, outcome, ended, split, ends⟩ := inductionHypothesis next waitsLater
              refine ⟨.event first :: used, outcome, ended, ?_, .event fed ends⟩
              exact congrArg (List.cons _) split
          | submit | discard | quit =>
              exact ⟨[.event first], _, rfl, rfl, .ends fed (by decide)⟩

namespace EndsEdit

variable {used : List KeyPoll} {outcome : EditOutcome} {final : LineEditor}

theorem ne_proceed (ends : editor.EndsEdit used outcome final) : outcome ≠ .proceed := by
  induction ends with
  | ends fed isEnd => exact isEnd
  | event _ _ inductionHypothesis => exact inductionHypothesis
  | ignored _ inductionHypothesis => exact inductionHypothesis
  | idle _ inductionHypothesis => exact inductionHypothesis

theorem ne_nil (ends : editor.EndsEdit used outcome final) : used ≠ [] := by
  cases ends <;> simp

theorem exists_interrupt (ends : editor.EndsEdit used .quit final) :
    ∃ before event, used = before ++ [.event event] ∧ event.isInterrupt = true := by
  generalize result : EditOutcome.quit = outcome at ends
  induction ends with
  | ends fed isEnd =>
      subst result
      exact ⟨[], _, rfl, isInterrupt_of_feed fed⟩
  | event fed endsRest inductionHypothesis =>
      obtain ⟨before, last, rfl, interrupts⟩ := inductionHypothesis result
      exact ⟨_ :: before, last, rfl, interrupts⟩
  | ignored endsRest inductionHypothesis =>
      obtain ⟨before, last, rfl, interrupts⟩ := inductionHypothesis result
      exact ⟨_ :: before, last, rfl, interrupts⟩
  | idle endsRest inductionHypothesis =>
      obtain ⟨before, last, rfl, interrupts⟩ := inductionHypothesis result
      exact ⟨_ :: before, last, rfl, interrupts⟩

/-- A key that asks to quit is the last one that is read, and quits. -/
theorem not_mem_of_ne_quit (ends : editor.EndsEdit used outcome final) (stays : outcome ≠ .quit)
    {event : KeyEvent} (interrupts : event.isInterrupt = true) : .event event ∉ used := by
  induction ends with
  | ends fed isEnd =>
      intro member
      cases List.mem_singleton.1 member
      rw [feed_of_isInterrupt interrupts] at fed
      cases fed
      exact stays rfl
  | event fed _ inductionHypothesis =>
      intro member
      rcases List.mem_cons.1 member with same | later
      · cases same
        rw [feed_of_isInterrupt interrupts] at fed
        cases fed
      · exact inductionHypothesis stays later
  | ignored _ inductionHypothesis =>
      intro member
      exact inductionHypothesis stays (by simpa using member)
  | idle _ inductionHypothesis =>
      intro member
      exact inductionHypothesis stays (by simpa using member)

end EndsEdit

end LineEditor

end LiveGrid
