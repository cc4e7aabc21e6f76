import LiveGrid.Proofs.Session.Operation

/-!
Contract: a queue of keys is handled up to the key that stops the session.

Owns:
- keys after which a session that handles them one by one has stopped: no script runs any more, or
  a key asked to quit;
- a session handles the shortest such beginning of a queue, or the whole queue, one key after the
  other, and leaves the other keys in their order;
- a queue that is handled in two parts is handled like the whole.

Does not own: what a single key does.
-/

namespace LiveGrid

namespace Session

variable {session next : Session} {event : KeyEvent} {rest : List KeyEvent}

/-! ## Keys that stop a session -/

/-- Whether a session that handles keys one by one has stopped: no script runs after them, or one of
them was answered with the wish to quit. -/
def StopsAfter (session : Session) (events : List KeyEvent) : Prop :=
  (session.run (events.map .key)).isRunning = false ∨
    ∃ before event after, events = before ++ event :: after ∧
      ((session.run (before.map .key)).handleKey event).1 = false

theorem stopsAfter_nil : session.StopsAfter [] ↔ session.isRunning = false := by
  constructor
  · rintro (stopped | ⟨before, event, after, split, -⟩)
    · exact stopped
    · simp at split
  · exact .inl

/-- The first key stops the session by quitting, or the others stop what it leaves. -/
theorem stopsAfter_cons :
    session.StopsAfter (event :: rest) ↔
      (session.handleKey event).1 = false ∨ (session.handleKey event).2.StopsAfter rest := by
  constructor
  · rintro (stopped | ⟨before, last, after, split, quits⟩)
    · exact .inr (.inl stopped)
    · cases before with
      | nil =>
          cases split
          exact .inl quits
      | cons first before =>
          cases split
          exact .inr (.inr ⟨before, last, after, rfl, quits⟩)
  · rintro (quits | stopped | ⟨before, last, after, rfl, quits⟩)
    · exact .inr ⟨[], event, rest, rfl, quits⟩
    · exact .inl stopped
    · exact .inr ⟨event :: before, last, after, rfl, quits⟩

/-- Whether keys stop a session with the last of them, if at all. -/
def StopsNoEarlier (session : Session) (events : List KeyEvent) : Prop :=
  ∀ shorter, shorter <+: events → shorter ≠ events → ¬ session.StopsAfter shorter

theorem stopsNoEarlier_nil : session.StopsNoEarlier [] := by
  intro shorter isBeginning differs
  exact absurd (List.prefix_nil.1 isBeginning) differs

theorem stopsNoEarlier_cons (runs : session.isRunning = true)
    (handled : rest ≠ [] → (session.handleKey event).1 = true)
    (restStops : (session.handleKey event).2.StopsNoEarlier rest) :
    session.StopsNoEarlier (event :: rest) := by
  intro shorter isBeginning differs stops
  cases shorter with
  | nil =>
      rw [stopsAfter_nil, runs] at stops
      cases stops
  | cons first shorter =>
      obtain ⟨rfl, shorterBegins⟩ := List.cons_prefix_cons.1 isBeginning
      have shorterDiffers : shorter ≠ rest := fun same => differs (congrArg (first :: ·) same)
      have goesOn : (session.handleKey first).1 = true := by
        apply handled
        rintro rfl
        exact shorterDiffers (List.prefix_nil.1 shorterBegins)
      rcases stopsAfter_cons.1 stops with quits | stops
      · rw [goesOn] at quits
        cases quits
      · exact restStops shorter shorterBegins shorterDiffers stops

/-! ## Queues -/

theorem handleKeys_of_not_running {polls : List KeyPoll} (stopped : session.isRunning = false) :
    session.handleKeys polls = (true, session, polls) := by
  cases polls with
  | nil => rfl
  | cons poll rest => simp [handleKeys, stopped]

theorem handleKeys_cons_of_quits (runs : session.isRunning = true)
    (handled : session.handleKey event = (false, next)) :
    session.handleKeys ((event :: rest).map .event) = (false, next, rest.map .event) := by
  simp [handleKeys, runs, handled]

theorem handleKeys_cons_of_goesOn (runs : session.isRunning = true)
    (handled : session.handleKey event = (true, next)) :
    session.handleKeys ((event :: rest).map .event) = next.handleKeys (rest.map .event) := by
  simp [handleKeys, runs, handled]

/-- How a session handles a queue: `used` is handled, `rest` is left, and the result is false if a
key asks to quit. -/
structure Consumes (session : Session) (used rest : List KeyEvent) (goesOn : Bool) : Prop where
  handled : session.handleKeys ((used ++ rest).map .event) =
    (goesOn, session.run (used.map .key), rest.map .event)
  shortest : session.StopsNoEarlier used
  stops : session.StopsAfter used ∨ rest = []
  quits : goesOn = false ↔ ∃ event, used.getLast? = some event ∧ event.isInterrupt = true

theorem consumes_nil (stops : session.isRunning = false ∨ rest = []) :
    session.Consumes [] rest true where
  handled := by
    rcases stops with stopped | rfl
    · exact handleKeys_of_not_running stopped
    · rfl
  shortest := stopsNoEarlier_nil
  stops := stops.imp_left stopsAfter_nil.2
  quits := by simp

theorem consumes_singleton (runs : session.isRunning = true)
    (handled : session.handleKey event = (false, next)) : session.Consumes [event] rest false where
  handled := by
    have performed : session.run ([event].map .key) = (session.handleKey event).2 := rfl
    rw [performed, handled]
    exact handleKeys_cons_of_quits runs handled
  shortest := stopsNoEarlier_cons runs (fun more => absurd rfl more) stopsNoEarlier_nil
  stops := by
    rw [stopsAfter_cons, handled]
    exact .inl (.inl rfl)
  quits := by
    have interrupts := (handleKey_fst_eq_false_iff.1 (congrArg Prod.fst handled)).2
    simp [interrupts]

theorem Consumes.cons {used : List KeyEvent} {goesOn : Bool} (runs : session.isRunning = true)
    (handled : session.handleKey event = (true, next)) (consumes : next.Consumes used rest goesOn) :
    session.Consumes (event :: used) rest goesOn where
  handled := by
    have performed : session.run ((event :: used).map .key) =
      (session.handleKey event).2.run (used.map .key) := rfl
    rw [performed, handled, ← consumes.handled]
    exact handleKeys_cons_of_goesOn runs handled
  shortest := by
    apply stopsNoEarlier_cons runs
    · exact fun _ => congrArg Prod.fst handled
    · rw [handled]
      exact consumes.shortest
  stops := by
    rw [stopsAfter_cons, handled]
    exact consumes.stops.imp_left .inr
  quits := by
    rw [consumes.quits]
    cases used with
    | nil =>
        -- The key itself does not ask to quit, since the session has gone on after it.
        have notQuit : ¬ event.isInterrupt = true := by
          intro interrupts
          have quit := handleKey_fst_eq_false_iff.2 ⟨runs, interrupts⟩
          rw [handled] at quit
          cases quit
        simp [notQuit]
    | cons first used => rw [List.getLast?_cons_cons]

theorem exists_consumes (session : Session) (events : List KeyEvent) :
    ∃ used rest goesOn, events = used ++ rest ∧ session.Consumes used rest goesOn := by
  induction events generalizing session with
  | nil => exact ⟨[], [], true, rfl, consumes_nil (.inr rfl)⟩
  | cons event rest inductionHypothesis =>
      by_cases runs : session.isRunning = true
      · rcases handled : session.handleKey event with ⟨_ | _, next⟩
        · exact ⟨[event], rest, false, rfl, consumes_singleton runs handled⟩
        · obtain ⟨used, left, goesOn, rfl, consumes⟩ := inductionHypothesis next
          exact ⟨event :: used, left, goesOn, rfl, consumes.cons runs handled⟩
      · have stopped : session.isRunning = false := Bool.eq_false_iff.2 runs
        exact ⟨[], event :: rest, true, rfl, consumes_nil (.inl stopped)⟩

/-- What the first part of a queue leaves of the session handles the second part, unless a key asked
to quit. The keys that both leave stay in their order. -/
theorem handleKeys_append (first second : List KeyEvent) :
    session.handleKeys ((first ++ second).map .event) =
      match session.handleKeys (first.map .event) with
      | (false, after, unread) => (false, after, unread ++ second.map .event)
      | (true, after, unread) =>
          match after.handleKeys (second.map .event) with
          | (goesOn, final, others) => (goesOn, final, unread ++ others) := by
  induction first generalizing session with
  | nil => rfl
  | cons event rest inductionHypothesis =>
      by_cases runs : session.isRunning = true
      · rcases handled : session.handleKey event with ⟨_ | _, next⟩
        · rw [List.cons_append, handleKeys_cons_of_quits runs handled,
            handleKeys_cons_of_quits runs handled, List.map_append]
        · rw [List.cons_append, handleKeys_cons_of_goesOn runs handled,
            handleKeys_cons_of_goesOn runs handled]
          exact inductionHypothesis
      · have stopped : session.isRunning = false := Bool.eq_false_iff.2 runs
        simp only [handleKeys_of_not_running stopped, List.map_append]

/-- Of a queue of keys a session handles the shortest beginning after which no script runs or a key
has asked to quit, or all of it if there is none, as if the keys were handled one by one; it handles
nothing if no script runs at first. The other keys are left in their order. The result is false
exactly if the last key that was handled asks to quit. Handling a queue and then, unless a key asked
to quit, another one is handling both in one. -/
theorem handleKeys_eq_shortest (session : Session) (events : List KeyEvent) :
    (∃ used rest goesOn, events = used ++ rest ∧
      session.handleKeys (events.map .event) =
        (goesOn, session.run (used.map .key), rest.map .event) ∧
      (∀ shorter, shorter <+: used → shorter ≠ used → ¬ session.StopsAfter shorter) ∧
      (session.StopsAfter used ∨ rest = []) ∧
      (session.isRunning = false → used = []) ∧
      (goesOn = false ↔ ∃ event, used.getLast? = some event ∧ event.isInterrupt = true)) ∧
    ∀ others : List KeyEvent,
      session.handleKeys ((events ++ others).map .event) =
        match session.handleKeys (events.map .event) with
        | (false, after, unread) => (false, after, unread ++ others.map .event)
        | (true, after, unread) =>
            match after.handleKeys (others.map .event) with
            | (goesOn, final, unreadOthers) => (goesOn, final, unread ++ unreadOthers) := by
  refine ⟨?_, handleKeys_append events⟩
  obtain ⟨used, rest, goesOn, rfl, consumes⟩ := exists_consumes session events
  refine ⟨used, rest, goesOn, rfl, consumes.handled, consumes.shortest, consumes.stops, ?_,
    consumes.quits⟩
  intro stopped
  cases used with
  | nil => rfl
  | cons first used =>
      have emptyStops : session.StopsAfter [] := stopsAfter_nil.2 stopped
      exact absurd emptyStops (consumes.shortest [] List.nil_prefix (by simp))

end Session

end LiveGrid
