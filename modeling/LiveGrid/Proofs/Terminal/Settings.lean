import LiveGrid.Proofs.Session.Rows
import LiveGrid.Proofs.Terminal.Loop
import LiveGrid.Proofs.Terminal.Record

/-!
Contract: how the terminal is set while a run reads the keyboard, and when it ends.

Owns:
- what a terminal was last told about its cursor, and about reads, which wait for a key or not;
- readers that are served: the session, which has to go on with the next frame, or a line, which
  the terminal shows as it is;
- every read of a run is by a reader that is served.

The mode of a session changes in a tick, by a key and when an edit ends. The terminal is set anew
only around the reads of an edit, so that a turn leaves it as it found it, however it ends.

Does not own: what the keys do to the session and to the line.
-/

namespace LiveGrid

/-- What a terminal was last told about reads that do not wait, and about its cursor. -/
structure TerminalSettings where
  noDelay : Option Bool := none
  cursor : Option Nat := none

namespace TerminalSettings

def after (settings : TerminalSettings) : TerminalEvent → TerminalSettings
  | .call (.noDelay on) => { settings with noDelay := some on }
  | .call (.cursor visibility) => { settings with cursor := some visibility }
  | _ => settings

/-- Reads do not wait, and the cursor is hidden. -/
def animating : TerminalSettings := ⟨some true, some 0⟩

/-- Reads wait, and the cursor is shown. -/
def typing : TerminalSettings := ⟨some false, some 1⟩

end TerminalSettings

def settingsAfter (events : List TerminalEvent) : TerminalSettings :=
  events.foldl TerminalSettings.after {}

/-- What has happened before a read, and the mode of the session, serve its reader. A line has just
been shown as it is, with its error. -/
def Reader.IsServed (before : List TerminalEvent) (mode : Mode) : Reader → Prop
  | .session => mode.isRunning = true ∧ settingsAfter before = .animating
  | .line editor error =>
      (∃ source, mode = .editing source error) ∧ settingsAfter before = .typing ∧
        ∃ earlier window colors,
          before = earlier ++ [.call (.refresh (Screen.drawPrompt window colors editor error))]

def ReadsServed (events : List TerminalEvent) : Prop :=
  ∀ before mode reader poll,
    before ++ [.read mode reader poll] <+: events → reader.IsServed before mode

variable {events : List TerminalEvent} {settings : TerminalSettings}

/-! ## Events one by one -/

theorem settingsAfter_append_singleton {event : TerminalEvent} :
    settingsAfter (events ++ [event]) = (settingsAfter events).after event := by
  rw [settingsAfter, List.foldl_append]
  rfl

theorem ReadsServed.call (served : ReadsServed events) (call : TerminalCall) :
    ReadsServed (events ++ [.call call]) := by
  intro before mode reader poll reads
  rcases List.prefix_concat_iff.1 reads with same | earlier
  · have last := List.append_inj_right' same rfl
    cases last
  · exact served before mode reader poll earlier

theorem ReadsServed.read (served : ReadsServed events) {mode : Mode} {reader : Reader}
    (isServed : reader.IsServed events mode) (poll : KeyPoll) :
    ReadsServed (events ++ [.read mode reader poll]) := by
  intro before otherMode other otherPoll reads
  rcases List.prefix_concat_iff.1 reads with same | earlier
  · have last := List.append_inj_right' same rfl
    cases last
    rw [List.append_cancel_right same]
    exact isServed
  · exact served before otherMode other otherPoll earlier

theorem readsServed_calls (calls : List TerminalCall) : ReadsServed (calls.map .call) := by
  intro before mode reader poll reads
  have member : TerminalEvent.read mode reader poll ∈ calls.map .call := reads.subset (by simp)
  obtain ⟨call, -, same⟩ := List.mem_map.1 member
  cases same

/-- An operation leaves a session its log. -/
theorem Session.isSome_log_perform {session : Session} (operation : Operation) :
    (session.perform operation).log.isSome = session.log.isSome := by
  rw [log_perform, logAfter, Option.isSome_map]

theorem Session.log_statusLine (session : Session) (loudness : Float) :
    (session.statusLine loudness).2.log = session.log := by
  obtain ⟨clock, log, random, frame, canvas, mode⟩ := session
  cases mode <;> rfl

namespace Recorded

variable {recorded : Recorded} {polls : List KeyPoll}

/-- A record tells the calls and the polls of its run, every read was served, the terminal is set
in some way, and the session has a log. -/
structure Tracks (recorded : Recorded) (polls : List KeyPoll) (settings : TerminalSettings) :
    Prop where
  calls_eq : recorded.calls = recorded.run.trace
  polls_eq : recorded.reads ++ recorded.run.polls = polls
  served : ReadsServed recorded.events
  settings_eq : settingsAfter recorded.events = settings
  hasLog : recorded.run.session.log.isSome = true

namespace Tracks

/-! ## Steps -/

theorem silently (tracks : recorded.Tracks polls settings) {step : Run → Run}
    (sameCalls : (step recorded.run).calls = recorded.run.calls)
    (samePolls : (step recorded.run).polls = recorded.run.polls)
    (sameLog : (step recorded.run).session.log.isSome = recorded.run.session.log.isSome) :
    (recorded.silently step).Tracks polls settings where
  calls_eq := tracks.calls_eq.trans (congrArg List.reverse sameCalls.symm)
  polls_eq := by
    rw [← tracks.polls_eq, ← samePolls]
    rfl
  served := tracks.served
  settings_eq := tracks.settings_eq
  hasLog := sameLog.trans tracks.hasLog

theorem withSession (tracks : recorded.Tracks polls settings) {next : Session}
    (sameLog : next.log.isSome = recorded.run.session.log.isSome) :
    (recorded.silently ({ · with session := next })).Tracks polls settings :=
  tracks.silently rfl rfl sameLog

theorem tell (tracks : recorded.Tracks polls settings) (call : TerminalCall) :
    (recorded.tell call).Tracks polls (settings.after (.call call)) where
  calls_eq := by
    have told : (recorded.tell call).calls = recorded.calls ++ [call] := List.filterMap_append
    rw [told, tracks.calls_eq, Run.trace, ← List.reverse_cons]
    rfl
  polls_eq := by
    have unread : (recorded.tell call).reads = recorded.reads ++ [] := List.filterMap_append
    rw [unread, List.append_nil]
    exact tracks.polls_eq
  served := tracks.served.call call
  settings_eq := by
    rw [← tracks.settings_eq]
    exact settingsAfter_append_singleton
  hasLog := tracks.hasLog

theorem read (tracks : recorded.Tracks polls settings) {reader : Reader} {poll : KeyPoll}
    {rest : List KeyPoll} (waits : recorded.run.polls = poll :: rest)
    (isServed : reader.IsServed recorded.events recorded.run.session.mode) :
    (recorded.read reader poll rest).Tracks polls settings where
  calls_eq := by
    have untold : (recorded.read reader poll rest).calls = recorded.calls ++ [] :=
      List.filterMap_append
    rw [untold, List.append_nil]
    exact tracks.calls_eq
  polls_eq := by
    have taken : (recorded.read reader poll rest).reads = recorded.reads ++ [poll] :=
      List.filterMap_append
    rw [← tracks.polls_eq, waits, taken, List.append_assoc]
    rfl
  served := tracks.served.read isServed poll
  settings_eq := by
    rw [← tracks.settings_eq]
    exact settingsAfter_append_singleton
  hasLog := tracks.hasLog

theorem refresh (tracks : recorded.Tracks polls settings) :
    recorded.refresh.Tracks polls settings :=
  (tracks.tell _).silently rfl rfl Option.isSome_map

theorem redraw (tracks : recorded.Tracks polls settings) (error : Option String)
    (editor : LineEditor) : (recorded.redraw error editor).Tracks polls settings := by
  apply refresh
  exact tracks.silently rfl rfl rfl

/-! ## Turns -/

theorem handlePolls (tracks : recorded.Tracks polls .animating) {waiting : List KeyPoll}
    (waits : recorded.run.polls = waiting) :
    (recorded.handlePolls waiting).2.Tracks polls .animating := by
  induction waiting generalizing recorded with
  | nil => exact tracks
  | cons poll rest inductionHypothesis =>
      rw [Recorded.handlePolls]
      by_cases runs : recorded.run.session.isRunning = true
      · rw [if_pos runs]
        have after : (recorded.read .session poll rest).Tracks polls .animating :=
          tracks.read waits ⟨runs, tracks.settings_eq⟩
        cases poll with
        | idle => exact after
        | ignored => exact inductionHypothesis after rfl
        | event event =>
            dsimp only
            rcases handled : (recorded.read .session (.event event) rest).run.session.handleKey
              event with ⟨goesOn, next⟩
            have sameLog : next.log.isSome = recorded.run.session.log.isSome := by
              rw [← recorded.run.session.isSome_log_perform (.key event)]
              exact congrArg (fun result => result.2.log.isSome) handled.symm
            have reacted := after.withSession sameLog
            cases goesOn with
            | false => exact reacted
            | true => exact inductionHypothesis reacted rfl
      · rw [if_neg runs]
        exact tracks

theorem editPolls (tracks : recorded.Tracks polls .typing) {waiting : List KeyPoll}
    (waits : recorded.run.polls = waiting) {source : String} {error : Option String}
    (edits : recorded.run.session.mode = .editing source error) (editor : LineEditor) :
    (recorded.editPolls error editor waiting).2.2.Tracks polls .typing := by
  induction waiting generalizing recorded editor with
  | nil => exact tracks.redraw error editor
  | cons poll rest inductionHypothesis =>
      have drawn := tracks.redraw error editor
      have after : ((recorded.redraw error editor).read (.line editor error) poll rest).Tracks
          polls .typing :=
        drawn.read waits ⟨⟨source, edits⟩, drawn.settings_eq, recorded.events,
          recorded.run.window, recorded.run.colors, rfl⟩
      cases poll with
      | idle | ignored => exact inductionHypothesis after rfl edits editor
      | event event =>
          rw [Recorded.editPolls]
          rcases editor.feed event with ⟨outcome, next⟩
          cases outcome with
          | proceed => exact inductionHypothesis after rfl edits next
          | submit | discard | quit => exact after

theorem frame (tracks : recorded.Tracks polls .animating) :
    recorded.frame.2.Tracks polls .animating := by
  have heard : (recorded.silently Run.hear).Tracks polls .animating :=
    tracks.silently rfl rfl rfl
  rw [Recorded.frame]
  dsimp only
  generalize (recorded.silently Run.hear) = run at heard
  have sameLog := run.run.session.isSome_log_perform (.tick run.run.microphone.volume)
  rw [Session.perform, Session.tick] at sameLog
  rcases ticks : run.run.session.tryTick run.run.microphone.volume with ⟨fault | ⟨⟩, ticked⟩
  · rw [ticks] at sameLog
    have broken : (run.silently (·.breakOff ticked fault)).Tracks polls .animating :=
      heard.silently rfl rfl sameLog
    exact broken
  · rw [ticks] at sameLog
    have shownLog : (ticked.statusLine run.run.microphone.volume).2.log.isSome =
        run.run.session.log.isSome := by
      rw [ticked.log_statusLine]
      exact sameLog
    have shown : (run.silently fun drawn => Run.drawCanvas
        { drawn with session := (ticked.statusLine run.run.microphone.volume).2 }
        (ticked.statusLine run.run.microphone.volume).1).refresh.Tracks polls .animating :=
      (heard.silently rfl rfl shownLog).refresh
    exact shown.handlePolls rfl

theorem endEdit (tracks : recorded.Tracks polls settings) (editor : LineEditor)
    (outcome : Option EditOutcome) :
    (recorded.endEdit editor outcome).2.Tracks polls settings := by
  cases outcome with
  | none => exact tracks
  | some outcome =>
      have sameLog := recorded.run.session.isSome_log_perform (.finish outcome editor.text)
      rw [Session.perform] at sameLog
      have told : (recorded.silently fun run =>
          run.ended (recorded.run.session.finishEdit outcome editor.text).1
            (recorded.run.session.finishEdit outcome editor.text).2).Tracks polls settings :=
        tracks.silently rfl rfl sameLog
      exact told

theorem edit (tracks : recorded.Tracks polls .animating) {source : String}
    {error : Option String} (edits : recorded.run.session.mode = .editing source error) :
    (recorded.edit source error).2.Tracks polls .animating := by
  have opened : recorded.openEdit.Tracks polls .typing :=
    ((tracks.silently rfl rfl rfl).tell _).tell _
  have typed := opened.editPolls rfl edits (LineEditor.ofText source)
  -- Whatever ended the edit, the terminal is told the same before the session gets to know it.
  exact (((typed.tell (.noDelay true)).tell (.cursor 0)).silently rfl rfl rfl).endEdit _ _

theorem pause (tracks : recorded.Tracks polls settings) (delay : Float) :
    (recorded.pause delay).Tracks polls settings := by
  rw [Recorded.pause]
  split
  · exact (tracks.tell _).silently rfl rfl Option.isSome_map
  · exact tracks

/-- A turn leaves the terminal as it found it, whether the mode of the session changes or not. -/
theorem turn (tracks : recorded.Tracks polls .animating) :
    recorded.turn.2.Tracks polls .animating := by
  have worked : recorded.work.2.Tracks polls .animating := by
    rw [work]
    cases mode : recorded.run.session.mode with
    | running script start source => exact tracks.frame
    | editing source error => exact tracks.edit mode
  rw [Recorded.turn]
  rcases made : recorded.work with ⟨_ | _, next⟩
  · rw [made] at worked
    exact worked
  · rw [made] at worked
    exact worked.pause _

theorem turns (tracks : recorded.Tracks polls .animating) (fuel : Nat) :
    (turns fuel recorded).Tracks polls .animating := by
  induction fuel generalizing recorded with
  | zero => exact tracks
  | succ fuel inductionHypothesis =>
      have turned := tracks.turn
      rw [Recorded.turns]
      rcases made : recorded.turn with ⟨_ | _, next⟩
      · rw [made] at turned
        exact turned
      · rw [made] at turned
        exact inductionHypothesis turned

/-! ## Runs -/

theorem finish (tracks : recorded.Tracks polls settings) :
    (recorded.silently Run.finish).Tracks polls settings :=
  tracks.silently rfl rfl Option.isSome_map

theorem settingsAfter_pairs (before : List TerminalEvent) (pairs : List ColorPair) :
    settingsAfter (before ++ (pairs.map TerminalCall.pair).map .call) = settingsAfter before := by
  induction pairs generalizing before with
  | nil => rw [List.map_nil, List.map_nil, List.append_nil]
  | cons pair rest inductionHypothesis =>
      rw [List.map_cons, List.map_cons, List.append_cons, inductionHypothesis,
        settingsAfter_append_singleton]
      rfl

theorem opening (settings : RunSettings) (around : Surroundings) (polls : List KeyPoll) :
    (opening settings around polls).Tracks (polls ++ [.event Run.quitKey]) .animating where
  calls_eq := by
    let calls := Run.openingCalls (colorPairs around.colors around.pairs)
    have told : (Recorded.opening settings around polls).calls =
        (calls.map .call).filterMap TerminalEvent.call? := rfl
    have sameCalls : (Recorded.opening settings around polls).run.trace = calls.reverse.reverse :=
      rfl
    rw [told, sameCalls, List.reverse_reverse, List.filterMap_map]
    exact List.filterMap_some
  polls_eq := by
    let calls := Run.openingCalls (colorPairs around.colors around.pairs)
    have unread : (calls.map .call).filterMap TerminalEvent.poll? = [] := by
      rw [List.filterMap_map, List.filterMap_eq_nil_iff]
      exact fun call member => rfl
    show List.filterMap _ (calls.map _) ++ (polls ++ _) = _
    rw [unread]
    rfl
  served := readsServed_calls _
  settings_eq := by
    show settingsAfter (List.map _ (_ ++ _)) = _
    rw [List.map_append, settingsAfter_pairs]
    rfl
  hasLog := by
    have isRun : (Recorded.opening settings around polls).run =
        Run.opening settings around polls := rfl
    rw [isRun]
    -- Which log it is depends on the microphone, but there is one.
    rcases Run.opening_cases settings around polls with ⟨started, -⟩ | ⟨idles, -⟩
    · rw [started, Session.start_withLog, Session.log_withLog, Session.logAfter,
        Option.isSome_map]
      rfl
    · rw [idles]
      rfl

theorem ofKeys (settings : RunSettings) (around : Surroundings)
    (inputs : List (Option KeyInput)) :
    (ofKeys settings around inputs).Tracks
      (inputs.map KeyPoll.ofInput ++ [.event Run.quitKey]) .animating := by
  have opened := opening settings around (inputs.map KeyPoll.ofInput)
  rw [Recorded.ofKeys]
  split
  · exact opened
  · exact (opened.turns _).finish

end Tracks

end Recorded

namespace Run

theorem isOpen_of_finish {run : Run} {log : Log} (hasLog : run.finish.session.log = some log) :
    log.isOpen = false := by
  rw [finish] at hasLog
  obtain ⟨held, -, rfl⟩ := Option.map_eq_some_iff.1 hasLog
  rfl

/-- A run, seen from its terminal. The calls are those of the run, and each poll is read once, up to
a key that asks to quit, unless the run is broken off. While a script runs, reads do not wait and
the cursor is hidden. While a text is edited, they wait, the cursor is shown, and the line has been
drawn and shown since the last read. However a run ends, reads do not wait and the cursor is hidden
then, and the log is closed if the run has begun. -/
theorem terminal_follows_mode (settings : RunSettings) (around : Surroundings)
    (inputs : List (Option KeyInput)) :
    let recorded := Recorded.ofKeys settings around inputs
    let opened := opening settings around (inputs.map KeyPoll.ofInput)
    recorded.run = ofKeys settings around inputs ∧
      recorded.calls = recorded.run.trace ∧
      recorded.reads ++ recorded.run.polls =
        inputs.map KeyPoll.ofInput ++ [.event quitKey] ∧
      (recorded.run.fault = none →
        ∃ before event, recorded.reads = before ++ [.event event] ∧ event.isInterrupt = true) ∧
      ReadsServed recorded.events ∧
      settingsAfter recorded.events = .animating ∧
      ∃ log, recorded.run.session.log = some log ∧ (opened.fault = none → log.isOpen = false) := by
  intro recorded opened
  have tracks := Recorded.Tracks.ofKeys settings around inputs
  have same : recorded.run = ofKeys settings around inputs :=
    Recorded.run_ofKeys settings around inputs
  refine ⟨same, tracks.calls_eq, tracks.polls_eq, fun unbroken => ?_, tracks.served,
    tracks.settings_eq, ?_⟩
  · rw [same] at unbroken
    obtain ⟨before, event, ended, interrupts⟩ := exists_interrupt_ofKeys unbroken
    have rest : recorded.reads ++ recorded.run.polls =
        (before ++ [.event event]) ++ recorded.run.polls := by
      rw [tracks.polls_eq, ended, same, List.append_cons]
    exact ⟨before, event, List.append_cancel_right rest, interrupts⟩
  · obtain ⟨log, hasLog⟩ := Option.isSome_iff_exists.1 tracks.hasLog
    refine ⟨log, hasLog, fun begins => ?_⟩
    have unbroken : (opening settings around (inputs.map KeyPoll.ofInput)).fault = none := begins
    rw [Recorded.run_ofKeys, ofKeys, unbroken] at hasLog
    exact isOpen_of_finish hasLog

end Run

end LiveGrid
