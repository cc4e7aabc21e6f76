import LiveGrid.Proofs.Session.Replay

/-!
Contract: what a session does with its log.

Owns:
- the calls that a log gets, what it answers to them, and the log after them;
- a session with another log;
- the rows that an operation gives to its log, which are written whatever the operation comes to;
- an operation does the same with any log that takes its rows, and is broken off by any other.

The rows of keys are plain, so that every log takes them.

Does not own: which rows a log takes.
-/

namespace LiveGrid

/-! ## Calls of a log -/

/-- A row as it is given to a log. -/
structure LogRow where
  frame : Int
  event : String
  detail : String

/-- What happens to a log besides its rows. A file is opened successfully or not, independently of
the times before. -/
inductive LogControl where
  | openFile (canOpen : Bool)
  | closeFile
  | breakFile
  | setClock (clock : Clock)

inductive LogCall where
  | write (row : LogRow)
  | control (control : LogControl)

namespace Log

def withFile (log : Log) (canOpen : Bool) : Log :=
  { log with file := { log.file with canOpen := canOpen } }

/-- What a log answers to a call. Nothing but a row can be refused. -/
def answer (log : Log) : LogCall → Except EncodingFault Unit
  | .write row => (log.tryWrite row.frame row.event row.detail).1
  | .control _ => .ok ()

/-- The log after a call. -/
def call (log : Log) : LogCall → Log
  | .write row => log.write row.frame row.event row.detail
  | .control (.openFile canOpen) => (log.withFile canOpen).openFile
  | .control .closeFile => log.closeFile
  | .control .breakFile => log.breakFile
  | .control (.setClock clock) => { log with clock := clock }

def run (log : Log) (calls : List LogCall) : Log := calls.foldl call log

/-- What a log answers to calls, whatever it has answered to the calls before. -/
def answers (log : Log) : List LogCall → List (Except EncodingFault Unit)
  | [] => []
  | call :: rest => log.answer call :: (log.call call).answers rest

/-- A log refuses none of its calls. -/
def Takes (log : Log) (calls : List LogCall) : Prop :=
  ∀ answer ∈ log.answers calls, answer = .ok ()

instance {log : Log} {calls : List LogCall} : Decidable (log.Takes calls) :=
  inferInstanceAs (Decidable (∀ answer ∈ log.answers calls, answer = .ok ()))

def writeRows (log : Log) (rows : List LogRow) : Log := log.run (rows.map .write)

variable {log : Log} {call : LogCall} {first second rest : List LogCall}

@[simp] theorem run_nil : log.run [] = log := rfl

@[simp] theorem run_cons : log.run (call :: rest) = (log.call call).run rest := rfl

theorem run_append : log.run (first ++ second) = (log.run first).run second := List.foldl_append

@[simp] theorem writeRows_nil : log.writeRows [] = log := rfl

theorem writeRows_append {first second : List LogRow} :
    log.writeRows (first ++ second) = (log.writeRows first).writeRows second := by
  rw [writeRows, List.map_append, run_append]
  rfl

theorem answers_append :
    log.answers (first ++ second) = log.answers first ++ (log.run first).answers second := by
  induction first generalizing log with
  | nil => rfl
  | cons call rest inductionHypothesis => exact congrArg (_ :: ·) inductionHypothesis

theorem encoding_call : (log.call call).file.encoding = log.file.encoding := by
  rcases call with row | canOpen | _ | _ | clock
  · obtain ⟨clock, text, written⟩ := exists_write_eq log row.frame row.event row.detail
    rw [Log.call, written]
  · cases canOpen <;> cases broken : log.file.isBroken <;>
      simp [Log.call, openFile, withFile, broken]
  · rfl
  · rfl
  · rfl

theorem encoding_run {calls : List LogCall} :
    (log.run calls).file.encoding = log.file.encoding := by
  induction calls generalizing log with
  | nil => rfl
  | cons call rest inductionHypothesis => exact inductionHypothesis.trans encoding_call

@[simp] theorem takes_nil : log.Takes [] := nofun

theorem takes_cons :
    log.Takes (call :: rest) ↔ log.answer call = .ok () ∧ (log.call call).Takes rest := by
  rw [Takes, answers, List.forall_mem_cons]
  rfl

/-- A log that can encode every text refuses nothing. -/
theorem takes_of_represents (represents : ∀ text, log.file.encoding.Represents text) :
    log.Takes first := by
  induction first generalizing log with
  | nil => exact takes_nil
  | cons call rest inductionHypothesis =>
      refine takes_cons.2 ⟨?_, inductionHypothesis (by rwa [encoding_call])⟩
      cases call with
      | control control => rfl
      | write row =>
          exact (tryWrite_fst_eq_ok_iff _).2 fun _ _ =>
            ⟨represents row.event, represents row.detail⟩

theorem takes_append :
    log.Takes (first ++ second) ↔ log.Takes first ∧ (log.run first).Takes second := by
  rw [Takes, answers_append, List.forall_mem_append]
  rfl

end Log

/-! ## Answers -/

/-- What an operation answers: whether the session goes on, the polls that were not made, or why it
was broken off. -/
inductive Answer where
  | done (result : Except SessionFault Unit)
  | key (goesOn : Bool)
  | keys (goesOn : Bool) (unread : List KeyPoll)
  | finish (goesOn : Except SessionFault Bool)

namespace Session

def answer (session : Session) : Operation → Answer
  | .tick loudness => .done (session.tryTick loudness).1
  | .key event => .key (session.handleKey event).1
  | .keys polls => .keys (session.handleKeys polls).1 (session.handleKeys polls).2.2
  | .finish outcome text => .finish (session.finishEdit outcome text).1

/-! ## Rows of operations -/

def row (session : Session) (event detail : String) : LogRow := ⟨session.frame, event, detail⟩

/-- A text that is refused is told with its error. -/
def loadRows (session : Session) (source : String) : List LogRow :=
  match Script.compile source with
  | .error (.refused cause) => [session.row "compile_error" cause.message]
  | _ => []

/-- A text that ends an edit is told before it is loaded, unless the log refuses it. -/
def replaceRows (session : Session) (event source : String) : List LogRow :=
  session.row event source ::
    match (session.tryNote event source).1 with
    | .ok () => session.loadRows source
    | .error _ => []

/-- A new session tells its first script, which compiles. -/
def startRow : LogRow := ⟨0, "start", firstPattern⟩

/-- A tick tells the cell that fails. -/
def tickRows (session : Session) (loudness : Float) : List LogRow :=
  match session.mode with
  | .editing _ _ => []
  | .running script start _ =>
      let time := session.clock.read.1 - start
      match (script.evaluateFrame session.canvas time loudness session.random).1 with
      | .ok _ => []
      | .error fault => [session.row "eval_error" fault.message]

/-- A digit with a built-in script tells its number. -/
def patternRows (session : Session) (digit : Nat) : List LogRow :=
  match patterns[digit]? with
  | none => []
  | some _ => [session.row "pattern" (Number.Decimal.numeral digit)]

/-- A key is told if a script runs and the key means anything. -/
def keyRows (session : Session) (event : KeyEvent) : List LogRow :=
  match session.mode with
  | .editing _ _ => []
  | .running _ _ _ =>
      if event.isInterrupt then [session.row "quit" ""]
      else if event.key = .escape then [session.row "edit" ""]
      else
        match event.digit? with
        | some digit => session.patternRows digit
        | none => []

def keysRows (session : Session) : List KeyEvent → List LogRow
  | [] => []
  | event :: rest => session.keyRows event ++ (session.handleKey event).2.keysRows rest

/-- The end of an edit is told with the text that the session is to go on with. -/
def finishRows (session : Session) (outcome : EditOutcome) (text : String) : List LogRow :=
  match session.mode, outcome with
  | .editing _ _, .quit => [session.row "quit" ""]
  | .editing _ _, .submit => session.replaceRows "commit" text
  | .editing source _, .discard => session.replaceRows "discard" source
  | _, _ => []

/-- The rows that an operation gives to the log. -/
def rows (session : Session) : Operation → List LogRow
  | .tick loudness => session.tickRows loudness
  | .key event => session.keyRows event
  | .keys polls => session.keysRows (session.handledKeys polls)
  | .finish outcome text => session.finishRows outcome text

/-! ## Any log -/

/-- A session with another log. -/
def withLog (session : Session) (log : Option Log) : Session := { session with log := log }

/-- The log of a session after rows, if there is one. -/
def logAfter (log : Option Log) (rows : List LogRow) : Option Log := log.map (·.writeRows rows)

/-- The log of a session takes rows, if there is one. -/
def Accepts (log : Option Log) (rows : List LogRow) : Prop :=
  ∀ kept ∈ log, kept.Takes (rows.map .write)

variable {session : Session} {log : Option Log}

@[simp] theorem withLog_withLog {other : Option Log} :
    (session.withLog other).withLog log = session.withLog log := rfl

@[simp] theorem log_withLog : (session.withLog log).log = log := rfl

@[simp] theorem withLog_log : session.withLog session.log = session := rfl

@[simp] theorem logAfter_nil : logAfter log [] = log := by
  cases log <;> rfl

theorem logAfter_append {first second : List LogRow} :
    logAfter log (first ++ second) = logAfter (logAfter log first) second := by
  cases log with
  | none => rfl
  | some log => exact congrArg some Log.writeRows_append

@[simp] theorem accepts_none {rows : List LogRow} : Accepts none rows := nofun

@[simp] theorem accepts_nil : Accepts log [] := fun _ _ => Log.takes_nil

theorem accepts_append {first second : List LogRow} :
    Accepts log (first ++ second) ↔ Accepts log first ∧ Accepts (logAfter log first) second := by
  cases log with
  | none => simp [logAfter]
  | some log => simp [Accepts, logAfter, Log.takes_append, Log.writeRows]

theorem accepts_cons {row : LogRow} {rest : List LogRow} :
    Accepts log (row :: rest) ↔ Accepts log [row] ∧ Accepts (logAfter log [row]) rest :=
  @accepts_append log [row] rest

/-! ## Events -/

theorem note_withLog {event detail : String} :
    (session.withLog log).note event detail =
      session.withLog (logAfter log [session.row event detail]) := by
  rw [note_eq]
  rfl

theorem log_note {event detail : String} :
    (session.note event detail).log = logAfter session.log [session.row event detail] := by
  rw [note_eq]
  rfl

/-- An event is told exactly if the log takes its row. -/
theorem tryNote_withLog_fst_eq_ok_iff {event detail : String} :
    ((session.withLog log).tryNote event detail).1 = .ok () ↔
      Accepts log [session.row event detail] := by
  cases log with
  | none => simp [tryNote, withLog]
  | some log =>
      simp only [tryNote, withLog, Accepts, Option.mem_some_iff, forall_eq', List.map_cons,
        List.map_nil, Log.takes_cons, Log.takes_nil, and_true, Log.answer, row]
      cases (log.tryWrite session.frame event detail).1 <;> simp [Except.mapError]

/-- Plain rows are taken by every log. -/
theorem accepts_of_isPlain {event detail : String} (plainEvent : IsPlain event)
    (plainDetail : IsPlain detail) : Accepts log [session.row event detail] := by
  intro kept member
  refine Log.takes_cons.2 ⟨(Log.tryWrite_fst_eq_ok_iff _).2 fun _ _ => ?_, Log.takes_nil⟩
  exact ⟨Encoding.represents_of_isPlain plainEvent, Encoding.represents_of_isPlain plainDetail⟩

/-! ## Ticks -/

theorem tick_withLog {loudness : Float} :
    (session.withLog log).tick loudness =
      (session.tick loudness).withLog (logAfter log (session.tickRows loudness)) := by
  obtain ⟨clock, ownLog, random, frame, canvas, mode⟩ := session
  unfold tick tryTick tickRows withLog
  cases mode with
  | editing source error =>
      dsimp only
      rw [logAfter_nil]
  | running script start source =>
      dsimp only
      rcases script.evaluateFrame canvas (clock.read.1 - start) loudness random with
        ⟨fault | canvas, random⟩
      · dsimp only
        rw [← note, ← note, note_eq, note_eq]
        rfl
      · dsimp only
        rw [logAfter_nil]

theorem log_tick {loudness : Float} :
    (session.tick loudness).log = logAfter session.log (session.tickRows loudness) := by
  have same : (session.withLog session.log).tick loudness = session.tick loudness := rfl
  rw [← same, tick_withLog, log_withLog]

/-- A frame that fails breaks the tick off exactly if the log refuses its row. -/
theorem tryTick_withLog_fst_eq_ok_iff {loudness : Float} :
    ((session.withLog log).tryTick loudness).1 = .ok () ↔
      Accepts log (session.tickRows loudness) := by
  obtain ⟨clock, ownLog, random, frame, canvas, mode⟩ := session
  unfold tryTick tickRows withLog
  cases mode with
  | editing source error => simp
  | running script start source =>
      dsimp only
      rcases script.evaluateFrame canvas (clock.read.1 - start) loudness random with
        ⟨fault | canvas, next⟩
      · exact @tryNote_withLog_fst_eq_ok_iff ⟨clock.read.2, ownLog, next, frame, canvas,
          .editing source (some fault.message)⟩ log "eval_error" fault.message
      · simp

/-! ## Keys -/

theorem loadPattern_withLog {digit : Nat} :
    (session.withLog log).loadPattern digit =
      (session.loadPattern digit).withLog (logAfter log (session.patternRows digit)) := by
  unfold loadPattern patternRows
  cases found : patterns[digit]? with
  | none =>
      dsimp only
      rw [logAfter_nil]
  | some source =>
      obtain ⟨script, compiled, -⟩ := Script.evaluate_pattern_ok (List.mem_of_getElem? found)
      dsimp only
      rw [load_of_ok compiled, load_of_ok compiled, note_withLog, note_eq]
      rfl

theorem handleKey_withLog {event : KeyEvent} :
    (session.withLog log).handleKey event =
      ((session.handleKey event).1,
        (session.handleKey event).2.withLog (logAfter log (session.keyRows event))) := by
  have sameMode : (session.withLog log).mode = session.mode := rfl
  unfold handleKey keyRows
  rw [sameMode]
  cases session.mode with
  | editing source error =>
      dsimp only
      rw [logAfter_nil]
  | running script start source =>
      dsimp only
      by_cases interrupts : event.isInterrupt = true
      · rw [if_pos interrupts, if_pos interrupts, if_pos interrupts, note_eq, note_eq]
        rfl
      · rw [if_neg interrupts, if_neg interrupts, if_neg interrupts]
        by_cases escapes : event.key = .escape
        · rw [if_pos escapes, if_pos escapes, if_pos escapes, note_eq, note_eq]
          rfl
        · rw [if_neg escapes, if_neg escapes, if_neg escapes]
          cases event.digit? with
          | none =>
              dsimp only
              rw [logAfter_nil]
          | some digit =>
              dsimp only
              rw [loadPattern_withLog]

theorem handleKeys_withLog {polls : List KeyPoll} :
    (session.withLog log).handleKeys polls =
      ((session.handleKeys polls).1,
        (session.handleKeys polls).2.1.withLog
          (logAfter log (session.keysRows (session.handledKeys polls))),
        (session.handleKeys polls).2.2) := by
  induction polls generalizing session log with
  | nil =>
      rw [handledKeys, keysRows, logAfter_nil]
      rfl
  | cons poll rest inductionHypothesis =>
      have sameRunning : (session.withLog log).isRunning = session.isRunning := rfl
      rw [handleKeys.eq_def, handleKeys.eq_def session, handledKeys.eq_def]
      dsimp only
      rw [sameRunning]
      by_cases running : session.isRunning = true
      · rw [if_pos running, if_pos running, if_pos running]
        cases poll with
        | ignored => exact inductionHypothesis
        | idle =>
            dsimp only
            rw [keysRows, logAfter_nil]
        | event event =>
            dsimp only
            rw [handleKey_withLog]
            rcases handled : session.handleKey event with ⟨_ | _, next⟩
            · dsimp only
              rw [keysRows, keysRows, List.append_nil]
            · dsimp only
              rw [inductionHypothesis, keysRows, handled, logAfter_append]
      · rw [if_neg running, if_neg running, if_neg running]
        rw [keysRows, logAfter_nil]

/-- The rows of keys are plain. -/
theorem accepts_keyRows (event : KeyEvent) : Accepts log (session.keyRows event) := by
  unfold keyRows patternRows
  split
  · exact accepts_nil
  · split
    · exact accepts_of_isPlain (by decide) (by decide)
    · split
      · exact accepts_of_isPlain (by decide) (by decide)
      · split
        · split
          · exact accepts_nil
          · exact accepts_of_isPlain (by decide) (isPlain_numeral _)
        · exact accepts_nil

theorem accepts_keysRows (events : List KeyEvent) : Accepts log (session.keysRows events) := by
  induction events generalizing session log with
  | nil => exact accepts_nil
  | cons event rest inductionHypothesis =>
      exact accepts_append.2 ⟨accepts_keyRows event, inductionHypothesis⟩

/-! ## Ends of edits -/

section Finish

variable {event source text : String} {outcome : EditOutcome}

theorem tryNote_fst_of_log_eq_none {detail : String} (noLog : session.log = none) :
    (session.tryNote event detail).1 = .ok () := by
  rw [tryNote, noLog]

theorem note_of_log_eq_none {detail : String} (noLog : session.log = none) :
    session.note event detail = session := by
  rw [note, tryNote, noLog]

/-- A text that is refused is told, and any other is not. -/
theorem tryLoad_withLog (noLog : session.log = none)
    (accepts : Accepts log (session.loadRows source)) :
    (session.withLog log).tryLoad source =
      ((session.tryLoad source).1,
        (session.tryLoad source).2.withLog (logAfter log (session.loadRows source))) := by
  unfold loadRows at accepts ⊢
  cases compiled : Script.compile source with
  | ok script =>
      rw [tryLoad_of_ok compiled, tryLoad_of_ok compiled, logAfter_nil]
      rfl
  | error fault =>
      cases fault with
      | reserved target =>
          rw [tryLoad_of_reserved compiled, tryLoad_of_reserved compiled, logAfter_nil]
          rfl
      | refused cause =>
          rw [compiled] at accepts
          have noLogRead : session.afterReading.log = none := noLog
          have told : ((session.withLog log).afterReading.tryNote "compile_error"
              cause.message).1 = .ok () :=
            (@tryNote_withLog_fst_eq_ok_iff session.afterReading log _ _).2 accepts
          rw [tryLoad_of_refused compiled, tryLoad_of_refused compiled, told,
            tryNote_fst_of_log_eq_none noLogRead, note_eq, note_eq]
          rfl

/-- A refusal breaks the call off exactly if the log refuses its row. -/
theorem accepts_loadRows_of_tryLoad (noLog : session.log = none)
    (same : ((session.withLog log).tryLoad source).1 = (session.tryLoad source).1) :
    Accepts log (session.loadRows source) := by
  unfold loadRows
  split
  · rename_i cause compiled
    have noLogRead : session.afterReading.log = none := noLog
    refine (@tryNote_withLog_fst_eq_ok_iff session.afterReading log _ _).1 ?_
    rw [tryLoad_of_refused compiled, tryLoad_of_refused compiled,
      tryNote_fst_of_log_eq_none noLogRead] at same
    cases told : ((session.withLog log).afterReading.tryNote "compile_error" cause.message).1 with
    | ok => exact told
    | error fault =>
        rw [told] at same
        cases same
  · exact accepts_nil

theorem replaceRows_of_log_eq_none (noLog : session.log = none) :
    session.replaceRows event source = session.row event source :: session.loadRows source := by
  rw [replaceRows, tryNote_fst_of_log_eq_none noLog]

/-- A session without a log goes on with a text at once. -/
theorem tryReplace_of_log_eq_none (noLog : session.log = none) :
    session.tryReplace event source = session.tryLoad source := by
  rw [tryReplace_eq, tryNote_fst_of_log_eq_none noLog, note_of_log_eq_none noLog]

theorem tryReplace_withLog (noLog : session.log = none)
    (accepts : Accepts log (session.replaceRows event source)) :
    (session.withLog log).tryReplace event source =
      ((session.tryReplace event source).1,
        (session.tryReplace event source).2.withLog
          (logAfter log (session.replaceRows event source))) := by
  rw [replaceRows_of_log_eq_none noLog] at accepts ⊢
  obtain ⟨takesFirst, takesRest⟩ := accepts_cons.1 accepts
  rw [tryReplace_eq, tryNote_withLog_fst_eq_ok_iff.2 takesFirst, note_withLog,
    tryReplace_of_log_eq_none noLog]
  dsimp only
  rw [tryLoad_withLog noLog takesRest, ← logAfter_append, List.singleton_append]

theorem accepts_replaceRows_of_tryReplace (noLog : session.log = none)
    (same : ((session.withLog log).tryReplace event source).1 =
      (session.tryReplace event source).1) :
    Accepts log (session.replaceRows event source) := by
  rw [replaceRows_of_log_eq_none noLog, accepts_cons]
  rw [tryReplace_eq, tryReplace_of_log_eq_none noLog, note_withLog] at same
  cases told : ((session.withLog log).tryNote event source).1 with
  | ok =>
      rw [told] at same
      exact ⟨tryNote_withLog_fst_eq_ok_iff.1 told, accepts_loadRows_of_tryLoad noLog same⟩
  | error fault =>
      rw [told] at same
      obtain ⟨cause, rfl⟩ := eq_unencodable_of_tryNote told
      -- Without a log nothing is refused for its encoding.
      have loads := session.loads_load source
      rw [← same] at loads
      generalize session.load source = after at loads
      cases loads with
      | untold refused untold =>
          have noLogRead : session.afterReading.log = none := noLog
          rw [tryNote_fst_of_log_eq_none noLogRead] at untold
          cases untold

theorem finishEdit_withLog (noLog : session.log = none)
    (accepts : Accepts log (session.finishRows outcome text)) :
    (session.withLog log).finishEdit outcome text =
      ((session.finishEdit outcome text).1,
        (session.finishEdit outcome text).2.withLog
          (logAfter log (session.finishRows outcome text))) := by
  have sameMode : (session.withLog log).mode = session.mode := rfl
  unfold finishEdit finishRows at *
  rw [sameMode]
  cases mode : session.mode with
  | running script start source =>
      dsimp only
      rw [logAfter_nil]
  | editing source error =>
      rw [mode] at accepts
      cases outcome with
      | proceed =>
          dsimp only
          rw [logAfter_nil]
      | quit => exact congrArg (Prod.mk _) (note_withLog.trans (by rw [note_of_log_eq_none noLog]))
      | submit =>
          dsimp only at accepts ⊢
          rw [tryReplace_withLog noLog accepts]
          rcases session.tryReplace "commit" text with ⟨fault | ⟨⟩, next⟩ <;> rfl
      | discard =>
          dsimp only at accepts ⊢
          rw [tryReplace_withLog noLog accepts]

theorem map_true_inj {first second : Except SessionFault Unit}
    (same : (first.map fun _ => true) = second.map fun _ => true) : first = second := by
  rcases first with fault | ⟨⟩ <;> rcases second with cause | ⟨⟩ <;> cases same <;> rfl

theorem accepts_finishRows_of_finishEdit (noLog : session.log = none)
    (same : ((session.withLog log).finishEdit outcome text).1 =
      (session.finishEdit outcome text).1) :
    Accepts log (session.finishRows outcome text) := by
  unfold finishRows
  split
  · exact accepts_of_isPlain (by decide) (by decide)
  · rename_i edits
    have sameEdits : (session.withLog log).mode = _ := edits
    rw [finishEdit_submit sameEdits, finishEdit_submit edits] at same
    exact accepts_replaceRows_of_tryReplace noLog (map_true_inj same)
  · rename_i edits
    have sameEdits : (session.withLog log).mode = _ := edits
    rw [finishEdit_discard sameEdits, finishEdit_discard edits] at same
    exact accepts_replaceRows_of_tryReplace noLog (map_true_inj same)
  · exact accepts_nil

end Finish

/-! ## Operations -/

variable {operation : Operation}

/-- An operation does the same with any log that takes its rows. -/
theorem perform_withLog (noLog : session.log = none)
    (accepts : Accepts log (session.rows operation)) :
    (session.withLog log).perform operation =
      (session.perform operation).withLog (logAfter log (session.rows operation)) := by
  cases operation with
  | tick loudness => exact tick_withLog
  | key event => exact congrArg Prod.snd handleKey_withLog
  | keys polls => exact congrArg (fun result => result.2.1) handleKeys_withLog
  | finish outcome text => exact congrArg Prod.snd (finishEdit_withLog noLog accepts)

/-- An operation answers the same exactly with a log that takes its rows. -/
theorem answer_withLog_eq_iff (noLog : session.log = none) :
    (session.withLog log).answer operation = session.answer operation ↔
      Accepts log (session.rows operation) := by
  cases operation with
  | tick loudness =>
      have silent : (session.tryTick loudness).1 = .ok () := by
        have same : session.withLog none = session := by rw [← noLog, withLog_log]
        rw [← same]
        exact tryTick_withLog_fst_eq_ok_iff.2 accepts_none
      rw [answer, answer, silent, Answer.done.injEq, tryTick_withLog_fst_eq_ok_iff, rows]
  | key event =>
      rw [answer, handleKey_withLog]
      exact iff_of_true rfl (accepts_keyRows event)
  | keys polls =>
      rw [answer, handleKeys_withLog]
      exact iff_of_true rfl (accepts_keysRows _)
  | finish outcome text =>
      rw [answer, answer, Answer.finish.injEq]
      refine ⟨accepts_finishRows_of_finishEdit noLog, fun accepts => ?_⟩
      rw [finishEdit_withLog noLog accepts]

/-! ## The own log -/

theorem log_tryLoad {source : String} :
    (session.tryLoad source).2.log = logAfter session.log (session.loadRows source) := by
  rcases loaded : session.tryLoad source with ⟨result, after⟩
  unfold loadRows
  cases loads_of_tryLoad loaded with
  | runs compiled => rw [compiled, logAfter_nil]; rfl
  | reserved breaksOff => rw [breaksOff, logAfter_nil]; rfl
  | edited refused told => rw [refused]; exact log_note
  | untold refused untold => rw [refused]; exact log_note

theorem log_tryReplace {event source : String} :
    (session.tryReplace event source).2.log =
      logAfter session.log (session.replaceRows event source) := by
  rw [tryReplace_eq, replaceRows]
  cases (session.tryNote event source).1 with
  | error fault => exact log_note
  | ok =>
      have sameRows : (session.note event source).loadRows source = session.loadRows source := by
        simp only [loadRows, row, note_frame]
      dsimp only
      rw [log_tryLoad, log_note, sameRows, ← logAfter_append, List.singleton_append]

theorem log_finishEdit {outcome : EditOutcome} {text : String} :
    (session.finishEdit outcome text).2.log =
      logAfter session.log (session.finishRows outcome text) := by
  unfold finishEdit finishRows
  cases session.mode with
  | running script start source => exact logAfter_nil.symm
  | editing source error =>
      cases outcome with
      | proceed => exact logAfter_nil.symm
      | quit => exact log_note
      | discard => exact log_tryReplace
      | submit =>
          have replaced : (session.tryReplace "commit" text).2.log = _ := log_tryReplace
          dsimp only
          rw [← replaced]
          rcases session.tryReplace "commit" text with ⟨fault | ⟨⟩, next⟩ <;> rfl

/-- Nothing but the rows of an operation happens to the log. -/
theorem log_perform : (session.perform operation).log =
    logAfter session.log (session.rows operation) := by
  cases operation with
  | tick loudness => exact log_tick
  | key event =>
      have same := congrArg (fun result => result.2.log)
        (@handleKey_withLog session session.log event)
      exact same
  | keys polls =>
      have same := congrArg (fun result => result.2.1.log)
        (@handleKeys_withLog session session.log polls)
      exact same
  | finish outcome text => exact log_finishEdit

/-! ## Logs that take every row -/

/-- The log of a session can encode every text, if there is one. -/
def Encodes (session : Session) : Prop :=
  ∀ kept ∈ session.log, ∀ text, kept.file.encoding.Represents text

theorem Encodes.of_log {other : Session} (encodes : session.Encodes)
    (same : other.log = session.log) : other.Encodes := by
  unfold Encodes
  rw [same]
  exact encodes

theorem Encodes.logAfter {other : Session} {rows : List LogRow} (encodes : session.Encodes)
    (written : other.log = logAfter session.log rows) : other.Encodes := by
  intro kept member text
  rw [written] at member
  obtain ⟨log, isLog, rfl⟩ := Option.map_eq_some_iff.1 member
  have sameEncoding : (log.writeRows rows).file.encoding = log.file.encoding :=
    Log.encoding_run
  rw [sameEncoding]
  exact encodes log isLog text

theorem Encodes.perform (encodes : session.Encodes) (operation : Operation) :
    (session.perform operation).Encodes := encodes.logAfter log_perform

theorem Encodes.run (encodes : session.Encodes) (operations : List Operation) :
    (session.run operations).Encodes := by
  induction operations generalizing session with
  | nil => exact encodes
  | cons operation rest inductionHypothesis => exact inductionHypothesis (encodes.perform operation)

/-- Such a log refuses nothing. -/
theorem Encodes.tryNote_fst (encodes : session.Encodes) (event detail : String) :
    (session.tryNote event detail).1 = .ok () := by
  exact tryNote_withLog_fst_eq_ok_iff.2 fun kept member =>
    Log.takes_of_represents (encodes kept member)

/-! ## A new session -/

theorem start_withLog {clock : Clock} {random : Script.RandomStream} :
    Session.start clock log random =
      (Session.start clock none random).withLog (logAfter log [startRow]) := by
  obtain ⟨script, compiled, -⟩ := exists_start_eq clock log random
  unfold start
  rw [load_of_ok compiled, load_of_ok compiled, note_eq, note_eq]
  rfl

theorem encodes_start {clock : Clock} {random : Script.RandomStream}
    (encodes : ∀ kept ∈ log, ∀ text, kept.file.encoding.Represents text) :
    (Session.start clock log random).Encodes := by
  have idles : ((idle clock none random).withLog log).Encodes := encodes
  have started : (Session.start clock log random).log = Session.logAfter log [startRow] := by
    rw [start_withLog, log_withLog]
  exact idles.logAfter started

/-- The first script is plain. -/
theorem accepts_startRow : Accepts log [startRow] :=
  @accepts_of_isPlain (idle (.still 0) none ⟨fun _ => 0, 0⟩) log _ _ (by decide) (by decide)

end Session

end LiveGrid
