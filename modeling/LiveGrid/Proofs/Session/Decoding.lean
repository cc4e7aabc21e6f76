import LiveGrid.Proofs.Session.Frames

/-!
Contract: the file of a log tells what was written while the log was open.

Owns:
- the rows that an open log takes of its calls, with their times, which are those that its file's
  encoding represents;
- the text of the file after the latest successful opening, and what is read back from it, also if
  the file breaks in the middle of a row;
- the frames in the rows of a session, which are the ticks that succeeded before.

Does not own: which events there are.
-/

namespace LiveGrid

/-- A row with the time at which it is written. -/
structure TimedRow where
  time : Float
  row : LogRow

def TimedRow.fields (entry : TimedRow) : List String :=
  Log.row entry.time entry.row.frame entry.row.event entry.row.detail

/-- An encoding represents a row, as the numerals in it are plain. -/
def LogRow.IsEncodable (encoding : Encoding) (row : LogRow) : Prop :=
  encoding.Represents row.event ∧ encoding.Represents row.detail

instance {encoding : Encoding} {row : LogRow} : Decidable (row.IsEncodable encoding) :=
  inferInstanceAs (Decidable (_ ∧ _))

namespace LogCall

abbrev opens : LogCall := .control (.openFile true)

/-- Whether an open log with a whole file stays so. -/
def keepsOpen : LogCall → Bool
  | .write _ => true
  | .control (.setClock _) => true
  | .control _ => false

end LogCall

namespace Log

/-- The text of rows under the names of the columns. -/
def textOf (entries : List TimedRow) : String :=
  String.join ((header :: entries.map TimedRow.fields).map Text.Csv.writeRow)

/-- The rows that an open log takes of calls, until it is closed, cannot be opened again or has its
file broken. Every row reads the clock, also one that the encoding does not represent. -/
def taken (encoding : Encoding) (start : Float) (clock : Clock) : List LogCall → List TimedRow
  | [] => []
  | .write row :: rest =>
      if row.IsEncodable encoding then
        ⟨clock.read.1 - start, row⟩ :: taken encoding start clock.read.2 rest
      else taken encoding start clock.read.2 rest
  | .control (.setClock other) :: rest => taken encoding start other rest
  | .control _ :: _ => []

/-- A text tells rows: it is their text, and they are read back from it. -/
structure Tells (text : Option String) (entries : List TimedRow) : Prop where
  eq_textOf : text = some (textOf entries)
  readBack : text.bind Text.Csv.rows? = some (header :: entries.map TimedRow.fields)

variable {log : Log} {text : Option String} {entries : List TimedRow} {calls : List LogCall}

/-! ## Rows that are taken -/

theorem row_taken (encoding : Encoding) (start : Float) (clock : Clock) :
    (taken encoding start clock calls).map TimedRow.row =
      ((calls.takeWhile LogCall.keepsOpen).filterMap LogCall.row?).filter
        fun row => decide (row.IsEncodable encoding) := by
  induction calls generalizing clock with
  | nil => rfl
  | cons call rest inductionHypothesis =>
      rcases call with row | canOpen | _ | _ | other
      · have told : ((LogCall.write row :: rest).takeWhile LogCall.keepsOpen).filterMap
            LogCall.row? = row :: (rest.takeWhile LogCall.keepsOpen).filterMap LogCall.row? := rfl
        rw [told, taken]
        by_cases isEncodable : row.IsEncodable encoding
        · rw [if_pos isEncodable, List.filter_cons_of_pos (by simpa using isEncodable),
            ← inductionHypothesis]
          rfl
        · rw [if_neg isEncodable, List.filter_cons_of_neg (by simpa using isEncodable),
            inductionHypothesis]
      · rfl
      · rfl
      · rfl
      · show (taken encoding start other rest).map TimedRow.row = _
        rw [inductionHypothesis]
        rfl

/-! ## The text of a file -/

theorem textOf_append {entry : TimedRow} :
    textOf (entries ++ [entry]) = textOf entries ++ Text.Csv.writeRow entry.fields := by
  simp [textOf, String.append_assoc]

theorem tells_nil : Tells (some (Text.Csv.writeRow header)) [] := by
  have alone : textOf [] = Text.Csv.writeRow header := by
    rw [textOf, List.map_nil, List.map_cons, List.map_nil, String.join_cons, String.join_nil,
      String.append_empty]
  refine ⟨congrArg some alone.symm, ?_⟩
  rw [Option.bind_some]
  exact Text.Csv.rows?_writeRow

/-- A row that is put behind the text is told after the others. -/
theorem Tells.append {entry : TimedRow} (tells : Tells text entries) :
    Tells (some (text.getD "" ++ Text.Csv.writeRow entry.fields)) (entries ++ [entry]) := by
  obtain ⟨rfl, readBack⟩ := tells
  have readOn : Text.Csv.rows? (textOf entries ++ Text.Csv.writeRow entry.fields) =
      some ((header :: entries.map TimedRow.fields) ++ [entry.fields]) :=
    Text.Csv.rows?_append_writeRow readBack
  refine ⟨congrArg some textOf_append.symm, ?_⟩
  rw [Option.getD_some, Option.bind_some, readOn, List.map_append]
  rfl

/-! ## Calls of a log that takes nothing -/

/-- The log takes no rows: it is not open, or its file is broken. -/
def IsIdle (log : Log) : Prop := log.isOpen = false ∨ log.file.isBroken = true

/-- Nothing but opening the file changes its text then. -/
theorem IsIdle.call (idle : log.IsIdle) {call : LogCall} (noOpening : call ≠ .opens) :
    (log.call call).IsIdle ∧ (log.call call).file.text = log.file.text := by
  rcases call with row | canOpen | _ | _ | clock
  · rcases idle with closed | broken
    · have unchanged : log.call (.write row) = log := by
        rw [Log.call, write, tryWrite_of_closed row.frame closed]
      rw [unchanged]
      exact ⟨.inl closed, rfl⟩
    · refine ⟨.inr (isBroken_call_of_isBroken broken), ?_⟩
      cases isOpen : log.isOpen with
      | false => rw [Log.call, write, tryWrite_of_closed row.frame isOpen]
      | true => rw [Log.call, write, tryWrite_of_broken row.frame isOpen broken]
  · cases canOpen with
    | true => exact absurd rfl noOpening
    | false => exact ⟨.inl rfl, rfl⟩
  · exact ⟨.inl rfl, rfl⟩
  · exact ⟨.inr rfl, rfl⟩
  · exact ⟨idle, rfl⟩

theorem IsIdle.text_run (idle : log.IsIdle) (noOpening : LogCall.opens ∉ calls) :
    (log.run calls).file.text = log.file.text := by
  induction calls generalizing log with
  | nil => rfl
  | cons call rest inductionHypothesis =>
      rw [List.mem_cons, not_or] at noOpening
      obtain ⟨callIdle, sameText⟩ := idle.call (Ne.symm noOpening.1)
      rw [run_cons, inductionHypothesis callIdle noOpening.2, sameText]

/-! ## Calls of a log that takes rows -/

/-- The log takes rows, and its file tells those that it has taken. -/
structure Holds (log : Log) (entries : List TimedRow) : Prop where
  isOpen : log.isOpen = true
  notBroken : log.file.isBroken = false
  tells : Tells log.file.text entries

theorem Holds.write (holds : log.Holds entries) {row : LogRow}
    (isEncodable : row.IsEncodable log.file.encoding) :
    (log.call (.write row)).Holds (entries ++ [⟨log.clock.read.1 - log.start, row⟩]) ∧
      (log.call (.write row)).start = log.start ∧
      (log.call (.write row)).clock = log.clock.read.2 := by
  obtain ⟨isOpen, notBroken, tells⟩ := holds
  have written : log.call (.write row) =
      { log with
        clock := log.clock.read.2
        file := { log.file with
          text := some (log.file.text.getD "" ++ Text.Csv.writeRow
            (TimedRow.fields ⟨log.clock.read.1 - log.start, row⟩)) } } :=
    congrArg Prod.snd
      (tryWrite_of_represents row.frame isOpen notBroken isEncodable.1 isEncodable.2)
  rw [written]
  exact ⟨⟨isOpen, notBroken, tells.append⟩, rfl, rfl⟩

/-- A row that cannot be encoded is not put into the file. -/
theorem Holds.write_of_not_isEncodable (holds : log.Holds entries) {row : LogRow}
    (lacks : ¬ row.IsEncodable log.file.encoding) :
    (log.call (.write row)).Holds entries ∧ (log.call (.write row)).start = log.start ∧
      (log.call (.write row)).clock = log.clock.read.2 := by
  obtain ⟨isOpen, notBroken, tells⟩ := holds
  obtain ⟨fault, refused⟩ := tryWrite_of_not_represents row.frame isOpen notBroken lacks
  rw [Log.call, Log.write, refused]
  exact ⟨⟨isOpen, notBroken, tells⟩, rfl, rfl⟩

/-- One call after the other: the file tells the rows that were taken before and those that are
taken of the calls. -/
theorem Holds.tells_run (holds : log.Holds entries) (noOpening : LogCall.opens ∉ calls) :
    Tells (log.run calls).file.text
      (entries ++ taken log.file.encoding log.start log.clock calls) := by
  -- The first call that closes the log or breaks its file ends the rows: the log is idle from then.
  induction calls generalizing log entries with
  | nil =>
      rw [taken, List.append_nil]
      exact holds.tells
  | cons call rest inductionHypothesis =>
      rw [List.mem_cons, not_or] at noOpening
      have stopped (idle : (log.call call).IsIdle)
          (sameText : (log.call call).file.text = log.file.text) :
          Tells (log.run (call :: rest)).file.text (entries ++ []) := by
        rw [run_cons, idle.text_run noOpening.2, sameText, List.append_nil]
        exact holds.tells
      rcases call with row | canOpen | _ | _ | clock
      · rw [taken]
        by_cases isEncodable : row.IsEncodable log.file.encoding
        · obtain ⟨holdsRow, sameStart, read⟩ := holds.write isEncodable
          have tellsRest := inductionHypothesis holdsRow noOpening.2
          rw [sameStart, read, encoding_call, List.append_assoc] at tellsRest
          rw [if_pos isEncodable]
          exact tellsRest
        · obtain ⟨holdsRow, sameStart, read⟩ := holds.write_of_not_isEncodable isEncodable
          have tellsRest := inductionHypothesis holdsRow noOpening.2
          rw [sameStart, read, encoding_call] at tellsRest
          rw [if_neg isEncodable]
          exact tellsRest
      · cases canOpen with
        | true => exact absurd rfl noOpening.1
        | false => exact stopped (.inl rfl) rfl
      · exact stopped (.inl rfl) rfl
      · exact stopped (.inr rfl) rfl
      · have holdsClock : (log.call (.control (.setClock clock))).Holds entries :=
          ⟨holds.isOpen, holds.notBroken, holds.tells⟩
        exact inductionHypothesis holdsClock noOpening.2

/-! ## Opening -/

/-- A log that has been opened successfully holds no rows yet. -/
theorem holds_opens (isOpen : (log.call .opens).isOpen = true) : (log.call .opens).Holds [] := by
  have opened : log.call .opens = (log.withFile true).openFile := rfl
  cases notBroken : log.file.isBroken with
  | true =>
      rw [opened] at isOpen
      simp [openFile, withFile, notBroken] at isOpen
  | false =>
      have written : (log.withFile true).openFile.file.text =
          some (Text.Csv.writeRow header) := by
        simp [openFile, withFile, notBroken]
      refine ⟨isOpen, ?_, ?_⟩
      · rw [opened]
        simp [openFile, withFile, notBroken]
      · rw [opened, written]
        exact tells_nil

end Log

namespace LogHandles

variable {state opened : LogHandles} {since : List LogCall}

/-- A log that is made of file operations and has been opened successfully holds no rows yet. -/
theorem holds_opens (steady : state.IsSteady)
    (isOpen : (LogAction.perform .opens state).2.handle?.isSome = true) :
    (LogAction.perform .opens state).2.IsSteady ∧
      (LogAction.perform .opens state).2.toLog.Holds [] := by
  rcases LogAction.performs steady .opens with
    ⟨opened, performed, openedSteady, left⟩ | ⟨opened, performed, openedSteady, left⟩ <;>
  · rw [performed] at isOpen ⊢
    have isOpenLog : opened.toLog.isOpen = true := isOpen
    rw [left] at isOpenLog
    refine ⟨openedSteady, ?_⟩
    show opened.toLog.Holds []
    rw [left]
    exact Log.holds_opens isOpenLog

/-- The call during which a file breaks and those after it leave the text as it was. -/
theorem text_of_performEach (steady : opened.IsSteady) (broken : opened.file.isBroken = true)
    (noOpening : LogCall.opens ∉ since) :
    (LogAction.performEach since opened).2.file.text = opened.file.text := by
  obtain ⟨answers, final, performed, -, leaves⟩ := LogAction.performEach_apply steady since
  have left : final.toLog = opened.toLog.run since := (leaves.eq_run broken).2
  have idle : opened.toLog.IsIdle := .inr broken
  have sameText : (opened.toLog.run since).file.text = opened.toLog.file.text :=
    idle.text_run noOpening
  rw [← left] at sameText
  rw [performed]
  exact sameText

/-- An open log that is made of file operations tells the rows of its calls up to the one during
which its file breaks. -/
theorem tells_of_performEach (steady : opened.IsSteady) (holds : opened.toLog.Holds [])
    (noOpening : LogCall.opens ∉ since) :
    ∃ front back, since = front ++ back ∧
      let whole := (LogAction.performEach front opened).2
      whole.file.isBroken = false ∧
        Log.Tells (LogAction.performEach back whole).2.file.text
          (Log.taken opened.file.encoding opened.start opened.clock front) ∧
        ∀ call rest, back = call :: rest →
          (LogAction.perform call whole).2.file.isBroken = true := by
  obtain ⟨front, back, whole, split, performedFront, wholeSteady, isWhole, left, breaks⟩ :=
    LogAction.performEach_whole steady holds.notBroken since
  rw [split, List.mem_append, not_or] at noOpening
  have told : Log.Tells whole.toLog.file.text
      (Log.taken opened.file.encoding opened.start opened.clock front) := by
    rw [left]
    exact holds.tells_run noOpening.1
  refine ⟨front, back, split, ?_⟩
  rw [performedFront]
  cases back with
  | nil => exact ⟨isWhole, told, nofun⟩
  | cons call rest =>
      obtain ⟨broken, performed, brokenSteady, isBroken, brokenLeft⟩ := breaks call rest rfl
      rw [List.mem_cons, not_or] at noOpening
      have idle : whole.toLog.breakFile.IsIdle := .inr rfl
      have sameText : broken.toLog.file.text = whole.toLog.file.text := by
        rw [brokenLeft, (idle.call (Ne.symm noOpening.2.1)).2]
        rfl
      have finalText := text_of_performEach brokenSteady isBroken noOpening.2.2
      refine ⟨isWhole, ?_, ?_⟩
      · show Log.Tells (LogAction.performEach (call :: rest) whole).2.file.text _
        rw [LogAction.performEach_cons, performed, finalText]
        exact sameText ▸ told
      · rintro _ _ ⟨rfl, rfl⟩
        rw [performed]
        exact isBroken

/-- A log that is made of file operations tells the rows of its calls since its latest successful
opening up to the one during which its file breaks. -/
theorem tells_since_opens (clock : Clock) (file : LogFile) (fuse : Option Nat)
    {before : List LogCall} (latest : LogCall.opens ∉ since) :
    let handles := (LogAction.performEach (before ++ [.opens]) (new clock file fuse)).2
    handles.handle?.isSome = true → ∃ front back, since = front ++ back ∧
      let whole := (LogAction.performEach front handles).2
      whole.file.isBroken = false ∧
        Log.Tells (LogAction.performEach back whole).2.file.text
          (Log.taken file.encoding handles.start handles.clock front) ∧
        ∀ call rest, back = call :: rest →
          (LogAction.perform call whole).2.file.isBroken = true := by
  intro handles isOpen
  have steady : (new clock file fuse).IsSteady := isSteady_new
  have sameEncoding : handles.file.encoding = file.encoding := by
    obtain ⟨answers, final, performed, -, leaves⟩ :=
      LogAction.performEach_apply steady (before ++ [.opens])
    have isFinal : handles = final := congrArg Prod.snd performed
    rw [isFinal]
    exact leaves.encoding_eq
  obtain ⟨answers, between, performed, betweenSteady, -⟩ :=
    LogAction.performEach_apply steady before
  have opening : handles = (LogAction.perform .opens between).2 := by
    show (LogAction.performEach (before ++ [.opens]) _).2 = _
    rw [LogAction.performEach_append, performed]
    rfl
  rw [opening] at isOpen
  obtain ⟨handlesSteady, handlesHold⟩ := holds_opens betweenSteady isOpen
  rw [← opening] at handlesSteady handlesHold
  rw [← sameEncoding]
  exact tells_of_performEach handlesSteady handlesHold latest

end LogHandles

namespace Log

/-- The frames of rows that were taken stand in the order of the calls. -/
theorem pairwise_frames_taken {encoding : Encoding} {start : Float} {clock : Clock}
    (sorted : (LogCall.frames calls).Pairwise (· ≤ ·)) :
    ((taken encoding start clock calls).map fun entry => entry.row.frame).Pairwise (· ≤ ·) := by
  have frames : (taken encoding start clock calls).map (fun entry => entry.row.frame) =
      ((taken encoding start clock calls).map TimedRow.row).map LogRow.frame := by
    rw [List.map_map]
    rfl
  have rows : ((taken encoding start clock calls).map TimedRow.row).Sublist
      (calls.filterMap LogCall.row?) := by
    rw [row_taken]
    exact List.filter_sublist.trans ((List.takeWhile_sublist _).filterMap _)
  rw [frames]
  exact sorted.sublist (rows.map _)

/-- The file of a log tells what was written since it was last opened successfully: its text is that
of the names of the columns and of the rows that were taken since, which are read back from it. They
are the rows that the encoding of the file represents. Nothing is written while the log is not open.
If the operations with the file are refused from some point on, be it in the middle of a row, the
rows are those of the calls that found the file whole. In a session the frame of a row is the number
of ticks that succeeded before, so that it never decreases within an opening. -/
theorem tells_run_of_opens (clock : Clock) (file : LogFile) {before since : List LogCall}
    (successful : ((Log.new clock file).run (before ++ [.opens])).isOpen = true)
    (latest : LogCall.opens ∉ since) :
    let opened := (Log.new clock file).run (before ++ [.opens])
    let entries := taken file.encoding opened.start opened.clock since
    Tells (opened.run since).file.text entries ∧
      entries.map TimedRow.row =
        ((since.takeWhile LogCall.keepsOpen).filterMap LogCall.row?).filter
          (fun row => decide (row.IsEncodable file.encoding)) ∧
      (∀ (log : Log) (calls : List LogCall), log.isOpen = false → LogCall.opens ∉ calls →
        (log.run calls).file.text = log.file.text) ∧
      (∀ fuse : Option Nat,
        let handles :=
          (LogAction.performEach (before ++ [.opens]) (LogHandles.new clock file fuse)).2
        handles.handle?.isSome = true → ∃ front back, since = front ++ back ∧
          let whole := (LogAction.performEach front handles).2
          whole.file.isBroken = false ∧
            Tells (LogAction.performEach back whole).2.file.text
              (taken file.encoding handles.start handles.clock front) ∧
            ∀ call rest, back = call :: rest →
              (LogAction.perform call whole).2.file.isBroken = true) ∧
      ∀ (sessionClock : Clock) (random : Script.RandomStream) (earlier : List LogControl)
        (steps : List SessionStep),
        let log := (Log.new clock file).run (earlier.map .control)
        let session := Session.start sessionClock (some log) random
        let calls := earlier.map .control ++ .write Session.startRow :: session.logCalls steps
        (session.runSteps steps).log = some ((Log.new clock file).run calls) ∧
          (∀ done operation rest, steps = done ++ .operate operation :: rest →
            ∀ row ∈ (session.runSteps done).rows operation, row.frame = session.ticksMade done) ∧
          (calls = before ++ .opens :: since →
            (entries.map fun entry => entry.row.frame).Pairwise (· ≤ ·)) := by
  intro opened entries
  have holds : opened.Holds [] := by
    have called : opened = ((Log.new clock file).run before).call .opens := run_append
    have isOpen : opened.isOpen = true := successful
    rw [called] at isOpen ⊢
    exact holds_opens isOpen
  have encoding : opened.file.encoding = file.encoding := encoding_run
  have rows : entries.map TimedRow.row =
    ((since.takeWhile LogCall.keepsOpen).filterMap LogCall.row?).filter
      fun row => decide (row.IsEncodable file.encoding) := row_taken _ _ _
  refine ⟨?_, rows, fun log calls closed noOpening => ?_,
    fun fuse => LogHandles.tells_since_opens clock file fuse latest,
    fun sessionClock random earlier steps => ⟨?_, ?_, fun same => ?_⟩⟩
  · have tells := holds.tells_run latest
    rw [encoding] at tells
    exact tells
  · exact IsIdle.text_run (.inl closed) noOpening
  · rw [Session.log_runSteps_start, Option.map_some, run_append]
  · rintro done operation rest - row member
    exact Session.frame_eq_ticksMade member
  · have whole : (LogCall.frames (before ++ .opens :: since)).Pairwise (· ≤ ·) := by
      rw [← same]
      exact Session.pairwise_frames_start earlier steps
    have later : since.Sublist (before ++ .opens :: since) :=
      (List.sublist_cons_self _ _).trans (List.sublist_append_right _ _)
    exact pairwise_frames_taken (whole.sublist ((later.filterMap _).map _))

/-- Quotation marks, a comma and a line end in a detail, and a row that is lost when the file
breaks; and a session whose log is opened before its start. -/
theorem tells_run_of_opens_quoted :
    let clock := Clock.still 0
    let file : LogFile := { text := some "old" }
    let opened := (Log.new clock file).run ([] ++ [.opens])
    let since : List LogCall :=
      [.write ⟨0, "commit", "a,\"b\"\r\n"⟩, .write ⟨1, "quit", ""⟩, .control .breakFile,
        .write ⟨1, "edit", ""⟩]
    let startOnly : List LogCall := [.write Session.startRow, .control .closeFile]
    opened.isOpen = true ∧ LogCall.opens ∉ since ∧ LogCall.opens ∉ startOnly ∧
      (opened.run since).file.text.bind Text.Csv.rows? =
        some [header, row (0 - 0) 0 "commit" "a,\"b\"\r\n", row (0 - 0) 1 "quit" ""] ∧
      ∀ random,
        let session := Session.start (Clock.still 0) (some opened) random
        (session.runSteps [.logger .closeFile]).log = some (opened.run startOnly) ∧
          ((taken file.encoding opened.start opened.clock startOnly).map fun entry =>
            entry.row.frame).Pairwise (· ≤ ·) := by
  intro clock file opened since startOnly
  have isOpen : opened.isOpen = true := rfl
  have noOpening : LogCall.opens ∉ since := by simp [since, LogCall.opens]
  have noSecond : LogCall.opens ∉ startOnly := by simp [startOnly, LogCall.opens]
  obtain ⟨tells, -, -, -, -⟩ := tells_run_of_opens clock file isOpen noOpening
  obtain ⟨-, -, -, -, sessions⟩ := tells_run_of_opens clock file isOpen noSecond
  have isOpened : (Log.new clock file).run ([] ++ [.opens]) = opened := rfl
  rw [isOpened] at tells
  have all : ∀ row : LogRow, row.IsEncodable file.encoding := fun row =>
    ⟨Encoding.unicode_represents row.event, Encoding.unicode_represents row.detail⟩
  refine ⟨isOpen, noOpening, noSecond, ?_, fun random => ?_⟩
  · have isTaken : taken file.encoding opened.start opened.clock since =
        [⟨0 - 0, ⟨0, "commit", "a,\"b\"\r\n"⟩⟩, ⟨0 - 0, ⟨1, "quit", ""⟩⟩] := by
      show taken _ _ _ (.write _ :: .write _ :: .control .breakFile :: _) = _
      rw [taken, if_pos (all _), taken, if_pos (all _)]
      rfl
    rw [isTaken] at tells
    exact tells.readBack
  · obtain ⟨calls, -, sorted⟩ :=
      sessions (Clock.still 0) random [.openFile true] [.logger .closeFile]
    exact ⟨calls.trans (congrArg some run_append), sorted rfl⟩

/-- A row that the encoding of an open log's file does not represent is not among those that are
read back. -/
theorem row_lost_of_plain :
    let opened := (Log.new (.still 0) { encoding := .plain }).openFile
    let log := opened.call (.write ⟨0, "commit", "π"⟩)
    opened.isOpen = true ∧ opened.file.isBroken = false ∧
      ∀ time, log.file.text.bind Text.Csv.rows? ≠ some [header, row time 0 "commit" "π"] := by
  intro opened log
  have told : log.file.text.bind Text.Csv.rows? = some [header] := by decide +kernel
  refine ⟨rfl, rfl, fun time same => ?_⟩
  rw [told] at same
  cases same

end Log

end LiveGrid
