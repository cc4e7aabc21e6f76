import LiveGrid.Proofs.Text.Csv
import LiveGrid.Proofs.Text.Encoding

/-!
Contract: the file of a log can be read back.

Owns:
- what becomes of a row that is to be written: it is lost, refused, or put behind the text;
- the events of a log with their details, as its file tells them;
- logs that keep: they are open and their file is whole; such a log tells a row that it is given
  after those before it, or refuses it and tells what it told;
- logs that record: they keep, and their file takes every row.

Does not own: which events there are.
-/

namespace LiveGrid

namespace Log

/-! ## Rows that are to be written -/

section Write

variable {log : Log} (frame : Int) {event detail : String}

theorem tryWrite_of_closed (closed : log.isOpen = false) :
    log.tryWrite frame event detail = (.ok (), log) := by
  simp [tryWrite, closed]

theorem tryWrite_of_broken (isOpen : log.isOpen = true) (broken : log.file.isBroken = true) :
    log.tryWrite frame event detail = (.ok (), { log with clock := log.clock.read.2 }) := by
  simp [tryWrite, isOpen, broken]

/-- A row that can be encoded is put behind the text. -/
theorem tryWrite_of_check_eq_ok (isOpen : log.isOpen = true)
    (notBroken : log.file.isBroken = false)
    (encodable : log.file.encoding.check
      (Text.Csv.writeRow (row (log.clock.read.1 - log.start) frame event detail)) = .ok ()) :
    log.tryWrite frame event detail =
      (.ok (), { log with
        clock := log.clock.read.2
        file := { log.file with
          text := some (log.file.text.getD "" ++
            Text.Csv.writeRow (row (log.clock.read.1 - log.start) frame event detail)) } }) := by
  simp [tryWrite, isOpen, notBroken, encodable]

/-- Any other row is refused, and the file is as before. -/
theorem tryWrite_of_check_eq_error {fault : EncodingFault} (isOpen : log.isOpen = true)
    (notBroken : log.file.isBroken = false)
    (unencodable : log.file.encoding.check
      (Text.Csv.writeRow (row (log.clock.read.1 - log.start) frame event detail)) = .error fault) :
    log.tryWrite frame event detail = (.error fault, { log with clock := log.clock.read.2 }) := by
  simp [tryWrite, isOpen, notBroken, unencodable]

/-- A row can be encoded exactly if its event and its detail can. -/
theorem check_row_eq_ok_iff {encoding : Encoding} {elapsed : Float} :
    encoding.check (Text.Csv.writeRow (row elapsed frame event detail)) = .ok () ↔
      encoding.Represents event ∧ encoding.Represents detail :=
  Encoding.check_eq_ok_iff.trans Encoding.represents_row_iff

theorem tryWrite_of_represents (isOpen : log.isOpen = true) (notBroken : log.file.isBroken = false)
    (hasEvent : log.file.encoding.Represents event)
    (hasDetail : log.file.encoding.Represents detail) :
    log.tryWrite frame event detail =
      (.ok (), { log with
        clock := log.clock.read.2
        file := { log.file with
          text := some (log.file.text.getD "" ++
            Text.Csv.writeRow (row (log.clock.read.1 - log.start) frame event detail)) } }) :=
  tryWrite_of_check_eq_ok frame isOpen notBroken
    ((check_row_eq_ok_iff frame).2 ⟨hasEvent, hasDetail⟩)

theorem tryWrite_of_not_represents (isOpen : log.isOpen = true)
    (notBroken : log.file.isBroken = false)
    (lacks : ¬ (log.file.encoding.Represents event ∧ log.file.encoding.Represents detail)) :
    ∃ fault, log.tryWrite frame event detail =
      (.error fault, { log with clock := log.clock.read.2 }) := by
  cases checked : log.file.encoding.check
      (Text.Csv.writeRow (row (log.clock.read.1 - log.start) frame event detail)) with
  | ok => exact absurd ((check_row_eq_ok_iff frame).1 checked) lacks
  | error fault => exact ⟨fault, tryWrite_of_check_eq_error frame isOpen notBroken checked⟩

/-- A row is refused exactly by an open log with a whole file whose encoding lacks a character of
it. -/
theorem tryWrite_fst_eq_ok_iff :
    (log.tryWrite frame event detail).1 = .ok () ↔
      (log.isOpen = true → log.file.isBroken = false →
        log.file.encoding.Represents event ∧ log.file.encoding.Represents detail) := by
  cases isOpen : log.isOpen with
  | false => simp [tryWrite_of_closed frame isOpen]
  | true =>
      cases broken : log.file.isBroken with
      | true => simp [tryWrite_of_broken frame isOpen broken]
      | false =>
          by_cases has : log.file.encoding.Represents event ∧ log.file.encoding.Represents detail
          · simp [tryWrite_of_represents frame isOpen broken has.1 has.2, has]
          · obtain ⟨fault, refused⟩ := tryWrite_of_not_represents frame isOpen broken has
            simp [refused, has]

/-- Writing a row changes nothing but the clock and the text. -/
theorem exists_write_eq (log : Log) (frame : Int) (event detail : String) :
    ∃ clock text, log.write frame event detail =
      { log with clock := clock, file := { log.file with text := text } } := by
  by_cases isOpen : log.isOpen = true
  · by_cases broken : log.file.isBroken = true
    · exact ⟨_, log.file.text, congrArg Prod.snd (tryWrite_of_broken frame isOpen broken)⟩
    · have notBroken : log.file.isBroken = false := Bool.eq_false_iff.2 broken
      by_cases has : log.file.encoding.Represents event ∧ log.file.encoding.Represents detail
      · have put := tryWrite_of_represents frame isOpen notBroken has.1 has.2
        exact ⟨_, _, congrArg Prod.snd put⟩
      · obtain ⟨fault, refused⟩ := tryWrite_of_not_represents frame isOpen notBroken has
        exact ⟨_, log.file.text, congrArg Prod.snd refused⟩
  · have closed : log.isOpen = false := Bool.eq_false_iff.2 isOpen
    exact ⟨log.clock, log.file.text, congrArg Prod.snd (tryWrite_of_closed frame closed)⟩

end Write

/-! ## Rows that are told -/

/-- The event and the detail of a row. -/
def entry? : List String → Option (String × String)
  | [_, _, event, detail] => some (event, detail)
  | _ => none

/-- The events and details that the file of a log tells, under the names of the columns. -/
def entries? (log : Log) : Option (List (String × String)) := do
  let text ← log.file.text
  match ← Text.Csv.rows? text with
  | names :: rows => if names = header then rows.mapM entry? else none
  | [] => none

/-- An open log with a whole file, which tells events. -/
structure Keeps (log : Log) (entries : List (String × String)) : Prop where
  isOpen : log.isOpen = true
  notBroken : log.file.isBroken = false
  told : log.entries? = some entries

/-- A log that has told its events and can go on with any others. -/
structure Records (log : Log) (entries : List (String × String)) : Prop
    extends log.Keeps entries where
  represents : ∀ text, log.file.encoding.Represents text

variable {log : Log} {entries : List (String × String)}

theorem entries?_eq_some_iff :
    log.entries? = some entries ↔
      ∃ text rows, log.file.text = some text ∧ Text.Csv.rows? text = some (header :: rows) ∧
        rows.mapM entry? = some entries := by
  simp only [entries?, Option.bind_eq_bind, Option.bind_eq_some_iff]
  constructor
  · rintro ⟨text, written, rows, read, told⟩
    split at told
    · rename_i names rows
      split at told
      · rename_i isHeader
        subst isHeader
        exact ⟨text, rows, written, read, told⟩
      · cases told
    · cases told
  · rintro ⟨text, rows, written, read, told⟩
    exact ⟨text, written, _, read, by simpa using told⟩

/-- A log that has just been opened tells nothing yet. -/
theorem keeps_openFile (canOpen : log.file.canOpen = true)
    (notBroken : log.file.isBroken = false) : log.openFile.Keeps [] := by
  have opened : log.openFile =
      { log with
        file := { log.file with text := some (Text.Csv.writeRow header) }, isOpen := true } := by
    simp [openFile, canOpen, notBroken]
  rw [opened]
  exact ⟨rfl, notBroken,
    entries?_eq_some_iff.2 ⟨_, [], rfl, Text.Csv.rows?_writeRow, rfl⟩⟩

theorem openFile_encoding (log : Log) : log.openFile.file.encoding = log.file.encoding := by
  unfold openFile
  split
  · rfl
  · split <;> rfl

theorem records_openFile (canOpen : log.file.canOpen = true)
    (notBroken : log.file.isBroken = false)
    (represents : ∀ text, log.file.encoding.Represents text) : log.openFile.Records [] where
  toKeeps := keeps_openFile canOpen notBroken
  represents := by
    rw [openFile_encoding]
    exact represents

/-- A row is told after those before it. -/
theorem Keeps.write (keeps : log.Keeps entries) (frame : Int) {event detail : String}
    (hasEvent : log.file.encoding.Represents event)
    (hasDetail : log.file.encoding.Represents detail) :
    (log.write frame event detail).Keeps (entries ++ [(event, detail)]) := by
  obtain ⟨isOpen, notBroken, told⟩ := keeps
  obtain ⟨text, rows, written, read, entriesRead⟩ := entries?_eq_some_iff.1 told
  rw [Log.write, tryWrite_of_represents frame isOpen notBroken hasEvent hasDetail]
  refine ⟨isOpen, notBroken, entries?_eq_some_iff.2
    ⟨_, rows ++ [row (log.clock.read.1 - log.start) frame event detail], rfl, ?_, ?_⟩⟩
  · rw [written]
    exact Text.Csv.rows?_append_writeRow read
  · simp [List.mapM_append, entriesRead, row, entry?]

/-- A row that is refused is not told, and those before it still are. -/
theorem Keeps.write_of_not_represents (keeps : log.Keeps entries) (frame : Int)
    {event detail : String}
    (lacks : ¬ (log.file.encoding.Represents event ∧ log.file.encoding.Represents detail)) :
    (log.write frame event detail).Keeps entries := by
  obtain ⟨isOpen, notBroken, told⟩ := keeps
  obtain ⟨fault, refused⟩ := tryWrite_of_not_represents frame isOpen notBroken lacks
  rw [Log.write, refused]
  exact ⟨isOpen, notBroken, told⟩

theorem Records.tryWrite_fst (records : log.Records entries) (frame : Int)
    (event detail : String) : (log.tryWrite frame event detail).1 = .ok () :=
  (tryWrite_fst_eq_ok_iff frame).2 fun _ _ => ⟨records.represents event, records.represents detail⟩

theorem Records.write (records : log.Records entries) (frame : Int) (event detail : String) :
    (log.write frame event detail).Records (entries ++ [(event, detail)]) where
  toKeeps := records.toKeeps.write frame (records.represents event) (records.represents detail)
  represents := by
    obtain ⟨clock, text, written⟩ := exists_write_eq log frame event detail
    rw [written]
    exact records.represents

end Log

end LiveGrid
