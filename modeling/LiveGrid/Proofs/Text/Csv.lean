import LiveGrid.Text.Csv

/-!
Contract: rows of comma-separated fields can be read back.

Owns:
- a reader that goes through a text character by character;
- the rows of a text, if it ends with a whole row;
- what is written is read back, whatever the fields contain.

The reader knows nothing of the writer. It takes a carriage return, a line feed or
both for one line end, and a quotation mark only at the start of a field for the
opening one.

Does not own: what the fields mean.
-/

namespace LiveGrid.Text.Csv

/-! ## Reading -/

/-- Where a reader stands in a row, with the fields that the row has so far and the characters of
the field that it is in. -/
inductive Place where
  | row
  | afterReturn
  | field (fields : List String)
  | plain (fields : List String) (characters : List Char)
  | quoted (fields : List String) (characters : List Char)
  | afterQuote (fields : List String) (characters : List Char)
deriving DecidableEq

/-- The rows that have been read, and where the reader stands in the next one. -/
structure Reader where
  rows : List (List String) := []
  place : Place := .row
deriving DecidableEq

namespace Reader

variable (rows : List (List String)) (fields : List String)

/-- Whether a character ends a field. -/
def isSeparator (character : Char) : Bool :=
  character == ',' || character == '\r' || character == '\n'

/-- Goes on after the character that ends a field. -/
def separate (character : Char) : Reader :=
  if character = ',' then ⟨rows, .field fields⟩
  else if character = '\r' then ⟨rows ++ [fields], .afterReturn⟩
  else ⟨rows ++ [fields], .row⟩

/-- Goes on in a field without quotation marks. -/
def readPlain (characters : List Char) (character : Char) : Reader :=
  if isSeparator character then separate rows (fields ++ [String.ofList characters]) character
  else ⟨rows, .plain fields (characters ++ [character])⟩

/-- Begins a field. -/
def beginField (character : Char) : Reader :=
  if character = '"' then ⟨rows, .quoted fields []⟩ else readPlain rows fields [] character

/-- Begins a row, which has no fields if it ends at once. -/
def beginRow (character : Char) : Reader :=
  if character = '\r' ∨ character = '\n' then separate rows [] character
  else beginField rows [] character

/-- Reads a character. -/
def step (reader : Reader) (character : Char) : Reader :=
  match reader.place with
  | .row => beginRow reader.rows character
  | .afterReturn =>
      if character = '\n' then ⟨reader.rows, .row⟩ else beginRow reader.rows character
  | .field fields => beginField reader.rows fields character
  | .plain fields characters => readPlain reader.rows fields characters character
  | .quoted fields characters =>
      if character = '"' then ⟨reader.rows, .afterQuote fields characters⟩
      else ⟨reader.rows, .quoted fields (characters ++ [character])⟩
  | .afterQuote fields characters =>
      if character = '"' then ⟨reader.rows, .quoted fields (characters ++ ['"'])⟩
      else readPlain reader.rows fields characters character

/-- Reads characters. -/
def read (reader : Reader) (characters : List Char) : Reader := characters.foldl step reader

end Reader

/-- The rows of a text, if it ends with a whole row. -/
def rows? (text : String) : Option (List (List String)) :=
  match (({} : Reader).read text.toList) with
  | ⟨rows, .row⟩ => some rows
  | _ => none

/-! ## Reading back what was written -/

namespace Reader

theorem read_append {reader : Reader} {first second : List Char} :
    reader.read (first ++ second) = (reader.read first).read second :=
  List.foldl_append

theorem read_cons {reader : Reader} {character : Char} {rest : List Char} :
    reader.read (character :: rest) = (reader.step character).read rest := rfl

theorem read_singleton {reader : Reader} {character : Char} :
    reader.read [character] = reader.step character := rfl

variable {rows : List (List String)} {fields : List String}

theorem isSpecial_iff {character : Char} :
    isSpecial character = true ↔ character = '"' ∨ isSeparator character = true := by
  simp only [isSpecial, isSeparator, Bool.or_eq_true, beq_iff_eq]
  grind

theorem read_plain {before characters : List Char}
    (plain : ∀ character ∈ characters, ¬ isSpecial character = true) :
    (⟨rows, .plain fields before⟩ : Reader).read characters =
      ⟨rows, .plain fields (before ++ characters)⟩ := by
  induction characters generalizing before with
  | nil => rw [List.append_nil]; rfl
  | cons first rest inductionHypothesis =>
      obtain ⟨firstPlain, restPlain⟩ := List.forall_mem_cons.1 plain
      have noSeparator : ¬ isSeparator first = true :=
        fun separates => firstPlain (isSpecial_iff.2 (.inr separates))
      have stepped : (⟨rows, .plain fields before⟩ : Reader).step first =
          ⟨rows, .plain fields (before ++ [first])⟩ := by
        simp only [step, readPlain, noSeparator, Bool.false_eq_true, ↓reduceIte]
      rw [read_cons, stepped, inductionHypothesis restPlain, List.append_assoc,
        List.singleton_append]

/-- Between quotation marks every character is read back, a doubled quotation mark as one. -/
theorem read_quoted {before characters : List Char} :
    (⟨rows, .quoted fields before⟩ : Reader).read (quoted characters) =
      ⟨rows, .quoted fields (before ++ characters)⟩ := by
  induction characters generalizing before with
  | nil => rw [List.append_nil]; rfl
  | cons first rest inductionHypothesis =>
      by_cases isQuote : first = '"'
      · subst isQuote
        rw [quoted, read_cons, read_cons]
        have stepped : ((⟨rows, .quoted fields before⟩ : Reader).step '"').step '"' =
            ⟨rows, .quoted fields (before ++ ['"'])⟩ := rfl
        rw [stepped, inductionHypothesis, List.append_assoc, List.singleton_append]
      · have stepped : (⟨rows, .quoted fields before⟩ : Reader).step first =
            ⟨rows, .quoted fields (before ++ [first])⟩ := by
          simp only [step, isQuote, ↓reduceIte]
        rw [quoted, read_cons, stepped, inductionHypothesis, List.append_assoc,
          List.singleton_append]
        simpa using isQuote

/-- A written field and the character that ends it are read back from the start of a field. -/
theorem read_writeField {characters : List Char} {separator : Char}
    (separates : isSeparator separator = true) :
    (⟨rows, .field fields⟩ : Reader).read (writeField characters ++ [separator]) =
      separate rows (fields ++ [String.ofList characters]) separator := by
  have notQuote : separator ≠ '"' := by
    rintro rfl
    simp [isSeparator] at separates
  rw [read_append, read_singleton]
  unfold writeField
  split
  · have opened : (⟨rows, .field fields⟩ : Reader).step '"' = ⟨rows, .quoted fields []⟩ := rfl
    have closed : (⟨rows, .quoted fields characters⟩ : Reader).step '"' =
        ⟨rows, .afterQuote fields characters⟩ := rfl
    rw [read_append, read_singleton, read_cons, opened, read_quoted, List.nil_append, closed]
    simp only [step, notQuote, ↓reduceIte, readPlain, separates]
  · rename_i plain
    have plain : ∀ character ∈ characters, ¬ isSpecial character = true := by simpa using plain
    cases characters with
    | nil => simp only [read, List.foldl_nil, step, beginField, notQuote, ↓reduceIte, readPlain,
        separates]
    | cons first rest =>
        obtain ⟨firstPlain, restPlain⟩ := List.forall_mem_cons.1 plain
        have opened : (⟨rows, .field fields⟩ : Reader).step first =
            ⟨rows, .plain fields [first]⟩ := by
          rw [isSpecial_iff, not_or] at firstPlain
          simp only [step, beginField, readPlain, firstPlain, Bool.false_eq_true, ↓reduceIte,
            List.nil_append]
        rw [read_cons, opened, read_plain restPlain, List.singleton_append]
        simp only [step, readPlain, separates, ↓reduceIte]

/-- No written field begins with a line end. -/
theorem writeField_append_comma (characters : List Char) :
    ∃ first rest, writeField characters ++ [','] = first :: rest ∧
      first ≠ '\r' ∧ first ≠ '\n' := by
  unfold writeField
  split
  · exact ⟨'"', _, rfl, by decide, by decide⟩
  · rename_i plain
    cases characters with
    | nil => exact ⟨',', [], rfl, by decide, by decide⟩
    | cons first rest =>
        refine ⟨first, rest ++ [','], rfl, ?_, ?_⟩
        all_goals
          rintro rfl
          simp [isSpecial] at plain

/-- The first field of a row is read back from the start of the row. -/
theorem read_writeField_of_row {characters : List Char} :
    (⟨rows, .row⟩ : Reader).read (writeField characters ++ [',']) =
      ⟨rows, .field [String.ofList characters]⟩ := by
  have fromField : (⟨rows, .field []⟩ : Reader).read (writeField characters ++ [',']) =
      ⟨rows, .field [String.ofList characters]⟩ := read_writeField rfl
  obtain ⟨first, rest, written, notReturn, notFeed⟩ := writeField_append_comma characters
  rw [written] at fromField ⊢
  rw [read_cons] at fromField ⊢
  simp only [step, beginRow, notReturn, notFeed, or_self, ↓reduceIte] at fromField ⊢
  exact fromField

/-- The rest of a row is read back from the start of one of its fields. -/
theorem read_writeFields {first : List Char} {rest : List (List Char)} :
    (⟨rows, .field fields⟩ : Reader).read (writeFields (first :: rest) ++ ['\r', '\n']) =
      ⟨rows ++ [fields ++ (first :: rest).map String.ofList], .row⟩ := by
  induction rest generalizing first fields with
  | nil =>
      have ended : writeFields [first] ++ ['\r', '\n'] = (writeField first ++ ['\r']) ++ ['\n'] := by
        rw [writeFields, List.append_assoc, List.singleton_append]
      rw [ended, read_append, read_writeField rfl]
      rfl
  | cons second others inductionHypothesis =>
      have ended : writeFields (first :: second :: others) ++ ['\r', '\n'] =
          (writeField first ++ [',']) ++ (writeFields (second :: others) ++ ['\r', '\n']) := by
        simp [writeFields]
      have separated : separate rows (fields ++ [String.ofList first]) ',' =
          ⟨rows, .field (fields ++ [String.ofList first])⟩ := rfl
      rw [ended, read_append, read_writeField rfl, separated, inductionHypothesis,
        List.append_assoc, List.singleton_append]
      rfl

/-- A written row is read back. A row of less than two fields could look empty. -/
theorem read_writeRow {first second : String} {others : List String} :
    (⟨rows, .row⟩ : Reader).read (writeRow (first :: second :: others)).toList =
      ⟨rows ++ [first :: second :: others], .row⟩ := by
  have written : (writeRow (first :: second :: others)).toList =
      (writeField first.toList ++ [',']) ++
        (writeFields ((second :: others).map String.toList) ++ ['\r', '\n']) := by
    simp [writeRow, writeFields]
  rw [written, read_append, read_writeField_of_row, List.map_cons, read_writeFields]
  simp

end Reader

/-- What the rows of a text are once another row has been written behind them. -/
theorem rows?_append_writeRow {text first second : String} {others : List String}
    {rows : List (List String)} (before : rows? text = some rows) :
    rows? (text ++ writeRow (first :: second :: others)) =
      some (rows ++ [first :: second :: others]) := by
  unfold rows? at before
  split at before
  · rename_i read same
    cases before
    rw [rows?, String.toList_append, Reader.read_append, same, Reader.read_writeRow]
  · cases before

/-- A single row is read back. -/
theorem rows?_writeRow {first second : String} {others : List String} :
    rows? (writeRow (first :: second :: others)) = some [first :: second :: others] := by
  have written : rows? ("" ++ writeRow (first :: second :: others)) =
      some ([] ++ [first :: second :: others]) := rows?_append_writeRow rfl
  rw [String.empty_append] at written
  exact written

end LiveGrid.Text.Csv
