import LiveGrid.Proofs.Outcome
import LiveGrid.Proofs.Session.Rows

/-!
Contract: a log whose file operations can fail at any time.

Owns:
- a file with the handles on it, each with the text that it has not written out;
- operations with handles, which are refused from some time on, be it in the middle of a row, and
  which are faults of other kinds if the handle is closed or a text cannot be encoded;
- the calls of a log as programs of such operations, which pass over refusals and nothing else;
- calls end with a fault exactly at rows that the log cannot encode, and leave the log that the same
  calls leave if the file breaks before one of them, which is the first that does not find it whole.

Does not own: which calls a log gets.
-/

namespace LiveGrid

/-- What goes wrong with a file: the system refuses the operation, the handle is closed, or the
encoding of the file lacks a character. -/
inductive FileFault where
  | refused
  | closedHandle
  | unencodable (fault : EncodingFault)
deriving DecidableEq, Repr

/-- A log with the handles on its file. The handle and the writer, with which rows are flushed and
written, are kept apart. Handles are numbered; one that is open has text that is not written out
yet. The fuse is the number of operations with handles that succeed before the file breaks. -/
structure LogHandles where
  clock : Clock
  start : Float
  file : LogFile
  fuse : Option Nat := none
  handleCount : Nat := 0
  pending : Nat → Option String := fun _ => none
  handle? : Option Nat := none
  writer? : Option Nat := none

namespace LogHandles

/-- A log that is not open, made at the time of a clock. -/
def new (clock : Clock) (file : LogFile) (fuse : Option Nat) : LogHandles :=
  { clock := clock.read.2, start := clock.read.1, file := file, fuse := fuse }

/-- The log without its handles. It is open if it has one. -/
def toLog (state : LogHandles) : Log :=
  { clock := state.clock, start := state.start, file := state.file,
    isOpen := state.handle?.isSome }

def breakFile (state : LogHandles) : LogHandles :=
  { state with file := { state.file with isBroken := true } }

/-- A handle has something else to write out, or is closed. -/
def hold (state : LogHandles) (handle : Nat) (text : Option String) : LogHandles :=
  { state with pending := fun other => if other = handle then text else state.pending other }

def extend (state : LogHandles) (text : String) : LogHandles :=
  { state with file := { state.file with text := state.file.text.map (· ++ text) } }

/-- The file is emptied by a new handle. -/
def create (state : LogHandles) : LogHandles :=
  { state with
    file := { state.file with text := some "" }
    handleCount := state.handleCount + 1 }.hold state.handleCount (some "")

def forget (state : LogHandles) : LogHandles := { state with handle? := none, writer? := none }

end LogHandles

/-- Programs of file operations. -/
abbrev LogAction := ExceptT FileFault (StateM LogHandles)

namespace LogAction

/-! ## Operations with handles -/

/-- Takes part of the fuse, or is refused. -/
def burn : LogAction Unit := do
  let state ← get
  if state.file.isBroken then throw .refused
  match state.fuse with
  | none => pure ()
  | some (rest + 1) => set { state with fuse := some rest }
  | some 0 =>
      -- From here on the file itself refuses, and the fuse is not read again.
      set state.breakFile
      throw .refused

def pendingOf (handle : Nat) : LogAction String := do
  match (← get).pending handle with
  | some text => pure text
  | none => throw .closedHandle

def createFile : LogAction Nat := do
  let state ← get
  if !state.file.canOpen then throw .refused
  set state.create
  pure state.handleCount

def encode (text : String) : LogAction Unit := do
  match (← get).file.encoding.check text with
  | .ok () => pure ()
  | .error fault => throw (.unencodable fault)

def writeText (handle : Nat) (text : String) : LogAction Unit := do
  let before ← pendingOf handle
  burn
  encode text
  modify (·.hold handle (some (before ++ text)))

/-- Writes out what was written with a handle. -/
def flush (handle : Nat) : LogAction Unit := do
  let text ← pendingOf handle
  burn
  modify fun state => (state.extend text).hold handle (some "")

/-- Closes a handle, also if its text cannot be written out. -/
def release (handle : Nat) (text : String) : LogAction Unit := do
  modify (·.hold handle none)
  burn
  modify (·.extend text)

def closeHandle (handle : Nat) : LogAction Unit := do
  match (← get).pending handle with
  | some text => release handle text
  | none => pure ()

/-- Goes on with another program where a program is refused. -/
def orElse (action recover : LogAction Unit) : LogAction Unit :=
  tryCatch action fun
    | .refused => recover
    | fault => throw fault

/-! ## Calls -/

def put (handle writer : Nat) (text : String) : LogAction Unit := do
  writeText writer text
  flush handle

def openLog : LogAction Unit :=
  orElse
    (do
      let handle ← createFile
      modify fun state => { state with handle? := some handle }
      modify fun state => { state with writer? := some handle }
      put handle handle (Text.Csv.writeRow Log.header))
    (modify (·.forget))

/-- Writes a row with the time of the clock. What is refused is passed over. -/
def writeRow (handle writer : Nat) (row : LogRow) : LogAction Unit := do
  let state ← get
  let (now, clock) := state.clock.read
  set { state with clock := clock }
  let fields := Log.row (now - state.start) row.frame row.event row.detail
  orElse (put handle writer (Text.Csv.writeRow fields)) (pure ())

/-- Writes a row, if the log has its handle and its writer. -/
def writeLog (row : LogRow) : LogAction Unit := do
  let state ← get
  match state.handle?, state.writer? with
  | some handle, some writer => writeRow handle writer row
  | _, _ => pure ()

def dropHandle (handle : Nat) : LogAction Unit := do
  orElse (closeHandle handle) (pure ())
  modify (·.forget)

def closeLog : LogAction Unit := do
  match (← get).handle? with
  | some handle => dropHandle handle
  | none => pure ()

def perform : LogCall → LogAction Unit
  | .write row => writeLog row
  | .control (.openFile canOpen) => do
      modify fun state => { state with file := { state.file with canOpen := canOpen } }
      openLog
  | .control .closeFile => closeLog
  | .control .breakFile => modify (·.breakFile)
  | .control (.setClock clock) => modify fun state => { state with clock := clock }

/-- How calls end that are made one after the other, whatever became of those before, and the state
after them. -/
def performEach : List LogCall → LogHandles → List (Except FileFault Unit) × LogHandles
  | [], state => ([], state)
  | call :: rest, state =>
      let (result, next) := perform call state
      let (results, final) := performEach rest next
      (result :: results, final)

end LogAction

namespace LogHandles

/-- The handle and the writer are one and the same, which is open, on a file with text, and has
written everything out unless the file is broken. -/
structure IsOpenAt (state : LogHandles) (handle : Nat) : Prop where
  isHandle : state.handle? = some handle
  isWriter : state.writer? = some handle
  isPending : ∃ text, state.pending handle = some text ∧ (state.file.isBroken = false → text = "")
  hasText : ∃ written, state.file.text = some written

/-- The handle and the writer fit together. -/
def IsSteady (state : LogHandles) : Prop :=
  (state.handle? = none ∧ state.writer? = none) ∨ ∃ handle, state.IsOpenAt handle

variable {state : LogHandles} {handle : Nat}

theorem isSteady_new {clock : Clock} {file : LogFile} {fuse : Option Nat} :
    (new clock file fuse).IsSteady :=
  .inl ⟨rfl, rfl⟩

theorem isSteady_forget : state.forget.IsSteady := .inl ⟨rfl, rfl⟩

theorem IsOpenAt.isSteady (isOpen : state.IsOpenAt handle) : state.IsSteady := .inr ⟨handle, isOpen⟩

/-- On a broken file it does not matter what was not written out. -/
theorem IsOpenAt.breakFile (isOpen : state.IsOpenAt handle) : state.breakFile.IsOpenAt handle := by
  obtain ⟨isHandle, isWriter, ⟨text, isPending, -⟩, hasText⟩ := isOpen
  exact ⟨isHandle, isWriter, ⟨text, isPending, nofun⟩, hasText⟩

theorem IsSteady.breakFile (steady : state.IsSteady) : state.breakFile.IsSteady := by
  rcases steady with closed | ⟨handle, isOpen⟩
  · exact .inl closed
  · exact isOpen.breakFile.isSteady

theorem IsOpenAt.withClock (isOpen : state.IsOpenAt handle) (clock : Clock) :
    { state with clock := clock }.IsOpenAt handle :=
  ⟨isOpen.isHandle, isOpen.isWriter, isOpen.isPending, isOpen.hasText⟩

theorem IsSteady.withClock (steady : state.IsSteady) (clock : Clock) :
    { state with clock := clock }.IsSteady := by
  rcases steady with closed | ⟨handle, isOpen⟩
  · exact .inl closed
  · exact (isOpen.withClock clock).isSteady

theorem hold_pending {text : Option String} : (state.hold handle text).pending handle = text := by
  simp only [hold, ↓reduceIte]

theorem extend_empty : state.extend "" = state := by
  have sameText : state.file.text.map (· ++ "") = state.file.text := by
    cases state.file.text <;> simp
  rw [extend, sameText]

end LogHandles

namespace LogAction

variable {state after : LogHandles} {handle : Nat} {text before : String}

/-! ## One operation after the other -/

theorem bind_of_ok {First : Type} {action : LogAction First} {next : First → LogAction Unit}
    {value : First} (success : action state = (.ok value, after)) :
    (action >>= next) state = next value after := by
  rw [bind_apply, success]

theorem bind_of_error {First : Type} {action : LogAction First} {next : First → LogAction Unit}
    {fault : FileFault} (failure : action state = (.error fault, after)) :
    (action >>= next) state = (.error fault, after) := by
  rw [bind_apply, failure]

theorem orElse_of_ok {action recover : LogAction Unit}
    (success : action state = (.ok (), after)) : orElse action recover state = (.ok (), after) := by
  unfold orElse
  change (ExceptT.tryCatch action _ : LogAction Unit) state = _
  simp only [ExceptT.tryCatch, ExceptT.mk, bind, StateT.bind, success]
  rfl

theorem orElse_of_refused {action recover : LogAction Unit}
    (refusal : action state = (.error .refused, after)) :
    orElse action recover state = recover after := by
  unfold orElse
  change (ExceptT.tryCatch action _ : LogAction Unit) state = _
  simp only [ExceptT.tryCatch, ExceptT.mk, bind, StateT.bind, refusal]

/-- A row that cannot be encoded is not passed over. -/
theorem orElse_of_unencodable {action recover : LogAction Unit} {fault : EncodingFault}
    (failure : action state = (.error (.unencodable fault), after)) :
    orElse action recover state = (.error (.unencodable fault), after) := by
  unfold orElse
  change (ExceptT.tryCatch action _ : LogAction Unit) state = _
  simp only [ExceptT.tryCatch, ExceptT.mk, bind, StateT.bind, failure]
  rfl

/-! ## What operations leave -/

theorem burn_apply (state : LogHandles) :
    (state.file.isBroken = false ∧ ∃ fuse, burn state = (.ok (), { state with fuse := fuse })) ∨
      burn state = (.error .refused, state.breakFile) := by
  rcases state with
    ⟨clock, start, ⟨canOpen, encoding, isBroken, written⟩, fuse, count, pending, handle, writer⟩
  cases isBroken with
  | true => exact .inr rfl
  | false =>
      rcases fuse with _ | _ | rest
      · exact .inl ⟨rfl, none, rfl⟩
      · exact .inr rfl
      · exact .inl ⟨rfl, some rest, rfl⟩

/-- An operation does its work or is refused. -/
theorem burn_modify_apply (state : LogHandles) (work : LogHandles → LogHandles) :
    (state.file.isBroken = false ∧ ∃ fuse, (burn >>= fun _ => modify work : LogAction Unit) state =
      (.ok (), work { state with fuse := fuse })) ∨
      (burn >>= fun _ => modify work : LogAction Unit) state =
        (.error .refused, state.breakFile) := by
  rcases burn_apply state with ⟨whole, fuse, success⟩ | refusal
  · rw [bind_of_ok success]
    exact .inl ⟨whole, fuse, rfl⟩
  · exact .inr (bind_of_error refusal)

theorem pendingOf_apply (isPending : state.pending handle = some before) :
    pendingOf handle state = (.ok before, state) := by
  have unfolded : pendingOf handle state =
    (match state.pending handle with
      | some text => (pure text : LogAction String)
      | none => throw FileFault.closedHandle) state := rfl
  rw [unfolded, isPending]
  rfl

theorem encode_apply (state : LogHandles) (text : String) :
    encode text state =
      ((state.file.encoding.check text).mapError FileFault.unencodable, state) := by
  have unfolded : encode text state =
    (match state.file.encoding.check text with
      | .ok () => (pure () : LogAction Unit)
      | .error fault => throw (FileFault.unencodable fault)) state := rfl
  rw [unfolded]
  rcases state.file.encoding.check text with fault | ⟨⟩ <;> rfl

/-- A text is kept with the handle, or it cannot be encoded, or it is refused. -/
theorem writeText_apply (isPending : state.pending handle = some before) (text : String) :
    (state.file.isBroken = false ∧ ∃ fuse, state.file.encoding.check text = .ok () ∧
        writeText handle text state =
          (.ok (), { state with fuse := fuse }.hold handle (some (before ++ text)))) ∨
      (state.file.isBroken = false ∧ ∃ fuse fault, state.file.encoding.check text = .error fault ∧
        writeText handle text state = (.error (.unencodable fault), { state with fuse := fuse })) ∨
      writeText handle text state = (.error .refused, state.breakFile) := by
  unfold writeText
  rw [bind_of_ok (pendingOf_apply isPending)]
  rcases burn_apply state with ⟨whole, fuse, success⟩ | refusal
  · have encoded := encode_apply { state with fuse := fuse } text
    rw [bind_of_ok success]
    cases checked : state.file.encoding.check text with
    | ok =>
        rw [checked] at encoded
        exact .inl ⟨whole, fuse, rfl, bind_of_ok encoded⟩
    | error fault =>
        rw [checked] at encoded
        exact .inr (.inl ⟨whole, fuse, fault, rfl, bind_of_error encoded⟩)
  · exact .inr (.inr (bind_of_error refusal))

theorem flush_apply (isPending : state.pending handle = some before) :
    (state.file.isBroken = false ∧ ∃ fuse, flush handle state =
      (.ok (), ({ state with fuse := fuse }.extend before).hold handle (some ""))) ∨
      flush handle state = (.error .refused, state.breakFile) := by
  unfold flush
  rw [bind_of_ok (pendingOf_apply isPending)]
  exact burn_modify_apply state fun state => (state.extend before).hold handle (some "")

/-- A text is written out as a whole, or it cannot be encoded and nothing is written, or it is
refused and the file is as if it had broken before. -/
theorem put_apply (isOpen : state.IsOpenAt handle) (text : String) :
    ∃ final, final.IsOpenAt handle ∧
      ((put handle handle text state = (.ok (), final) ∧ state.file.isBroken = false ∧
          state.file.encoding.check text = .ok () ∧ final.toLog = (state.extend text).toLog) ∨
        (∃ fault, put handle handle text state = (.error (.unencodable fault), final) ∧
          state.file.isBroken = false ∧ state.file.encoding.check text = .error fault ∧
          final.toLog = state.toLog) ∨
        (put handle handle text state = (.error .refused, final) ∧
          final.toLog = state.toLog.breakFile)) := by
  obtain ⟨before, isPending, written⟩ := isOpen.isPending
  obtain ⟨old, isText⟩ := isOpen.hasText
  unfold put
  rcases writeText_apply isPending text with
    ⟨whole, fuse, encodable, success⟩ | ⟨whole, fuse, fault, unencodable, failure⟩ | refusal
  · rw [bind_of_ok success, written whole, String.empty_append]
    rcases flush_apply LogHandles.hold_pending with ⟨-, rest, flushed⟩ | refusal
    · refine ⟨_, ?_, .inl ⟨flushed, whole, encodable, rfl⟩⟩
      exact ⟨isOpen.isHandle, isOpen.isWriter, ⟨"", LogHandles.hold_pending, fun _ => rfl⟩,
        old ++ text, congrArg (Option.map (· ++ text)) isText⟩
    -- The text stays with the handle and never reaches the file.
    · refine ⟨_, ?_, .inr (.inr ⟨refusal, rfl⟩)⟩
      exact ⟨isOpen.isHandle, isOpen.isWriter, ⟨text, LogHandles.hold_pending, nofun⟩, old, isText⟩
  · rw [bind_of_error failure]
    refine ⟨_, ?_, .inr (.inl ⟨fault, rfl, whole, unencodable, rfl⟩)⟩
    exact ⟨isOpen.isHandle, isOpen.isWriter, isOpen.isPending, old, isText⟩
  · rw [bind_of_error refusal]
    exact ⟨_, isOpen.breakFile, .inr (.inr ⟨rfl, rfl⟩)⟩

/-- Closing a handle that has written everything out leaves the text as it was. -/
theorem closeHandle_apply (isOpen : state.IsOpenAt handle) :
    ∃ final, (closeHandle handle state = (.ok (), final) ∧ final.toLog = state.toLog) ∨
      (closeHandle handle state = (.error .refused, final) ∧
        final.toLog = state.toLog.breakFile) := by
  obtain ⟨before, isPending, written⟩ := isOpen.isPending
  have released : closeHandle handle state = release handle before state := by
    show (match state.pending handle with
      | some text => release handle text
      | none => pure ()) state = _
    rw [isPending]
  rw [released]
  rcases burn_modify_apply (state.hold handle none) (·.extend before) with
    ⟨whole, fuse, success⟩ | refusal
  · have left : ({ state.hold handle none with fuse := fuse }.extend before).toLog =
        state.toLog := by
      rw [written whole, LogHandles.extend_empty]
      rfl
    exact ⟨_, .inl ⟨success, left⟩⟩
  · exact ⟨_, .inr ⟨refusal, rfl⟩⟩

/-! ## What calls leave -/

theorem openLog_apply (state : LogHandles) :
    ∃ final, openLog state = (.ok (), final) ∧ final.IsSteady ∧
      (final.toLog = state.toLog.openFile ∨ final.toLog = state.toLog.breakFile.openFile) := by
  unfold openLog
  by_cases canOpen : state.file.canOpen = true
  · let handle := state.handleCount
    let opened : LogHandles := { state.create with handle? := some handle, writer? := some handle }
    have created : createFile state = (.ok handle, state.create) := by
      show (if !state.file.canOpen then _ else _ : LogAction Nat) state = _
      rw [canOpen]
      rfl
    have isOpen : opened.IsOpenAt handle :=
      ⟨rfl, rfl, ⟨"", LogHandles.hold_pending, fun _ => rfl⟩, "", rfl⟩
    obtain ⟨final, finalOpen, ⟨success, whole, -, left⟩ | ⟨fault, -, -, unencodable, -⟩ |
      ⟨refusal, left⟩⟩ := put_apply isOpen (Text.Csv.writeRow Log.header)
    · refine ⟨final, orElse_of_ok ?_, finalOpen.isSteady, .inl ?_⟩
      · rw [bind_of_ok created]
        exact success
      · have notBroken : state.file.isBroken = false := whole
        rw [left]
        simp [Log.openFile, LogHandles.toLog, LogHandles.extend, opened, LogHandles.create,
          LogHandles.hold, canOpen, notBroken]
    -- The names of the columns are plain.
    · have encodable : opened.file.encoding.check (Text.Csv.writeRow Log.header) = .ok () :=
        Encoding.check_eq_ok_iff.2 Encoding.represents_header
      rw [encodable] at unencodable
      cases unencodable
    -- The file is empty already when the names of the columns are refused.
    · refine ⟨final.forget, ?_, LogHandles.isSteady_forget, .inr ?_⟩
      · refine (orElse_of_refused ?_ : _ = (modify (·.forget) : LogAction Unit) final)
        rw [bind_of_ok created]
        exact refusal
      · have forgotten : final.forget.toLog = { final.toLog with isOpen := false } := rfl
        rw [forgotten, left]
        simp [Log.openFile, Log.breakFile, LogHandles.toLog, opened, LogHandles.create,
          LogHandles.hold, canOpen]
  · rw [Bool.not_eq_true] at canOpen
    have refused : createFile state = (.error .refused, state) := by
      show (if !state.file.canOpen then _ else _ : LogAction Nat) state = _
      rw [canOpen]
      rfl
    refine ⟨state.forget, ?_, LogHandles.isSteady_forget, .inl ?_⟩
    · exact (orElse_of_refused (bind_of_error refused) :
        _ = (modify (·.forget) : LogAction Unit) state)
    · simp [Log.openFile, LogHandles.toLog, LogHandles.forget, canOpen]

/-- A call that is made of operations ends and leaves what the call does with the log. -/
def Performs (call : LogCall) (state : LogHandles) (log : Log) : Prop :=
  ∃ final, perform call state = ((log.answer call).mapError FileFault.unencodable, final) ∧
    final.IsSteady ∧ final.toLog = log.call call

theorem performs_write (steady : state.IsSteady) (row : LogRow) :
    Performs (.write row) state state.toLog ∨
      Performs (.write row) state state.toLog.breakFile := by
  have unfolded : perform (.write row) state =
    (match state.handle?, state.writer? with
      | some handle, some writer => writeRow handle writer row
      | _, _ => pure ()) state := rfl
  unfold Performs
  rw [unfolded]
  rcases steady with ⟨noHandle, noWriter⟩ | ⟨handle, isOpen⟩
  · rw [noHandle, noWriter]
    have written : state.toLog.tryWrite row.frame row.event row.detail = (.ok (), state.toLog) :=
      Log.tryWrite_of_closed _ (by rw [LogHandles.toLog, noHandle]; rfl)
    refine .inl ⟨state, ?_, .inl ⟨noHandle, noWriter⟩, ?_⟩
    · rw [Log.answer, written]
      rfl
    · rw [Log.call, Log.write, written]
  · rw [isOpen.isHandle, isOpen.isWriter]
    let text := Text.Csv.writeRow
      (Log.row (state.clock.read.1 - state.start) row.frame row.event row.detail)
    have written : writeRow handle handle row state =
      orElse (put handle handle text) (pure ()) { state with clock := state.clock.read.2 } := rfl
    have readOpen := isOpen.withClock state.clock.read.2
    have isOpenLog : state.toLog.isOpen = true := by
      rw [LogHandles.toLog, isOpen.isHandle]
      rfl
    obtain ⟨old, isText⟩ := isOpen.hasText
    dsimp only
    rw [written]
    obtain ⟨final, finalOpen, ⟨success, whole, encodable, left⟩ |
      ⟨fault, failure, whole, unencodable, left⟩ | ⟨refusal, left⟩⟩ := put_apply readOpen text
    · have called := Log.tryWrite_of_check_eq_ok row.frame isOpenLog whole encodable
      refine .inl ⟨final, ?_, finalOpen.isSteady, ?_⟩
      · rw [orElse_of_ok success, Log.answer, called]
        rfl
      · rw [Log.call, Log.write, called, left]
        simp [LogHandles.toLog, LogHandles.extend, isText, text]
    · have called := Log.tryWrite_of_check_eq_error row.frame isOpenLog whole unencodable
      refine .inl ⟨final, ?_, finalOpen.isSteady, ?_⟩
      · rw [orElse_of_unencodable failure, Log.answer, called]
        rfl
      · rw [Log.call, Log.write, called, left]
        rfl
    · have called : state.toLog.breakFile.tryWrite row.frame row.event row.detail = _ :=
        Log.tryWrite_of_broken row.frame isOpenLog rfl
      refine .inr ⟨final, ?_, finalOpen.isSteady, ?_⟩
      · rw [orElse_of_refused refusal, Log.answer, called]
        rfl
      · rw [Log.call, Log.write, called, left]
        rfl

/-- A log is closed, also if its handle cannot write out what it has. -/
theorem closeLog_apply (steady : state.IsSteady) :
    ∃ final, closeLog state = (.ok (), final) ∧ final.IsSteady ∧
      (final.toLog = state.toLog.closeFile ∨ final.toLog = state.toLog.breakFile.closeFile) := by
  have unfolded : closeLog state =
    (match state.handle? with
      | some handle => dropHandle handle
      | none => pure ()) state := rfl
  rw [unfolded]
  rcases steady with ⟨noHandle, noWriter⟩ | ⟨handle, isOpen⟩
  · rw [noHandle]
    refine ⟨state, rfl, .inl ⟨noHandle, noWriter⟩, .inl ?_⟩
    simp [Log.closeFile, LogHandles.toLog, noHandle]
  · rw [isOpen.isHandle]
    show ∃ final, dropHandle handle state = _ ∧ _
    unfold dropHandle
    obtain ⟨closed, ⟨success, left⟩ | ⟨refusal, left⟩⟩ := closeHandle_apply isOpen
    · refine ⟨closed.forget, ?_, LogHandles.isSteady_forget, .inl ?_⟩
      · rw [bind_of_ok (orElse_of_ok success)]
        rfl
      · rw [← left]
        rfl
    · have passed : orElse (closeHandle handle) (pure ()) state = (.ok (), closed) :=
        orElse_of_refused refusal
      refine ⟨closed.forget, ?_, LogHandles.isSteady_forget, .inr ?_⟩
      · rw [bind_of_ok passed]
        rfl
      · rw [← left]
        rfl

/-- A call ends with a fault exactly if its row cannot be encoded. It leaves what it leaves with the
log, where the file may break before. -/
theorem performs (steady : state.IsSteady) (call : LogCall) :
    Performs call state state.toLog ∨ Performs call state state.toLog.breakFile := by
  have ended {log : Log} {control : LogControl} {final : LogHandles}
      (performed : perform (.control control) state = (.ok (), final)) (steady : final.IsSteady)
      (left : final.toLog = log.call (.control control)) :
      Performs (.control control) state log := ⟨final, performed, steady, left⟩
  rcases call with row | canOpen | _ | _ | clock
  · exact performs_write steady row
  · obtain ⟨final, performed, finalSteady, left⟩ :=
      openLog_apply { state with file := { state.file with canOpen := canOpen } }
    exact left.imp (ended performed finalSteady) (ended performed finalSteady)
  · obtain ⟨final, performed, finalSteady, left⟩ := closeLog_apply steady
    exact left.imp (ended performed finalSteady) (ended performed finalSteady)
  · exact .inl (ended rfl steady.breakFile rfl)
  · exact .inl (ended rfl (steady.withClock clock) rfl)

end LogAction

namespace Log

variable {log final : Log} {call : LogCall} {calls rest : List LogCall}
  {answers : List (Except EncodingFault Unit)}

theorem breakFile_of_isBroken (broken : log.file.isBroken = true) : log.breakFile = log := by
  rcases log with ⟨clock, start, ⟨canOpen, encoding, isBroken, text⟩, isOpen⟩
  cases broken
  rfl

/-- No call but the one that does nothing else breaks a file, and none mends it. -/
theorem isBroken_call : (log.call call).file.isBroken =
    (log.file.isBroken || call matches .control .breakFile) := by
  rcases call with row | canOpen | _ | _ | clock
  · obtain ⟨clock, text, written⟩ := exists_write_eq log row.frame row.event row.detail
    rw [Log.call, written, Bool.or_false]
  · cases canOpen <;> cases broken : log.file.isBroken <;>
      simp [Log.call, openFile, withFile, broken]
  · rw [Log.call, closeFile, Bool.or_false]
  · rw [Log.call, breakFile, Bool.or_true]
  · rw [Log.call, Bool.or_false]

theorem isBroken_call_of_isBroken (broken : log.file.isBroken = true) :
    (log.call call).file.isBroken = true := by
  rw [isBroken_call, broken, Bool.true_or]

theorem isBroken_run (broken : log.file.isBroken = true) :
    (log.run calls).file.isBroken = true := by
  induction calls generalizing log with
  | nil => exact broken
  | cons call rest inductionHypothesis =>
      exact inductionHypothesis (isBroken_call_of_isBroken broken)

/-- A log whose file is broken refuses nothing. -/
theorem takes_of_isBroken (broken : log.file.isBroken = true) : log.Takes calls := by
  induction calls generalizing log with
  | nil => exact takes_nil
  | cons call rest inductionHypothesis =>
      refine takes_cons.2 ⟨?_, inductionHypothesis (isBroken_call_of_isBroken broken)⟩
      cases call with
      | control control => rfl
      | write row =>
          refine (tryWrite_fst_eq_ok_iff _).2 fun _ whole => ?_
          rw [broken] at whole
          cases whole

/-- What calls may leave of a log, and answer, if the file can break before any of them. -/
inductive Leaves (log : Log) (calls : List LogCall) :
    List (Except EncodingFault Unit) → Log → Prop where
  | whole : Leaves log calls (log.answers calls) (log.run calls)
  | broken (before since : List LogCall) (split : calls = before ++ since) :
      Leaves log calls (log.answers before ++ (log.run before).breakFile.answers since)
        (log.run (before ++ .control .breakFile :: since))

namespace Leaves

/-- A file breaks once. -/
theorem eq_run (leaves : log.Leaves calls answers final) (broken : log.file.isBroken = true) :
    answers = log.answers calls ∧ final = log.run calls := by
  cases leaves with
  | whole => exact ⟨rfl, rfl⟩
  | broken before since split =>
      have still : (log.run before).breakFile = log.run before :=
        breakFile_of_isBroken (isBroken_run broken)
      rw [split, answers_append, run_append, run_append, run_cons, still]
      exact ⟨rfl, congrArg (·.run since) still⟩

/-- Calls that are taken while the file is whole are taken if it breaks. -/
theorem eq_ok (leaves : log.Leaves calls answers final) (takes : log.Takes calls) :
    ∀ answer ∈ answers, answer = .ok () := by
  cases leaves with
  | whole => exact takes
  | broken before since split =>
      rw [split] at takes
      exact List.forall_mem_append.2 ⟨(takes_append.1 takes).1, takes_of_isBroken rfl⟩

theorem encoding_eq (leaves : log.Leaves calls answers final) :
    final.file.encoding = log.file.encoding := by
  cases leaves <;> exact encoding_run

theorem cons (leaves : (log.call call).Leaves rest answers final) :
    log.Leaves (call :: rest) (log.answer call :: answers) final := by
  cases leaves with
  | whole => exact .whole
  | broken before since split =>
      rw [split]
      exact .broken (call :: before) since rfl

/-- The file breaks before the first call, and not again. -/
theorem cons_of_broken (leaves : (log.breakFile.call call).Leaves rest answers final) :
    log.Leaves (call :: rest) (log.breakFile.answer call :: answers) final := by
  obtain ⟨rfl, rfl⟩ := leaves.eq_run (isBroken_call_of_isBroken rfl)
  exact .broken [] (call :: rest) rfl

end Leaves

end Log

namespace LogAction

variable {state : LogHandles} {first second : List LogCall}

/-- How calls end that a log has answered. -/
abbrev endings (answers : List (Except EncodingFault Unit)) : List (Except FileFault Unit) :=
  answers.map (·.mapError FileFault.unencodable)

theorem performEach_cons {call : LogCall} {rest : List LogCall} :
    performEach (call :: rest) state =
      ((perform call state).1 :: (performEach rest (perform call state).2).1,
        (performEach rest (perform call state).2).2) := rfl

theorem performEach_append :
    performEach (first ++ second) state =
      ((performEach first state).1 ++ (performEach second (performEach first state).2).1,
        (performEach second (performEach first state).2).2) := by
  induction first generalizing state with
  | nil => rfl
  | cons call rest inductionHypothesis =>
      rw [List.cons_append, performEach_cons, inductionHypothesis]
      rfl

/-- Calls end with a fault exactly at rows that cannot be encoded, and leave the log that they leave
if the file breaks once. -/
theorem performEach_apply (steady : state.IsSteady) (calls : List LogCall) :
    ∃ answers final, performEach calls state = (endings answers, final) ∧ final.IsSteady ∧
      state.toLog.Leaves calls answers final.toLog := by
  induction calls generalizing state with
  | nil => exact ⟨[], state, rfl, steady, .whole⟩
  | cons call rest inductionHypothesis =>
      rcases performs steady call with
        ⟨next, performed, nextSteady, left⟩ | ⟨next, performed, nextSteady, left⟩
      · obtain ⟨answers, final, performedRest, finalSteady, leaves⟩ :=
          inductionHypothesis nextSteady
        rw [left] at leaves
        refine ⟨_, final, ?_, finalSteady, leaves.cons⟩
        rw [performEach_cons, performed, performedRest]
        rfl
      -- A file that broke before this call does not break again in the rest.
      · obtain ⟨answers, final, performedRest, finalSteady, leaves⟩ :=
          inductionHypothesis nextSteady
        rw [left] at leaves
        refine ⟨_, final, ?_, finalSteady, leaves.cons_of_broken⟩
        rw [performEach_cons, performed, performedRest]
        rfl

/-- Calls find the file whole up to one that leaves it broken, as if it had broken before that. -/
theorem performEach_whole (steady : state.IsSteady) (isWhole : state.file.isBroken = false)
    (calls : List LogCall) :
    ∃ front back whole, calls = front ++ back ∧
      performEach front state = (endings (state.toLog.answers front), whole) ∧
      whole.IsSteady ∧ whole.file.isBroken = false ∧ whole.toLog = state.toLog.run front ∧
      ∀ call rest, back = call :: rest → ∃ broken, perform call whole = (.ok (), broken) ∧
        broken.IsSteady ∧ broken.file.isBroken = true ∧
        broken.toLog = whole.toLog.breakFile.call call := by
  induction calls generalizing state with
  | nil => exact ⟨[], [], state, rfl, rfl, steady, isWhole, rfl, nofun⟩
  | cons call rest inductionHypothesis =>
      by_cases breaks : Performs call state state.toLog.breakFile
      · obtain ⟨next, performed, nextSteady, left⟩ := breaks
        have broken : next.toLog.file.isBroken = true := by
          rw [left]
          exact Log.isBroken_call_of_isBroken rfl
        have taken := Log.takes_cons.1
          (Log.takes_of_isBroken (rfl : state.toLog.breakFile.file.isBroken = true) :
            state.toLog.breakFile.Takes [call])
        rw [taken.1] at performed
        refine ⟨[], call :: rest, state, rfl, rfl, steady, isWhole, rfl, ?_⟩
        rintro _ _ ⟨rfl, rfl⟩
        exact ⟨next, performed, nextSteady, broken, left⟩
      · obtain ⟨next, performed, nextSteady, left⟩ := (performs steady call).resolve_right breaks
        have nextWhole : next.toLog.file.isBroken = false := by
          have whole : state.toLog.file.isBroken = false := isWhole
          rw [left, Log.isBroken_call, whole, Bool.false_or]
          rcases call with row | canOpen | _ | _ | clock
          · rfl
          · rfl
          · rfl
          · exact absurd ⟨state.breakFile, rfl, steady.breakFile, rfl⟩ breaks
          · rfl
        obtain ⟨front, back, whole, split, performedFront, rest⟩ :=
          inductionHypothesis nextSteady nextWhole
        refine ⟨call :: front, back, whole, congrArg (call :: ·) split, ?_, ?_⟩
        · rw [performEach_cons, performed, performedFront, left]
          rfl
        · rw [Log.run_cons, ← left]
          exact rest

end LogAction

end LiveGrid
