import LiveGrid.Proofs.Outcome
import LiveGrid.Sound.Microphone

/-!
Contract: a microphone with the handles that its starts create.

Owns:
- what every call of the sound system does during a start: it may fail, also where a handle is given
  back;
- a start as a program of such calls, which gives back what it holds when one of them fails;
- the events of handles, from which it can be told which handles are live.

Does not own: the worker, once it has been started.
-/

namespace LiveGrid

namespace Sound

/-- What the calls of the sound system do during a start. A text is why a call fails. -/
structure Answers where
  isPresent : Bool := true
  create : Option String := none
  openDevice : Option String := none
  failsToClose : Bool := false
  failsToRelease : Bool := false
deriving DecidableEq, Repr

/-- The sound system of which these are the answers. -/
def Answers.system (answers : Answers) : System :=
  if answers.isPresent then
    match answers.create, answers.openDevice with
    | some reason, _ => .noHandle reason
    | none, some reason => .noDevice reason answers.failsToRelease
    | none, none => .ready
  else .missing

/-- What happens to handles, and the start of a worker. Handles are numbered. Giving one back
counts, also if it fails. -/
inductive HandleEvent where
  | created (handle : Nat)
  | opened (handle : Nat)
  | refused (handle : Nat)
  | closed (handle : Nat)
  | released (handle : Nat)
  | launched
deriving DecidableEq, Repr

namespace HandleEvent

/-- What is asked of the sound system when something happens to a handle. -/
def request? : HandleEvent → Option Request
  | .created _ => some .create
  | .opened _ => some .openDevice
  | .refused _ => some .openDevice
  | .closed _ => some .closeDevice
  | .released _ => some .release
  | .launched => none

/-- The handle that is created. -/
def created? : HandleEvent → Option Nat
  | .created handle => some handle
  | _ => none

/-- The same with handles whose numbers are higher. -/
def shift (count : Nat) : HandleEvent → HandleEvent
  | .created handle => .created (count + handle)
  | .opened handle => .opened (count + handle)
  | .refused handle => .refused (count + handle)
  | .closed handle => .closed (count + handle)
  | .released handle => .released (count + handle)
  | .launched => .launched

/-- The handles that were created and not given back. -/
def live (events : List HandleEvent) : List Nat :=
  (events.filterMap created?).filter fun handle => .released handle ∉ events

end HandleEvent

end Sound

/-- The microphone after starts, one after the other. -/
def Microphone.afterStarts (microphone : Microphone) (systems : List Sound.System) : Microphone :=
  systems.foldl (fun microphone system => (microphone.start system).2.1) microphone

/-- A start succeeds if the microphone runs already or nothing fails. -/
theorem Microphone.start_fst_eq_true_iff (microphone : Microphone) (system : Sound.System) :
    (microphone.start system).1 = true ↔ microphone.isRunning = true ∨ system = .ready := by
  cases isRunning : microphone.isRunning <;> cases system <;> simp [Microphone.start, isRunning]

/-- A microphone with its handle and its stream, which has the number of the handle that it was
opened with; how many handles there were; and what has happened so far. -/
structure MicrophoneHandles where
  microphone : Microphone := {}
  handle? : Option Nat := none
  stream? : Option Nat := none
  handleCount : Nat := 0
  events : List Sound.HandleEvent := []

namespace MicrophoneHandles

open Sound

def happen (state : MicrophoneHandles) (event : HandleEvent) : MicrophoneHandles :=
  { state with events := state.events ++ [event] }

def fail (state : MicrophoneHandles) (error : String) : MicrophoneHandles :=
  { state with microphone := { state.microphone with error := some error } }

def create (state : MicrophoneHandles) : MicrophoneHandles :=
  { state with handleCount := state.handleCount + 1 }.happen (.created state.handleCount)

def launch (state : MicrophoneHandles) : MicrophoneHandles :=
  { state with microphone := { state.microphone with isRunning := true, stage := .read } }.happen
    .launched

end MicrophoneHandles

/-- Programs of calls of the sound system; a text is why one fails. -/
abbrev StartAction := ExceptT String (StateM MicrophoneHandles)

namespace StartAction

open Sound

/-! ## Calls -/

def createHandle (answers : Answers) : StartAction Nat := do
  let state ← get
  match answers.create with
  | some reason => throw reason
  | none =>
      set state.create
      pure state.handleCount

def openDevice (answers : Answers) (handle : Nat) : StartAction Nat := do
  match answers.openDevice with
  | some reason =>
      modify (·.happen (.refused handle))
      throw reason
  | none =>
      modify (·.happen (.opened handle))
      pure handle

def closeStream (answers : Answers) (stream : Nat) : StartAction Unit := do
  modify (·.happen (.closed stream))
  if answers.failsToClose then throw "the stream cannot be closed"

def release (answers : Answers) (handle : Nat) : StartAction Unit := do
  modify (·.happen (.released handle))
  if answers.failsToRelease then throw "the handle cannot be given back"

/-- Goes on where a program fails. -/
def passOver (action : StartAction Unit) : StartAction Unit := tryCatch action fun _ => pure ()

/-! ## Starts -/

/-- Gives back what is held. -/
def cleanUp (answers : Answers) : StartAction Unit := do
  passOver do
    match (← get).stream? with
    | some stream => closeStream answers stream
    | none => pure ()
  modify fun state => { state with stream? := none }
  passOver do
    match (← get).handle? with
    | some handle => release answers handle
    | none => pure ()
  modify fun state => { state with handle? := none }

/-- Opens the device with a new handle. -/
def openInput (answers : Answers) : StartAction Unit := do
  let handle ← createHandle answers
  modify fun state => { state with handle? := some handle }
  let stream ← openDevice answers handle
  modify fun state => { state with stream? := some stream }

/-- Starts the microphone, unless it runs: whether it runs afterwards. -/
def start (answers : Answers) : StartAction Bool := do
  if (← get).microphone.isRunning then return true
  if !answers.isPresent then
    modify (·.fail "pyaudio is not installed")
    return false
  let hasOpened ← tryCatch
    (do
      openInput answers
      pure true)
    fun reason => do
      modify (·.fail ("no input device: " ++ reason))
      cleanUp answers
      pure false
  if hasOpened then modify (·.launch)
  pure hasOpened

end StartAction

namespace MicrophoneHandles

open Sound

/-- The state after a start. -/
def afterStart (state : MicrophoneHandles) (answers : Answers) : MicrophoneHandles :=
  (StartAction.start answers state).2

/-- The state after starts, one after the other. -/
def afterStarts (state : MicrophoneHandles) (answers : List Answers) : MicrophoneHandles :=
  answers.foldl afterStart state

/-- What a new microphone has become, for one that failed to start before: the numbers of its
handles go on, and the reason of an earlier failure stays where there is no later one. -/
def since (fresh before : MicrophoneHandles) : MicrophoneHandles where
  microphone :=
    { fresh.microphone with error := fresh.microphone.error <|> before.microphone.error }
  handle? := fresh.handle?.map (before.handleCount + ·)
  stream? := fresh.stream?.map (before.handleCount + ·)
  handleCount := before.handleCount + fresh.handleCount
  events := before.events ++ fresh.events.map (HandleEvent.shift before.handleCount)

end MicrophoneHandles

namespace Sound.HandleEvent

variable {events : List HandleEvent} {count handle : Nat}

/-! ## Higher numbers -/

theorem filterMap_created?_shift :
    (events.map (shift count)).filterMap created? =
      (events.filterMap created?).map (count + ·) := by
  rw [List.filterMap_map, List.map_filterMap]
  congr 1
  funext event
  cases event <;> rfl

theorem count_launched_shift :
    (events.map (shift count)).count .launched = events.count .launched := by
  rw [List.count, List.countP_map]
  congr 1
  funext event
  cases event <;> rfl

theorem count_released_shift :
    (events.map (shift count)).count (.released handle) =
      if count ≤ handle then events.count (.released (handle - count)) else 0 := by
  rw [List.count, List.countP_map]
  split
  case isTrue atLeast =>
    refine List.countP_congr fun event _ => ?_
    cases event <;> simp [shift]
    omega
  case isFalse below =>
    rw [List.countP_eq_zero]
    intro event _
    cases event <;> simp [shift]
    omega

end Sound.HandleEvent

namespace MicrophoneHandles

open Sound Sound.HandleEvent

variable {state fresh before : MicrophoneHandles}

/-! ## Microphones that do not run -/

/-- The microphone does not run and holds nothing. But for its error it is a new one. -/
def IsIdle (state : MicrophoneHandles) : Prop :=
  ∃ error count events,
    state = { microphone := { error := error }, handleCount := count, events := events }

theorem isIdle_new : ({} : MicrophoneHandles).IsIdle := ⟨none, 0, [], rfl⟩

theorem IsIdle.isRunning (idle : state.IsIdle) : state.microphone.isRunning = false := by
  obtain ⟨error, count, events, rfl⟩ := idle
  rfl

end MicrophoneHandles

namespace StartAction

open Sound

variable {state : MicrophoneHandles} {answers : Answers}

theorem start_of_isRunning (isRunning : state.microphone.isRunning = true) :
    start answers state = (.ok true, state) := by
  obtain ⟨⟨running, error, level, errors, stage⟩, handle, stream, count, events⟩ := state
  cases isRunning
  rfl

/-- What a start does to a microphone that does not run. -/
theorem start_of_isIdle (idle : state.IsIdle) :
    start answers state =
      match answers.system with
      | .missing => (.ok false, state.fail "pyaudio is not installed")
      | .noHandle reason => (.ok false, state.fail ("no input device: " ++ reason))
      | .noDevice reason _ =>
          (.ok false, ((state.create.happen (.refused state.handleCount)).happen
            (.released state.handleCount)).fail ("no input device: " ++ reason))
      | .ready =>
          (.ok true, { state.create.happen (.opened state.handleCount) with
            handle? := some state.handleCount
            stream? := some state.handleCount }.launch) := by
  obtain ⟨error, count, events, rfl⟩ := idle
  obtain ⟨_ | _, _ | _, _ | _, _, _ | _⟩ := answers <;> rfl

/-- A start leaves what it leaves of a new microphone. -/
theorem start_eq_since (idle : state.IsIdle) :
    start answers state = ((start answers {}).1, (start answers {}).2.since state) := by
  rw [start_of_isIdle idle, start_of_isIdle MicrophoneHandles.isIdle_new]
  obtain ⟨error, count, events, rfl⟩ := idle
  rcases answers.system with _ | _ | _ | _
  all_goals
    refine Prod.ext rfl ?_
    simp [MicrophoneHandles.since, MicrophoneHandles.fail, MicrophoneHandles.create,
      MicrophoneHandles.happen, MicrophoneHandles.launch, HandleEvent.shift]

end StartAction

namespace MicrophoneHandles

open Sound Sound.HandleEvent StartAction

variable {state fresh before : MicrophoneHandles} {answers : Answers}

theorem afterStart_of_isRunning (isRunning : state.microphone.isRunning = true) :
    state.afterStart answers = state := by
  rw [afterStart, start_of_isRunning isRunning]

theorem afterStarts_of_isRunning (isRunning : state.microphone.isRunning = true)
    (later : List Answers) : state.afterStarts later = state := by
  induction later with
  | nil => rfl
  | cons next later inductionHypothesis =>
      rw [afterStarts, List.foldl_cons, afterStart_of_isRunning isRunning]
      exact inductionHypothesis

theorem afterStart_eq_since (idle : state.IsIdle) :
    state.afterStart answers = (({} : MicrophoneHandles).afterStart answers).since state := by
  rw [afterStart, start_eq_since idle]
  rfl

/-! ## Accounts -/

/-- Every handle is given back once, but for the one that a running microphone holds. -/
structure Accounts (state : MicrophoneHandles) : Prop where
  idle : state.microphone.isRunning = false → state.IsIdle
  isSome_handle? : state.handle?.isSome = state.microphone.isRunning
  lt_handleCount : ∀ handle, state.handle? = some handle → handle < state.handleCount
  created : state.events.filterMap created? = List.range state.handleCount
  released : ∀ handle, state.events.count (.released handle) =
    if handle < state.handleCount ∧ state.handle? ≠ some handle then 1 else 0
  launched : state.events.count .launched = if state.microphone.isRunning then 1 else 0

theorem accounts_new : ({} : MicrophoneHandles).Accounts where
  idle _ := isIdle_new
  isSome_handle? := rfl
  lt_handleCount := nofun
  created := rfl
  released _ := by simp
  launched := rfl

theorem accounts_afterStart_new : (({} : MicrophoneHandles).afterStart answers).Accounts := by
  rw [afterStart, start_of_isIdle isIdle_new]
  rcases answers.system with _ | reason | ⟨reason, failsToRelease⟩ | _
  · exact ⟨fun _ => ⟨_, _, _, rfl⟩, rfl, nofun, rfl, fun _ => by simp [fail], rfl⟩
  · exact ⟨fun _ => ⟨_, _, _, rfl⟩, rfl, nofun, rfl, fun _ => by simp [fail], rfl⟩
  · refine ⟨fun _ => ⟨_, _, _, rfl⟩, rfl, nofun, rfl, fun handle => ?_, rfl⟩
    cases handle <;> simp [fail, happen, create]
  · refine ⟨nofun, rfl, fun handle held => ?_, rfl, fun handle => ?_, rfl⟩
    · cases held
      exact Nat.zero_lt_one
    · cases handle <;> simp [launch, happen, create]

/-- Accounts go on from a microphone that holds nothing. -/
theorem Accounts.since (accounts : fresh.Accounts) (past : before.Accounts) (idle : before.IsIdle) :
    (fresh.since before).Accounts where
  idle stopped := by
    obtain ⟨error, count, events, rfl⟩ := accounts.idle stopped
    exact ⟨_, _, _, rfl⟩
  isSome_handle? := by
    rw [MicrophoneHandles.since, Option.isSome_map]
    exact accounts.isSome_handle?
  lt_handleCount handle held := by
    obtain ⟨number, isNumber, rfl⟩ := Option.map_eq_some_iff.mp held
    exact Nat.add_lt_add_left (accounts.lt_handleCount number isNumber) _
  created := by
    simp only [MicrophoneHandles.since, List.filterMap_append, filterMap_created?_shift,
      accounts.created, past.created, List.range_add]
  released handle := by
    have noHandle : before.handle? = none := by
      obtain ⟨error, count, events, rfl⟩ := idle
      rfl
    simp only [MicrophoneHandles.since, List.count_append, count_released_shift, accounts.released,
      past.released, noHandle]
    by_cases isPast : handle < before.handleCount
    · have noNumber : ∀ number, before.handleCount + number ≠ handle := by omega
      simp [isPast, Nat.not_le_of_lt isPast, Nat.lt_add_right _ isPast, noNumber]
    · obtain ⟨number, rfl⟩ := Nat.exists_eq_add_of_le (Nat.le_of_not_lt isPast)
      simp
  launched := by
    have none : before.events.count .launched = 0 := by
      rw [past.launched, idle.isRunning]
      rfl
    simp only [MicrophoneHandles.since, List.count_append, count_launched_shift, accounts.launched,
      none, Nat.zero_add]
    rfl

/-- What one start keeps. -/
theorem Accounts.afterStart (accounts : state.Accounts) (answers : Answers) :
    (state.afterStart answers).Accounts := by
  cases isRunning : state.microphone.isRunning with
  | true =>
      rw [afterStart_of_isRunning isRunning]
      exact accounts
  | false =>
      rw [afterStart_eq_since (accounts.idle isRunning)]
      exact accounts_afterStart_new.since accounts (accounts.idle isRunning)

theorem Accounts.afterStarts (accounts : state.Accounts) (later : List Answers) :
    (state.afterStarts later).Accounts := by
  induction later generalizing state with
  | nil => exact accounts
  | cons next later inductionHypothesis => exact inductionHypothesis (accounts.afterStart next)

/-- A live handle is one that is held. -/
theorem Accounts.live_eq (accounts : state.Accounts) :
    live state.events = state.handle?.toList := by
  have isLive : ∀ handle ∈ List.range state.handleCount,
      decide (.released handle ∉ state.events) = decide (state.handle? = some handle) := by
    intro handle isCreated
    rw [List.mem_range] at isCreated
    rw [decide_eq_decide, ← List.count_eq_zero, accounts.released]
    simp [isCreated]
  rw [live, accounts.created, List.filter_congr isLive]
  cases held : state.handle? with
  | none => simp
  | some handle =>
      have isCreated := accounts.lt_handleCount handle held
      simp only [Option.some.injEq, @eq_comm Nat handle]
      rw [List.filter_eq, List.count_range, if_pos isCreated]
      rfl

/-! ## Starts after starts -/

/-- A start never ends with a fault. It does what the microphone does and gives back the handle that
it creates, unless the microphone runs afterwards. -/
theorem Accounts.start_apply (accounts : state.Accounts) (answers : Answers) :
    start answers state =
        (.ok (state.afterStart answers).microphone.isRunning, state.afterStart answers) ∧
      ∃ made,
        (state.afterStart answers).events = state.events ++ made ∧
        state.microphone.start answers.system =
          ((state.afterStart answers).microphone.isRunning, (state.afterStart answers).microphone,
            made.filterMap request?) ∧
        ∀ handle, .created handle ∈ made → state.handleCount ≤ handle ∧
          made.count (.released handle) =
            if (state.afterStart answers).microphone.isRunning then 0 else 1 := by
  cases isRunning : state.microphone.isRunning with
  | true =>
      rw [afterStart_of_isRunning isRunning, start_of_isRunning isRunning, isRunning]
      refine ⟨rfl, [], by simp, ?_, by simp⟩
      simp [Microphone.start, isRunning]
  | false =>
      have idle := accounts.idle isRunning
      rw [MicrophoneHandles.afterStart, start_of_isIdle idle]
      obtain ⟨error, count, events, rfl⟩ := idle
      rcases answers.system with _ | reason | ⟨reason, failsToRelease⟩ | _
      · exact ⟨rfl, [], by simp [fail], rfl, by simp⟩
      · exact ⟨rfl, [], by simp [fail], rfl, by simp⟩
      · refine ⟨rfl, [.created count, .refused count, .released count], ?_, rfl, ?_⟩
        · simp [fail, happen, create]
        · intro handle isCreated
          obtain rfl : handle = count := by simpa using isCreated
          exact ⟨Nat.le_refl handle, by simp [fail, happen, create]⟩
      · refine ⟨rfl, [.created count, .opened count, .launched], ?_, rfl, ?_⟩
        · simp [launch, happen, create]
        · intro handle isCreated
          obtain rfl : handle = count := by simpa using isCreated
          exact ⟨Nat.le_refl handle, by simp [launch, happen, create]⟩

theorem exists_events_afterStarts (accounts : state.Accounts) (later : List Answers) :
    ∃ made, (state.afterStarts later).events = state.events ++ made := by
  induction later generalizing state with
  | nil => exact ⟨[], (List.append_nil _).symm⟩
  | cons next later inductionHypothesis =>
      obtain ⟨-, made, madeNext, -⟩ := accounts.start_apply next
      obtain ⟨rest, madeLater⟩ := inductionHypothesis (accounts.afterStart next)
      exact ⟨made ++ rest, by rw [← List.append_assoc, ← madeNext]; exact madeLater⟩

/-- A start after which the microphone does not run says why. -/
theorem Accounts.isSome_error (accounts : state.Accounts)
    (stopped : (state.afterStart answers).microphone.isRunning = false) :
    (state.afterStart answers).microphone.error.isSome := by
  cases isRunning : state.microphone.isRunning with
  | true =>
      rw [afterStart_of_isRunning isRunning, isRunning] at stopped
      cases stopped
  | false =>
      rw [MicrophoneHandles.afterStart, start_of_isIdle (accounts.idle isRunning)] at stopped ⊢
      rcases system : answers.system with _ | reason | ⟨reason, failsToRelease⟩ | _
      · rfl
      · rfl
      · rfl
      · rw [system] at stopped
        cases stopped

theorem Accounts.microphone_afterStarts (accounts : state.Accounts) (later : List Answers) :
    (state.afterStarts later).microphone =
      state.microphone.afterStarts (later.map Answers.system) := by
  induction later generalizing state with
  | nil => rfl
  | cons next later inductionHypothesis =>
      obtain ⟨-, made, -, sameStart, -⟩ := accounts.start_apply next
      rw [List.map_cons, Microphone.afterStarts, List.foldl_cons, sameStart]
      exact inductionHypothesis (accounts.afterStart next)

theorem Accounts.count_released_le_one (accounts : state.Accounts) (handle : Nat) :
    state.events.count (.released handle) ≤ 1 := by
  rw [accounts.released]
  split
  · exact Nat.le_refl 1
  · exact Nat.zero_le 1

theorem Accounts.length_live (accounts : state.Accounts) :
    (live state.events).length = if state.microphone.isRunning then 1 else 0 := by
  rw [accounts.live_eq, ← accounts.isSome_handle?]
  cases state.handle? <;> rfl

/-- What a start has given back is not given back by later ones, nor is what it holds. -/
theorem Accounts.count_released_afterStarts (accounts : state.Accounts) (later : List Answers)
    {handle : Nat} (givenBack : state.events.count (.released handle) =
      if state.microphone.isRunning then 0 else 1) :
    (state.afterStarts later).events.count (.released handle) =
      if state.microphone.isRunning then 0 else 1 := by
  cases isRunning : state.microphone.isRunning with
  | true => rw [afterStarts_of_isRunning isRunning, givenBack, isRunning]
  | false =>
      rw [isRunning] at givenBack
      obtain ⟨rest, madeLater⟩ := exists_events_afterStarts accounts later
      have atMostOnce := (accounts.afterStarts later).count_released_le_one handle
      rw [madeLater, List.count_append, givenBack] at atMostOnce ⊢
      simp only [Bool.false_eq_true, ↓reduceIte] at atMostOnce ⊢
      omega

/-- After starts of which the last one failed there is an error. -/
theorem Accounts.isSome_error_afterStarts (accounts : state.Accounts) {earlier : List Answers}
    (wasStarted : earlier ≠ [])
    (stopped : (state.afterStarts earlier).microphone.isRunning = false) :
    (state.afterStarts earlier).microphone.error.isSome := by
  rw [← List.dropLast_concat_getLast wasStarted] at stopped ⊢
  rw [MicrophoneHandles.afterStarts, List.foldl_append] at stopped ⊢
  exact (accounts.afterStarts earlier.dropLast).isSome_error stopped

/-- No handle is lost and none is given back twice, whatever fails in starts of a microphone. Every
start ends with whether the microphone runs afterwards, which it does if it ran before or nothing
fails. If it does not run, the start has given back each handle that it created, once and for all;
otherwise that handle is never given back. So there is one live handle and one worker while the
microphone runs, and there is none otherwise. A microphone that runs does nothing more at a start.
One that does not run has the volume zero and the error of its last start, and starts like a new
one. -/
theorem start_leaks_no_handle (earlier : List Answers) (next : Answers) (later : List Answers) :
    let before := ({} : MicrophoneHandles).afterStarts earlier
    let after := before.afterStart next
    let final := after.afterStarts later
    let isRunning := after.microphone.isRunning
    start next before = (.ok isRunning, after) ∧
    (isRunning = true ↔ before.microphone.isRunning = true ∨ next.system = .ready) ∧
    before.microphone = ({} : Microphone).afterStarts (earlier.map Answers.system) ∧
    (∃ made,
      after.events = before.events ++ made ∧
      before.microphone.start next.system =
        (isRunning, after.microphone, made.filterMap request?) ∧
      (∀ handle, .created handle ∈ made →
        made.count (.released handle) = (if isRunning then 0 else 1) ∧
        final.events.count (.released handle) = (if isRunning then 0 else 1)) ∧
      (before.microphone.isRunning = true → made = [] ∧ after = before)) ∧
    (∀ handle, after.events.count (.released handle) ≤ 1) ∧
    (live after.events).length = (if isRunning then 1 else 0) ∧
    after.events.count .launched = (if isRunning then 1 else 0) ∧
    (before.microphone.isRunning = false →
      before.microphone.volume = 0 ∧
      (earlier ≠ [] → before.microphone.error.isSome) ∧
      start next {} = (.ok isRunning, ({} : MicrophoneHandles).afterStart next) ∧
      after = (({} : MicrophoneHandles).afterStart next).since before) := by
  intro before after final isRunning
  have past : before.Accounts := accounts_new.afterStarts earlier
  have accounts : after.Accounts := past.afterStart next
  obtain ⟨applied, made, madeNext, sameStart, givenBack⟩ := past.start_apply next
  have succeeds := before.microphone.start_fst_eq_true_iff next.system
  rw [sameStart] at succeeds
  refine ⟨applied, succeeds, accounts_new.microphone_afterStarts earlier,
    ⟨made, madeNext, sameStart, ?_, fun runs => ?_⟩, accounts.count_released_le_one,
    accounts.length_live, accounts.launched, fun stopped => ⟨?_, fun wasStarted => ?_, ?_, ?_⟩⟩
  · intro handle isCreated
    obtain ⟨isNew, once⟩ := givenBack handle isCreated
    refine ⟨once, accounts.count_released_afterStarts later ?_⟩
    have notBefore : before.events.count (.released handle) = 0 := by
      rw [past.released, if_neg fun isOld => Nat.not_lt_of_le isNew isOld.1]
    rw [madeNext, List.count_append, notBefore, Nat.zero_add, once]
  · have same : after = before := afterStart_of_isRunning runs
    refine ⟨?_, same⟩
    rw [← List.self_eq_append_right, ← madeNext]
    exact congrArg events same.symm
  · simp [Microphone.volume, stopped]
  · exact accounts_new.isSome_error_afterStarts wasStarted stopped
  · have sameRun : isRunning = (({} : MicrophoneHandles).afterStart next).microphone.isRunning :=
      congrArg (·.microphone.isRunning) (afterStart_eq_since (past.idle stopped))
    rw [sameRun]
    exact (accounts_new.start_apply next).1
  · exact afterStart_eq_since (past.idle stopped)

end MicrophoneHandles

end LiveGrid
