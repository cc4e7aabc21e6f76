import LiveGrid.Proofs.Sound.Handles

/-!
Contract: the worker of a running microphone and the reader of its volume, which take turns in any
order.

Owns:
- what can be observed of a turn: the worker reads a chunk, stores a loudness or sleeps, and the
  reader gets a volume;
- the script of the worker, which follows from the chunks alone;
- the worker gets on with its script at each of its turns, whatever the reader does;
- a volume is the loudness that was stored last before it.

Storing a loudness is one turn and getting a volume is one turn, since both happen under one lock.

Does not own: what a loudness is.
-/

namespace LiveGrid

namespace Sound

/-- Who has a turn. -/
inductive Party where
  | worker
  | reader
deriving DecidableEq, Repr

/-- What can be observed of a turn. -/
inductive Observation where
  | read (chunk : Chunk)
  | store (level : Float)
  | sleep (seconds : Float)
  | volume (value : Float)

namespace Observation

def isByWorker : Observation → Bool
  | .volume _ => false
  | _ => true

def isFailedRead : Observation → Bool
  | .read none => true
  | _ => false

def stored? : Observation → Option Float
  | .store level => some level
  | _ => none

/-- The loudness that was stored last; zero if there is none. -/
def lastStored (observed : List Observation) : Float :=
  (observed.filterMap stored?).getLast?.getD 0

/-- What the worker does with a chunk. -/
def ofChunk : Chunk → List Observation
  | some samples => [.read (some samples), .store (loudness samples)]
  | none => [.read none, .sleep pause]

/-- What the worker does with chunks. -/
def script (chunks : List Chunk) : List Observation := chunks.flatMap ofChunk

end Observation

end Sound

open Sound

/-- What can be observed of a step of the worker. -/
def Microphone.observeStep (microphone : Microphone) (chunks : List Chunk) : List Observation :=
  match microphone.stage, chunks with
  | .read, [] => []
  | .read, chunk :: _ => [.read chunk]
  | .store level, _ => [.store level]
  | .rest, _ => [.sleep pause]

/-- A microphone with the chunks that its worker has not read yet, and what was observed so far. -/
structure Capture where
  microphone : Microphone
  chunks : List Chunk
  observed : List Observation := []

namespace Capture

open Observation

def turn (state : Capture) : Party → Capture
  | .worker =>
      let (microphone, later) := state.microphone.step state.chunks
      { microphone := microphone
        chunks := later
        observed := state.observed ++ state.microphone.observeStep state.chunks }
  | .reader => { state with observed := state.observed ++ [.volume state.microphone.volume] }

def turns (state : Capture) (schedule : List Party) : Capture := schedule.foldl turn state

/-- What the worker has before it: the rest of what it does with the chunk that it read last, and
what it does with the others. -/
def ahead (state : Capture) : List Observation :=
  match state.microphone.stage with
  | .read => script state.chunks
  | .store level => .store level :: script state.chunks
  | .rest => .sleep pause :: script state.chunks

variable {state : Capture} {schedule : List Party} {chunks : List Chunk}

/-! ## The script -/

theorem stored_script :
    (script chunks).filterMap stored? = (chunks.filterMap id).map loudness := by
  induction chunks with
  | nil => rfl
  | cons chunk later inductionHypothesis =>
      rw [script, List.flatMap_cons, List.filterMap_append]
      cases chunk with
      | none => exact inductionHypothesis
      | some samples => exact congrArg (loudness samples :: ·) inductionHypothesis

theorem length_script : (script chunks).length = 2 * chunks.length := by
  induction chunks with
  | nil => rfl
  | cons chunk later inductionHypothesis =>
      have two : (ofChunk chunk).length = 2 := by cases chunk <;> rfl
      rw [script, List.flatMap_cons, List.length_append, two, List.length_cons]
      change 2 + (script later).length = _
      omega

theorem filterMap_stored?_filter (observed : List Observation) :
    (observed.filter isByWorker).filterMap stored? = observed.filterMap stored? := by
  rw [List.filterMap_filter]
  congr 1
  funext seen
  cases seen <;> rfl

/-- At each turn the worker does the first thing that it has before it. -/
theorem take_ahead (state : Capture) (count : Nat) :
    state.ahead.take (count + 1) =
      state.microphone.observeStep state.chunks ++ (state.turn .worker).ahead.take count := by
  obtain ⟨⟨isRunning, error, level, errors, stage⟩, chunks, observed⟩ := state
  rcases stage with _ | next | _
  · rcases chunks with _ | ⟨_ | samples, later⟩
    · exact List.take_nil.symm
    · rfl
    · rfl
  · rfl
  · rfl

theorem isByWorker_of_mem_observeStep {seen : Observation}
    (isSeen : seen ∈ state.microphone.observeStep state.chunks) : seen.isByWorker := by
  unfold Microphone.observeStep at isSeen
  split at isSeen
  · cases isSeen
  all_goals
    obtain rfl := List.mem_singleton.mp isSeen
    rfl

/-- The worker gets on with its script at each of its turns. -/
theorem filter_isByWorker_turns :
    (state.turns schedule).observed.filter isByWorker =
      state.observed.filter isByWorker ++ state.ahead.take (schedule.count .worker) := by
  induction schedule generalizing state with
  | nil => simp [turns]
  | cons party later inductionHypothesis =>
      change ((state.turn party).turns later).observed.filter isByWorker = _
      rw [inductionHypothesis]
      cases party with
      | worker =>
          have byWorker : (state.microphone.observeStep state.chunks).filter isByWorker =
              state.microphone.observeStep state.chunks :=
            List.filter_eq_self.mpr fun _ => isByWorker_of_mem_observeStep
          rw [List.count_cons_self, take_ahead, ← List.append_assoc]
          congr 1
          exact (List.filter_append ..).trans (congrArg _ byWorker)
      | reader =>
          rw [List.count_cons_of_ne (by decide)]
          congr 1
          exact (List.filter_append ..).trans (List.append_nil _)

/-! ## Volumes -/

/-- Every volume is the loudness that was stored last before it. -/
def VolumesFollow (observed : List Observation) : Prop :=
  ∀ before value after, observed = before ++ .volume value :: after → value = lastStored before

theorem volumesFollow_nil : VolumesFollow [] := by
  intro before value after split
  cases before <;> cases split

theorem VolumesFollow.concat {observed : List Observation} {seen : Observation}
    (follow : VolumesFollow observed)
    (isLast : ∀ value, seen = .volume value → value = lastStored observed) :
    VolumesFollow (observed ++ [seen]) := by
  intro before value after split
  rcases List.eq_nil_or_concat after with rfl | ⟨rest, last, rfl⟩
  · obtain ⟨rfl, isVolume⟩ := List.append_inj' split rfl
    exact isLast value (List.singleton_inj.mp isVolume)
  · have shorter : observed ++ [seen] = (before ++ .volume value :: rest) ++ [last] := by
      rw [split, List.concat_eq_append, List.append_assoc, List.cons_append]
    exact follow before value rest (List.append_inj' shorter rfl).1

/-- What has been observed agrees with the microphone. -/
structure Agrees (state : Capture) : Prop where
  isRunning : state.microphone.isRunning = true
  level : state.microphone.level = lastStored state.observed
  readErrors : state.microphone.readErrors = state.observed.countP isFailedRead
  volumes : VolumesFollow state.observed

theorem lastStored_concat {observed : List Observation} {seen : Observation} :
    lastStored (observed ++ [seen]) = seen.stored?.getD (lastStored observed) := by
  rw [lastStored, List.filterMap_append]
  cases stored : seen.stored? <;> simp [stored, lastStored]

theorem Agrees.observe (agrees : state.Agrees) {microphone : Microphone} {later : List Chunk}
    {seen : Observation} (isRunning : microphone.isRunning = true)
    (level : microphone.level = seen.stored?.getD state.microphone.level)
    (readErrors : microphone.readErrors =
      state.microphone.readErrors + if seen.isFailedRead then 1 else 0)
    (isVolume : ∀ value, seen = .volume value → value = state.microphone.level) :
    Agrees ⟨microphone, later, state.observed ++ [seen]⟩ where
  isRunning := isRunning
  level := by rw [level, lastStored_concat, agrees.level]
  readErrors := by rw [readErrors, List.countP_append, List.countP_singleton, agrees.readErrors]
  volumes := agrees.volumes.concat fun value same => (isVolume value same).trans agrees.level

/-- What one turn keeps. -/
theorem Agrees.turn (agrees : state.Agrees) (party : Party) : (state.turn party).Agrees := by
  have isRunning := agrees.isRunning
  cases party with
  | reader =>
      refine agrees.observe isRunning rfl rfl fun value same => ?_
      obtain rfl := Observation.volume.inj same
      rw [Microphone.volume, if_pos isRunning]
  | worker =>
      obtain ⟨⟨running, error, level, errors, stage⟩, chunks, observed⟩ := state
      rcases stage with _ | next | _
      · rcases chunks with _ | ⟨_ | samples, later⟩
        -- The worker waits for a chunk, and there is nothing to observe.
        · refine ⟨isRunning, ?_, ?_, ?_⟩
          all_goals
            simp only [Capture.turn, Microphone.step, Microphone.observeStep, List.append_nil]
          · exact agrees.level
          · exact agrees.readErrors
          · exact agrees.volumes
        · exact agrees.observe isRunning rfl rfl fun _ same => by cases same
        · exact agrees.observe isRunning rfl rfl fun _ same => by cases same
      · exact agrees.observe isRunning rfl rfl fun _ same => by cases same
      · exact agrees.observe isRunning rfl rfl fun _ same => by cases same

/-- What turns in any order keep. -/
theorem Agrees.turns (agrees : state.Agrees) (schedule : List Party) :
    (state.turns schedule).Agrees := by
  induction schedule generalizing state with
  | nil => exact agrees
  | cons party later inductionHypothesis => exact inductionHypothesis (agrees.turn party)

theorem countP_not_isByWorker_turns :
    ((state.turns schedule).observed.countP fun seen => !seen.isByWorker) =
      (state.observed.countP fun seen => !seen.isByWorker) + schedule.count .reader := by
  induction schedule generalizing state with
  | nil => rfl
  | cons party later inductionHypothesis =>
      change ((state.turn party).turns later).observed.countP _ = _
      rw [inductionHypothesis]
      cases party with
      | worker =>
          have noVolume : (state.microphone.observeStep state.chunks).countP
              (fun seen => !seen.isByWorker) = 0 := by
            refine List.countP_eq_zero.mpr fun seen isSeen => ?_
            rw [isByWorker_of_mem_observeStep isSeen]
            exact Bool.false_ne_true
          rw [List.count_cons_of_ne (by decide), Capture.turn, List.countP_append, noVolume,
            Nat.add_zero]
      | reader =>
          rw [List.count_cons_self, Capture.turn, List.countP_append]
          exact Nat.add_right_comm ..

end Capture

namespace Microphone

variable {microphone : Microphone}

/-- The microphone has never read a chunk. -/
structure IsUnused (microphone : Microphone) : Prop where
  level : microphone.level = 0
  readErrors : microphone.readErrors = 0
  stage : microphone.stage = .read

theorem IsUnused.start (unused : microphone.IsUnused) (system : System) :
    (microphone.start system).2.1.IsUnused := by
  obtain ⟨isRunning, error, level, errors, stage⟩ := microphone
  obtain ⟨rfl, rfl, rfl⟩ := unused
  cases isRunning with
  | true => exact ⟨rfl, rfl, rfl⟩
  | false => cases system <;> exact ⟨rfl, rfl, rfl⟩

theorem IsUnused.afterStarts (unused : microphone.IsUnused) (systems : List System) :
    (microphone.afterStarts systems).IsUnused := by
  induction systems generalizing microphone with
  | nil => exact unused
  | cons system later inductionHypothesis => exact inductionHypothesis (unused.start system)

theorem isRunning_start_ready : (microphone.start .ready).2.1.isRunning = true := by
  obtain ⟨isRunning, error, level, errors, stage⟩ := microphone
  cases isRunning <;> rfl

end Microphone

namespace Capture

open Observation

/-- The worker of a microphone that was started and the reader of its volume take turns in any
order. Every volume is the loudness that was stored last before it, and loudnesses are stored in the
order of the chunks that could be read. The worker never stops: it gets on at each of its turns with
its script, in which each chunk that cannot be read is followed by one pause. -/
theorem volume_is_last_stored (systems : List System) (chunks : List Chunk)
    (schedule : List Party) :
    let microphone := ({} : Microphone).afterStarts (systems ++ [.ready])
    let final := Capture.turns { microphone := microphone, chunks := chunks } schedule
    let levels := (chunks.filterMap id).map loudness
    final.observed.filter isByWorker = (script chunks).take (schedule.count .worker) ∧
    (final.observed.countP fun seen => !seen.isByWorker) = schedule.count .reader ∧
    final.microphone.readErrors = final.observed.countP isFailedRead ∧
    (∀ before value after, final.observed = before ++ .volume value :: after →
      value = lastStored before ∧ before.filterMap stored? <+: levels) ∧
    (2 * chunks.length ≤ schedule.count .worker → final.observed.filterMap stored? = levels) := by
  intro microphone final levels
  have unused : microphone.IsUnused :=
    Microphone.IsUnused.afterStarts ⟨rfl, rfl, rfl⟩ (systems ++ [.ready])
  have isRunning : microphone.isRunning = true := by
    simp only [microphone, Microphone.afterStarts, List.foldl_append]
    exact Microphone.isRunning_start_ready
  have agrees : final.Agrees :=
    Agrees.turns ⟨isRunning, unused.level, unused.readErrors, volumesFollow_nil⟩ schedule
  have stored : (script chunks).filterMap stored? = levels := stored_script
  have isAhead : ahead { microphone := microphone, chunks := chunks } = script chunks := by
    rw [ahead, unused.stage]
  have byWorker : final.observed.filter isByWorker =
      (script chunks).take (schedule.count .worker) := by
    rw [← isAhead]
    exact filter_isByWorker_turns
  refine ⟨byWorker, ?_, agrees.readErrors, fun before value after split => ?_, fun enough => ?_⟩
  · rw [countP_not_isByWorker_turns]
    exact Nat.zero_add _
  · refine ⟨agrees.volumes before value after split, ?_⟩
    have isPrefix : before <+: final.observed := ⟨_, split.symm⟩
    rw [← filterMap_stored?_filter, ← stored]
    refine List.IsPrefix.filterMap stored? ((isPrefix.filter isByWorker).trans ?_)
    rw [byWorker]
    exact List.take_prefix ..
  · rw [← filterMap_stored?_filter, byWorker, List.take_of_length_le (by rwa [length_script]),
      stored]

end Capture

end LiveGrid
