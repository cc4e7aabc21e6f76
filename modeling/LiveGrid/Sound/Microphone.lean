import LiveGrid.Sound.Loudness

/-!
Contract: the microphone, whose latest loudness can be asked for at any time.

Owns:
- starting: what the sound system may do then, and what is asked of it;
- the worker, which reads one chunk of sound after the other, stores its loudness, and
  pauses after a chunk that could not be read;
- the loudness that is stored, and the number of chunks that could not be read.

A start that fails leaves nothing open. The worker is only ever started once.

Does not own: the sound system.
-/

namespace LiveGrid

namespace Sound

/-- The number of samples a second. -/
def sampleRate : Nat := 44100

/-- The number of samples in a chunk. -/
def chunkLength : Nat := 1024

/-- The number of channels. -/
def channelCount : Nat := 1

/-- The pause after a chunk that could not be read, in seconds: as long as a chunk lasts. -/
def pause : Float := Float.ofNat chunkLength / Float.ofNat sampleRate

/-- The name of the worker. -/
def workerName : String := "tixy-mic"

/-- What the sound system does when the microphone is to be started. -/
inductive System where
  /-- There is no sound system. -/
  | missing
  /-- No handle can be had. -/
  | noHandle (reason : String)
  /-- There is a handle, but no device can be opened with it. Giving the handle back may fail. -/
  | noDevice (reason : String) (failsToRelease : Bool)
  | ready
deriving DecidableEq, Repr

/-- What is asked of the sound system. -/
inductive Request where
  | create
  | openDevice
  | closeDevice
  | release
deriving DecidableEq, Repr

/-- A chunk that was read; none if reading failed. -/
abbrev Chunk := Option (List Float32)

/-- What the worker is about to do. -/
inductive WorkerStage where
  | read
  | store (level : Float)
  | rest

end Sound

/-- The state of the microphone and of its worker. -/
structure Microphone where
  isRunning : Bool := false
  error : Option String := none
  level : Float := 0
  readErrors : Nat := 0
  stage : Sound.WorkerStage := .read

namespace Microphone

open Sound

/-- The loudness that was stored last; zero as long as there is no worker. -/
def volume (microphone : Microphone) : Float :=
  if microphone.isRunning then microphone.level else 0

/-- Starts the microphone: whether it runs afterwards, its new state, and what was asked of the
sound system. -/
def start (microphone : Microphone) (system : System) : Bool × Microphone × List Request :=
  if microphone.isRunning then (true, microphone, [])
  else
    match system with
    | .missing => (false, { microphone with error := some "pyaudio is not installed" }, [])
    | .noHandle reason =>
        (false, { microphone with error := some ("no input device: " ++ reason) }, [])
    | .noDevice reason _ =>
        (false, { microphone with error := some ("no input device: " ++ reason) },
          [.create, .openDevice, .release])
    | .ready =>
        (true, { microphone with isRunning := true, stage := .read }, [.create, .openDevice])

/-- One step of the worker. Only a read takes a chunk; without one the worker waits. -/
def step (microphone : Microphone) (chunks : List Chunk) : Microphone × List Chunk :=
  match microphone.stage, chunks with
  | .read, [] => (microphone, [])
  | .read, some samples :: later => ({ microphone with stage := .store (loudness samples) }, later)
  | .read, none :: later =>
      ({ microphone with readErrors := microphone.readErrors + 1, stage := .rest }, later)
  | .store level, chunks => ({ microphone with level := level, stage := .read }, chunks)
  | .rest, chunks => ({ microphone with stage := .read }, chunks)

/-- The microphone after a chunk has been read and the worker is about to read the next one. -/
def take (microphone : Microphone) (chunk : Chunk) : Microphone :=
  let (microphone, later) := microphone.step [chunk]
  (microphone.step later).1

/-- The microphone at every read of the worker, up to the read that finds no chunk. -/
def capture (microphone : Microphone) : List Chunk → List Microphone
  | [] => [microphone]
  | chunk :: later => microphone :: (microphone.take chunk).capture later

/-- The pauses that the worker makes. -/
def pauses (chunks : List Chunk) : List Float :=
  chunks.filterMap fun chunk => if chunk.isNone then some pause else none

end Microphone

end LiveGrid
