import LiveGrid.Benchmark.Run
import LiveGrid.CommandLine.Measure
import LiveGrid.CommandLine.Show
import LiveGrid.Number.Mixing
import LiveGrid.Terminal.Escape

/-!
Contract: the command line.

Without `bench` as its first word a command runs the program: the keys are those of
the standard input, and a key that asks to quit follows them. With it, a command
runs the benchmark.

Owns: reading, writing, pausing and looking at the time.

Does not own: any decision; those are made by the modules that this one calls.
-/

namespace LiveGrid.Main

open LiveGrid.CommandLine

/-- The rest of a text that is read line by line. -/
partial def readRest (input : IO.FS.Stream) (before : String) : IO String := do
  let line ← input.getLine
  if line.isEmpty then pure before else readRest input (before ++ line)

/-- The time in seconds. -/
def seconds : IO Float := do
  pure (Float.ofNat (← IO.monoNanosNow) / 1000000000)

/-- A number that the environment sets, or else a default. -/
def environmentNumber (name : String) (default : Nat) : IO Nat := do
  pure (((← IO.getEnv name).bind String.toNat?).getD default)

/-- An endless stream of random numbers with a fresh seed. -/
def freshStream : IO Script.RandomStream := do
  let seed ← IO.rand 0 1000000007
  pure { number := Number.mixedUnit seed.toUInt64 }

/-- The path of the log: the given one, or one beside the program. -/
def logPath (arguments : Show.Arguments) : IO String := do
  match arguments.logPath with
  | some path => pure path
  | none =>
      match (← IO.appPath).parent with
      | some directory => pure (directory / Show.defaultLogName).toString
      | none => pure Show.defaultLogName

/-- Does what a run tells the terminal. -/
def play (pairs : List ColorPair) (output : IO.FS.Stream) : List TerminalCall → IO Unit
  | [] => pure ()
  | call :: rest => do
      match call with
      | .sleep duration => IO.sleep (duration * 1000).toUInt32
      | call =>
          output.putStr (Terminal.callText pairs call)
          output.flush
      play pairs output rest

/-- Runs the program. -/
def runShow (arguments : Show.Arguments) : IO UInt32 := do
  let size : WindowSize :=
    { rows := ← environmentNumber "LINES" 24
      columns := ← environmentNumber "COLUMNS" 80
      isStrict := true }
  let keys := Terminal.keysOf (← readRest (← IO.getStdin) "").toList
  let settings : RunSettings :=
    { framesPerSecond := arguments.framesPerSecond
      usesMicrophone := !arguments.noAudio
      writesLog := !arguments.noLog }
  let around : Surroundings :=
    { size := size, now := ← seconds, random := ← freshStream }
  let polls := keys.flatMap fun key => [some key, none]
  let run := Run.ofKeys settings around polls
  let output ← IO.getStdout
  output.putStr Terminal.clearText
  play (colorPairs around.colors around.pairs) output run.trace
  output.putStr (Terminal.leaveText size)
  match run.logText with
  | none => pure ()
  | some text =>
      let path ← logPath arguments
      try IO.FS.writeFile path text catch _ => pure ()
  match run.fault with
  | none => pure 0
  | some fault => do
      IO.eprintln fault.message
      pure 1

/-- The times at which the parts of a number of frames begin and end. -/
def frameTimes (loudness : Float) (window : Window) : Nat → Session → IO (List Float)
  | 0, _ => pure []
  | count + 1, session => do
      let start ← seconds
      let ticked ← IO.lazyPure fun _ => session.tick loudness
      let tickEnd ← seconds
      let (drawn, next) ← IO.lazyPure fun _ =>
        let (status, next) := ticked.statusLine loudness
        (Screen.drawPicture window ColorMap.plain next.canvas status, next)
      let pictureEnd ← seconds
      let rest ← frameTimes loudness drawn.erase count next
      pure ([start, start, tickEnd, tickEnd, pictureEnd, pictureEnd] ++ rest)

/-- Runs the benchmark. -/
def runMeasure (arguments : Measure.Arguments) : IO UInt32 := do
  let plan : BenchmarkPlan :=
    { frames := arguments.frames
      pattern := arguments.pattern
      rows := arguments.rows
      columns := arguments.columns
      isTimed := arguments.lineTiming }
  let random ← freshStream
  let window : Window := { size := { rows := plan.rows, columns := plan.columns } }
  let before ← seconds
  let times ← frameTimes plan.loudness window plan.frames.toNat
    (Benchmark.newSession plan.pattern random)
  let after ← seconds
  let readings := (if plan.isTimed then times else before :: times ++ [after]).toArray
  let report := Benchmark.run plan { reading := fun index => readings[index]?.getD after } random
  for line in report.lines do
    IO.println line
  match report.fault with
  | none => pure 0
  | some fault => do
      IO.eprintln (Benchmark.faultMessage fault)
      pure 1

/-- Prints why a command cannot be read. -/
def complain (program usage : String) (cause : OptionFault) : IO UInt32 := do
  IO.eprint (faultText program usage cause)
  pure faultCode.toUInt32

end LiveGrid.Main

/-- The command line. -/
def main (words : List String) : IO UInt32 := do
  match words with
  | "bench" :: words =>
      match LiveGrid.CommandLine.Measure.read words with
      | .run arguments => LiveGrid.Main.runMeasure arguments
      | .help => do
          IO.print LiveGrid.CommandLine.Measure.helpText
          pure 0
      | .fault cause =>
          LiveGrid.Main.complain LiveGrid.CommandLine.Measure.programName
            LiveGrid.CommandLine.Measure.usage cause
  | words =>
      match LiveGrid.CommandLine.Show.read words with
      | .run arguments => LiveGrid.Main.runShow arguments
      | .help => do
          IO.print LiveGrid.CommandLine.Show.helpText
          pure 0
      | .fault cause =>
          LiveGrid.Main.complain LiveGrid.CommandLine.Show.programName
            LiveGrid.CommandLine.Show.usage cause
