import LiveGrid.Benchmark.Table
import LiveGrid.Screen.Picture
import LiveGrid.Screen.Status

/-!
Contract: the benchmark, which makes and draws frames of a built-in script and tells how long
that took.

Owns:
- the session of a benchmark, whose clock moves with every reading;
- a frame: a tick and a picture, and the times that both took by a stopwatch;
- the report, either of the components of every frame or of the run as a whole;
- the causes for which a report breaks off.

Does not own: the stopwatch, and a profile of what is called.
-/

namespace LiveGrid

/-- What a benchmark is asked to do. -/
structure BenchmarkPlan where
  frames : Int := 300
  pattern : Int := 0
  rows : Int := 40
  columns : Int := 100
  isTimed : Bool := false
  profilePath : Option String := none
  loudness : Float := 0.2

/-- Causes for which a report breaks off. -/
inductive BenchmarkFault where
  | noPattern
  | noTimes
  | noDuration
deriving DecidableEq, Repr

/-- A report: its lines, the times of the frames in seconds, and why it broke off, if it did. -/
structure BenchmarkReport where
  lines : List String
  totals : List Float
  fault : Option BenchmarkFault

namespace Benchmark

open LiveGrid.Number

/-- The text of a cause. -/
def faultMessage : BenchmarkFault → String
  | .noPattern => "tuple index out of range"
  | .noTimes => noTimesMessage
  | .noDuration => "float division by zero"

/-- A session that runs a built-in script, if its number is a digit that loads one. Its clock moves
as in a run with thirty frames a second, but with every reading. -/
def newSession (pattern : Int) (random : Script.RandomStream) : Session :=
  let session := Session.start (Clock.stepping Clock.frameStep) none random
  if pattern = 0 then session
  else (session.handleKey { key := .char, char := Decimal.wholeNumeral pattern }).2

/-- The built-in script with a number; a negative number counts from the end. -/
def pattern? (number : Int) : Option String :=
  if 0 ≤ number then patterns[number.toNat]?
  else if -(patterns.length : Int) ≤ number then patterns[(number + patterns.length).toNat]?
  else none

/-- The state of a benchmark: its session, the picture that was drawn last, the stopwatch, and the
times of all frames so far, the last ones first. -/
structure State where
  session : Session
  window : Window
  stopwatch : Clock
  ticks : List Float := []
  pictures : List Float := []
  totals : List Float := []

/-- Makes and draws a frame. -/
def frame (loudness : Float) (state : State) : State :=
  let (start, stopwatch) := state.stopwatch.read
  let (tickStart, stopwatch) := stopwatch.read
  let session := state.session.tick loudness
  let (tickEnd, stopwatch) := stopwatch.read
  let (pictureStart, stopwatch) := stopwatch.read
  let (status, session) := session.statusLine loudness
  let window := Screen.drawPicture state.window.erase ColorMap.plain session.canvas status
  let (pictureEnd, stopwatch) := stopwatch.read
  let (finish, stopwatch) := stopwatch.read
  { session := session
    window := window
    stopwatch := stopwatch
    ticks := (tickEnd - tickStart) :: state.ticks
    pictures := (pictureEnd - pictureStart) :: state.pictures
    totals := (finish - start) :: state.totals }

/-- Makes and draws frames. -/
def frames (loudness : Float) : Nat → State → State
  | 0, state => state
  | count + 1, state => frames loudness count (frame loudness state)

/-- The line that is printed after every hundredth frame: the mean time of the last hundred. -/
def progress (plan : BenchmarkPlan) (done : Nat) (latest : List Float) : List String :=
  if done % 100 = 0 then
    let mean := sumInTurn 0 (latest.take 100).reverse / 100 * 1000
    ["  frame " ++ Decimal.numeral done ++ "/" ++ Decimal.wholeNumeral plan.frames ++ "  avg " ++
      Decimal.fixed 1 mean ++ "ms/frame"]
  else []

/-- Makes and draws frames, and gives the lines that tell of the progress. -/
def timedFrames (plan : BenchmarkPlan) : Nat → Nat → State → List String × State
  | 0, _, state => ([], state)
  | count + 1, done, state =>
      let state := frame plan.loudness state
      let (lines, last) := timedFrames plan count (done + 1) state
      (progress plan (done + 1) state.totals ++ lines, last)

/-- The lines before the first frame. -/
def opening (plan : BenchmarkPlan) (source : String) : List String :=
  ["Pattern " ++ Decimal.wholeNumeral plan.pattern ++ ": " ++ source,
   "Terminal: " ++ Decimal.wholeNumeral plan.rows ++ "x" ++ Decimal.wholeNumeral plan.columns ++
     "  Frames: " ++ Decimal.wholeNumeral plan.frames,
   ""]

/-- The time that a frame may take at thirty frames a second, in milliseconds. -/
def budget : Float := 1000.0 / 30.0

/-- The lines about the budget of a frame. -/
def budgetLines (plan : BenchmarkPlan) (totals : List Float) : List String :=
  let times := milliseconds totals
  let excess := times.countP (· > budget)
  let share := Double.ofQuotient false (100 * excess) plan.frames.toNat
  ["",
   "30fps budget: " ++ Decimal.fixed 1 budget ++ "ms/frame",
   "Frames over budget: " ++ Decimal.numeral excess ++ "/" ++ Decimal.wholeNumeral plan.frames ++
     " (" ++ Decimal.fixed 1 share ++ "%)",
   "Headroom (mean): " ++ Decimal.fixed 1 (budget - Sample.mean times) ++ "ms"]

/-- The report on the components of every frame. -/
def timedReport (plan : BenchmarkPlan) (start : State) : BenchmarkReport :=
  let (lines, last) := timedFrames plan plan.frames.toNat 0 start
  let totals := last.totals.reverse
  let before := lines ++ ["", "=== Per-Frame Component Breakdown (ms) ==="] ++ heading
  match row? "tick()" last.ticks.reverse, row? "render()" last.pictures.reverse,
      row? "TOTAL (tick+render)" totals with
  | some tickRow, some pictureRow, some totalRow =>
      { lines := before ++ [tickRow, pictureRow, totalRow, "",
          "addstr calls/frame: " ++ Decimal.numeral last.window.writes.length] ++
          budgetLines plan totals
        totals := totals
        fault := none }
  | _, _, _ => { lines := before, totals := totals, fault := some .noTimes }

/-- The lines that tell where a profile was saved; none without a path. -/
def profileLines (path : String) : List String :=
  if path.isEmpty then []
  else ["Profile data saved to: " ++ path, "  View with: python3 -m pstats " ++ path, ""]

/-- The report on the run as a whole. -/
def wholeReport (plan : BenchmarkPlan) (start : State) : BenchmarkReport :=
  let (beginning, stopwatch) := start.stopwatch.read
  let last := frames plan.loudness plan.frames.toNat { start with stopwatch := stopwatch }
  let (finish, _) := last.stopwatch.read
  let duration := finish - beginning
  let count := Double.ofWhole plan.frames
  let totals := last.totals.reverse
  if plan.frames = 0 then { lines := [], totals := totals, fault := some .noDuration }
  else
    let wall := "Wall time: " ++ Decimal.fixed 2 duration ++ "s  (" ++
      Decimal.fixed 1 (duration / count * 1000) ++ "ms/frame)"
    if duration == 0 then { lines := [wall], totals := totals, fault := some .noDuration }
    else
      { lines := [wall, "Effective FPS: " ++ Decimal.fixed 1 (count / duration), ""] ++
          profileLines (plan.profilePath.getD "")
        totals := totals
        fault := none }

/-- Runs a benchmark by a stopwatch. -/
def run (plan : BenchmarkPlan) (stopwatch : Clock) (random : Script.RandomStream) :
    BenchmarkReport :=
  let start : State :=
    { session := newSession plan.pattern random
      window := { size := { rows := plan.rows, columns := plan.columns } }
      stopwatch := stopwatch }
  match pattern? plan.pattern with
  | none => { lines := [], totals := [], fault := some .noPattern }
  | some source =>
      let report := if plan.isTimed then timedReport plan start else wholeReport plan start
      { report with lines := opening plan source ++ report.lines }

end Benchmark

end LiveGrid
