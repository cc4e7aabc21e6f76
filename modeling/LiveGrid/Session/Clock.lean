/-!
Contract: clocks, as far as a session can tell them apart.

A clock is the sequence of its readings and how many of them were taken.

Owns:
- the clock and its next reading;
- a clock that stands still, and clocks that move by a step with every reading.

Does not own: who reads a clock, and when.
-/

namespace LiveGrid

/-- What a clock shows, reading after reading, and how many readings were taken. -/
structure Clock where
  reading : Nat → Float
  taken : Nat := 0

namespace Clock

/-- The next reading of a clock. -/
def read (clock : Clock) : Float × Clock :=
  (clock.reading clock.taken, { clock with taken := clock.taken + 1 })

/-- A clock that stands still. -/
def still (time : Float) : Clock := { reading := fun _ => time }

/-- The time after a number of steps from zero, added up one by one. -/
def timeAfter (step : Nat → Float) : Nat → Float
  | 0 => 0
  | count + 1 => timeAfter step count + step count

/-- A clock that starts at zero and moves by a step before every reading. -/
def moving (step : Nat → Float) : Clock := { reading := fun index => timeAfter step (index + 1) }

/-- A clock that starts at zero and moves by the same step before every reading. -/
def stepping (step : Float) : Clock := moving fun _ => step

/-- The step of a clock that moves as in a run with thirty frames a second. -/
def frameStep : Float := 1.0 / 30.0

end Clock

end LiveGrid
