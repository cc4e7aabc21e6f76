import LiveGrid.Number.Decimal
import LiveGrid.Session.Clock
import LiveGrid.Text.Csv
import LiveGrid.Text.Encoding

/-!
Contract: the log of a session.

Owns:
- the file of a log: whether it can be opened, its encoding, whether writing to it fails, and its
  text;
- opening a log, which empties its file, writing a row to it, and closing it.

A row has the time since the log was made, the number of the frame, an event and
a detail. A log that is not open, or whose file fails, loses its rows silently. A
row that cannot be encoded is not lost silently: the call that was to write it is
broken off.

Does not own: which events there are.
-/

namespace LiveGrid

/-- The file of a log. There is no text before the file is first opened. -/
structure LogFile where
  canOpen : Bool := true
  encoding : Encoding := .unicode
  isBroken : Bool := false
  text : Option String := none

/-- A log: its clock, the time at which it was made, its file, and whether it is open. -/
structure Log where
  clock : Clock
  start : Float
  file : LogFile := {}
  isOpen : Bool := false

namespace Log

/-- The names of the columns. -/
def header : List String := ["time_s", "frame", "event", "detail"]

/-- A log that is not open, made at the time of a clock. -/
def new (clock : Clock) (file : LogFile) : Log :=
  let (start, clock) := clock.read
  { clock := clock, start := start, file := file }

/-- Opens the log with an empty file and writes the names of the columns. If that fails the log is
not open. -/
def openFile (log : Log) : Log :=
  if !log.file.canOpen then { log with isOpen := false }
  else if log.file.isBroken then
    { log with file := { log.file with text := some "" }, isOpen := false }
  else
    { log with file := { log.file with text := some (Text.Csv.writeRow header) }, isOpen := true }

/-- The fields of a row. -/
def row (elapsed : Float) (frame : Int) (event detail : String) : List String :=
  [Number.Decimal.fixed 2 elapsed, Number.Decimal.wholeNumeral frame, event, detail]

/-- Writes a row, if the log is open, unless the row cannot be encoded. -/
def tryWrite (log : Log) (frame : Int) (event detail : String) :
    Except EncodingFault Unit × Log :=
  if !log.isOpen then (.ok (), log)
  else
    let (now, clock) := log.clock.read
    let log := { log with clock := clock }
    if log.file.isBroken then (.ok (), log)
    else
      let line := Text.Csv.writeRow (row (now - log.start) frame event detail)
      match log.file.encoding.check line with
      | .error fault => (.error fault, log)
      | .ok () =>
          (.ok (), { log with file := { log.file with text := some (log.file.text.getD "" ++ line) } })

/-- The log after a row was to be written. -/
def write (log : Log) (frame : Int) (event detail : String) : Log :=
  (log.tryWrite frame event detail).2

/-- Closes the log. -/
def closeFile (log : Log) : Log := { log with isOpen := false }

/-- From now on everything that is done with the file fails. -/
def breakFile (log : Log) : Log := { log with file := { log.file with isBroken := true } }

end Log

end LiveGrid
