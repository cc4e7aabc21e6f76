import LiveGrid.Grid.Canvas
import LiveGrid.Script.Evaluate

/-!
Contract: the next canvas of a script.

Owns:
- the inputs of a cell: its index, its place and the value it had before;
- the frame: every cell evaluated in the order of the indices, with one stream of random numbers;
- the fault of a frame: the first cell that fails, and why.

A frame that fails gives no canvas, and no cell after the failing one is evaluated.

Does not own: what a script computes.
-/

namespace LiveGrid

/-- The fault of a frame: the cell that failed first, and its own fault. -/
structure FrameFault where
  index : Nat
  fault : Script.Fault

/-- The text of the fault of a frame. -/
def FrameFault.message (fault : FrameFault) : String :=
  "at cell (" ++ Number.Decimal.numeral (Grid.column fault.index) ++ ", " ++
    Number.Decimal.numeral (Grid.row fault.index) ++ "): " ++ fault.fault.message

namespace Script

/-- The inputs of the cell with an index, at a time and a loudness. -/
def cellInputs (time loudness : Float) (index : Nat) (previous : Float) : Inputs where
  time := time
  index := Float.ofNat index
  column := Float.ofNat (Grid.column index)
  row := Float.ofNat (Grid.row index)
  loudness := loudness
  previous := previous

/-- The next values of the cells from an index on, given their old ones. -/
def evaluateCells (script : Script) (time loudness : Float) :
    Nat → List Float → RandomStream → Except FrameFault (List Float) × RandomStream
  | _, [], stream => (.ok [], stream)
  | index, previous :: rest, stream =>
      match script.evaluate (cellInputs time loudness index previous) stream with
      | (.error fault, stream) => (.error ⟨index, fault⟩, stream)
      | (.ok value, stream) =>
          match evaluateCells script time loudness (index + 1) rest stream with
          | (.error fault, stream) => (.error fault, stream)
          | (.ok values, stream) => (.ok (value :: values), stream)

/-- As many cells get a value as there were. -/
theorem length_evaluateCells {script : Script} {time loudness : Float} {index : Nat}
    {previous values : List Float} {stream after : RandomStream}
    (success : evaluateCells script time loudness index previous stream = (.ok values, after)) :
    values.length = previous.length := by
  induction previous generalizing index values stream with
  | nil =>
      simp only [evaluateCells, Prod.mk.injEq, Except.ok.injEq] at success
      rw [← success.1]
  | cons head tail inductionHypothesis =>
      unfold evaluateCells at success
      split at success
      · simp at success
      · split at success
        · simp at success
        · rename_i recursion
          simp only [Prod.mk.injEq, Except.ok.injEq] at success
          rw [← success.1, List.length_cons, List.length_cons,
            inductionHypothesis (success.2 ▸ recursion)]

/-- The next canvas of a script. -/
def evaluateFrame (script : Script) (canvas : Canvas) (time loudness : Float)
    (stream : RandomStream) : Except FrameFault Canvas × RandomStream :=
  match outcome : evaluateCells script time loudness 0 canvas.values stream with
  | (.error fault, stream) => (.error fault, stream)
  | (.ok values, stream) =>
      (.ok ⟨values, (length_evaluateCells outcome).trans canvas.length_eq⟩, stream)

end Script

end LiveGrid
