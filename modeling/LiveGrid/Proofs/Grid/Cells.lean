import LiveGrid.Proofs.Grid.Frame
import LiveGrid.Proofs.Script.Floats
import LiveGrid.Proofs.Script.Randomness
import Mathlib.Data.List.GetD

/-!
Contract: cells do not influence each other.

Owns:
- frames of one script, one after the other, and the evaluations of one cell, each from the value of
  the one before;
- without random numbers a cell of the last canvas is what the evaluations of that cell give;
- so two canvases that agree at a cell agree there after the same frames.

The frames may find any streams of random numbers, among them those that the frames before them
leave.

Does not own: which frames succeed.
-/

namespace LiveGrid

/-- When a frame is made: its time and its loudness, and the random numbers that it finds. -/
structure Moment where
  time : Float
  loudness : Float
  stream : Script.RandomStream

namespace Script

/-- The canvas after frames, one after the other. -/
def drawMoments (script : Script) (canvas : Canvas) (moments : List Moment) :
    Except FrameFault Canvas :=
  moments.foldlM
    (fun canvas moment =>
      (script.evaluateFrame canvas moment.time moment.loudness moment.stream).1)
    canvas

/-- The value of a cell after evaluations, one after the other. Each has a time and a loudness, and
starts from the value of the one before. -/
def iterateCell (script : Script) (index : Nat) (first : Float) (times : List (Float × Float)) :
    Evaluation Float :=
  times.foldlM
    (fun previous (time, loudness) =>
      script.evaluate
        { time := time
          index := Float.ofNat index
          column := Float.ofNat (index % 32)
          row := Float.ofNat (index / 32)
          loudness := loudness
          previous := previous })
    first

/-- The times of moments, with the loudness at each of them. -/
def timesOf (moments : List Moment) : List (Float × Float) :=
  moments.map fun moment => (moment.time, moment.loudness)

variable {script : Script} {canvas next : Canvas} {time loudness : Float} {index : Nat}
  {stream : RandomStream}

/-! ## One frame -/

/-- A frame that succeeds holds the value that its cell was evaluated to. -/
theorem outcomeOf_of_evaluateFrame
    (success : (script.evaluateFrame canvas time loudness stream).1 = .ok next)
    (below : index < Grid.cellCount) :
    ∃ value, next.values[index]? = some value ∧
      outcomeOf (script.cellEvaluation canvas time loudness) stream index = .ok value := by
  rcases all_ok_or_failsFirst Grid.cellCount with allOk | ⟨failing, failingBelow, fault, failsFirst⟩
  · obtain ⟨drawn, frame, areValues⟩ := evaluateFrame_of_all_ok allOk
    rw [frame] at success
    cases success
    exact areValues index below
  · rw [evaluateFrame_of_failsFirst failingBelow failsFirst] at success
    cases success

/-- Without random numbers it does not matter which cells are evaluated before. -/
theorem evaluate_of_evaluateFrame (takesNone : ∀ inputs, TakesAtMost 0 (script.evaluate inputs))
    (success : (script.evaluateFrame canvas time loudness stream).1 = .ok next)
    (below : index < Grid.cellCount) (other : RandomStream) :
    script.cellEvaluation canvas time loudness index other =
      (.ok (next.values.getD index 0), other) := by
  obtain ⟨value, found, outcome⟩ := outcomeOf_of_evaluateFrame success below
  have takes : TakesAtMost 0 (script.cellEvaluation canvas time loudness index) := takesNone _
  have same := takes.apply_eq
    (streamBefore (script.cellEvaluation canvas time loudness) stream index) other
  have isValue : next.values.getD index 0 = value := by
    rw [List.getD_eq_getElem?_getD, found, Option.getD_some]
  rw [isValue, ← outcome]
  exact same

/-! ## Frames one after the other -/

/-- After frames without random numbers, a cell holds what its own evaluations give. -/
theorem iterateCell_of_drawMoments (takesNone : ∀ inputs, TakesAtMost 0 (script.evaluate inputs))
    {moments : List Moment} {final : Canvas} (drawn : script.drawMoments canvas moments = .ok final)
    (below : index < Grid.cellCount) (other : RandomStream) :
    script.iterateCell index (canvas.values.getD index 0) (timesOf moments) other =
      (.ok (final.values.getD index 0), other) := by
  induction moments generalizing canvas with
  | nil =>
      cases drawn
      rfl
  | cons moment rest inductionHypothesis =>
      obtain ⟨between, first, drawnRest⟩ := bind_eq_ok_iff.1 drawn
      have evaluated := evaluate_of_evaluateFrame takesNone first below other
      show (script.cellEvaluation canvas moment.time moment.loudness index >>=
        fun value => script.iterateCell index value (timesOf rest)) other = _
      rw [bind_apply, evaluated]
      exact inductionHypothesis drawnRest

/-- A script of which no cell ever fails draws every frame. -/
theorem exists_drawMoments
    (neverFails : ∀ inputs stream, ∃ value after, script.evaluate inputs stream = (.ok value, after))
    (canvas : Canvas) (moments : List Moment) :
    ∃ final, script.drawMoments canvas moments = .ok final := by
  induction moments generalizing canvas with
  | nil => exact ⟨canvas, rfl⟩
  | cons moment rest inductionHypothesis =>
      have allOk : ∀ index < Grid.cellCount, ∃ value,
          outcomeOf (script.cellEvaluation canvas moment.time moment.loudness) moment.stream index =
            .ok value := by
        intro index below
        obtain ⟨value, after, success⟩ := neverFails _ (streamBefore _ moment.stream index)
        exact ⟨value, congrArg Prod.fst success⟩
      obtain ⟨next, frame, -⟩ := evaluateFrame_of_all_ok allOk
      obtain ⟨final, drawnRest⟩ := inductionHypothesis next
      exact ⟨final, bind_eq_ok_iff.2 ⟨next, congrArg Prod.fst frame, drawnRest⟩⟩

/-- A script that asks for no random number makes every cell on its own. After frames that succeed a
cell holds what as many evaluations with its own index, column and row give, from its own first value
on, each from the value of the one before. So two canvases that agree at a cell agree there after
frames at the same times, whatever their other cells hold. -/
theorem values_drawMoments_eq_iterateCell {source : String} {tree : List Statement}
    (parsed : Grammar.parse? source = some tree) (compiled : compile source = .ok script)
    (noRandom : randomCalls tree = 0) {moments : List Moment} {final : Canvas}
    (drawn : script.drawMoments canvas moments = .ok final) (below : index < 1024) :
    (∀ other, script.iterateCell index (canvas.values.getD index 0) (timesOf moments) other =
      (.ok (final.values.getD index 0), other)) ∧
    ∀ (twin twinFinal : Canvas) (twinMoments : List Moment),
      twin.values.getD index 0 = canvas.values.getD index 0 →
      timesOf twinMoments = timesOf moments →
      script.drawMoments twin twinMoments = .ok twinFinal →
        twinFinal.values.getD index 0 = final.values.getD index 0 := by
  have takesNone : ∀ inputs, TakesAtMost 0 (script.evaluate inputs) := by
    intro inputs
    rw [← noRandom]
    exact takesAtMost_evaluate_of_compile parsed compiled inputs
  have iterated := iterateCell_of_drawMoments takesNone drawn below
  refine ⟨iterated, fun twin twinFinal twinMoments agree sameTimes twinDrawn => ?_⟩
  have twinIterated := iterateCell_of_drawMoments takesNone twinDrawn below ⟨fun _ => 0, 0⟩
  rw [agree, sameTimes, iterated] at twinIterated
  exact (Except.ok.inj (congrArg Prod.fst twinIterated)).symm

/-- A script with locals, one of them the name of a constant, on two canvases that differ in their
lower halves. -/
theorem values_drawMoments_reused_names :
    let source := "h=a+x;PI=h*2.5;h+=t;PI-h"
    let moments : List Moment := [⟨0.5, 0, ⟨fun _ => 0.25, 0⟩⟩, ⟨1, 0.5, ⟨fun _ => 0.75, 3⟩⟩]
    let twin : Canvas := ⟨List.replicate 512 0 ++ List.replicate 512 1, by
      rw [List.length_append, List.length_replicate, List.length_replicate]
      rfl⟩
    ∃ tree script final twinFinal, Grammar.parse? source = some tree ∧
      compile source = .ok script ∧ randomCalls tree = 0 ∧
      script.drawMoments Canvas.blank moments = .ok final ∧
      script.drawMoments twin moments = .ok twinFinal ∧
      (∀ other, script.iterateCell 40 0 [(0.5, 0), (1, 0.5)] other =
        (.ok (final.values.getD 40 0), other)) ∧
      twinFinal.values.getD 40 0 = final.values.getD 40 0 := by
  intro source moments twin
  have isFloat : isFloatSource source = true := by decide +kernel
  have noRandom : (Grammar.parse? source).map randomCalls = some 0 := by decide +kernel
  obtain ⟨tree, script, parsed, typed, compiled⟩ := exists_of_isFloatSource isFloat
  rw [parsed] at noRandom
  have neverFails : ∀ inputs stream, ∃ value after,
      script.evaluate inputs stream = (.ok value, after) := by
    intro inputs stream
    obtain ⟨value, after, success, -⟩ :=
      (ensures_evaluate_of_compile parsed typed compiled inputs).exists_ok stream
    exact ⟨value, after, success⟩
  obtain ⟨final, drawn⟩ := exists_drawMoments neverFails Canvas.blank moments
  obtain ⟨twinFinal, twinDrawn⟩ := exists_drawMoments neverFails twin moments
  obtain ⟨iterated, twins⟩ := values_drawMoments_eq_iterateCell parsed compiled
    (Option.some.inj noRandom) drawn (by decide : 40 < 1024)
  have fortieth : Canvas.blank.values.getD 40 0 = 0 := List.getD_replicate 0 (by decide)
  have agree : twin.values.getD 40 0 = Canvas.blank.values.getD 40 0 := by
    show (List.replicate 512 (0 : Float) ++ List.replicate 512 1).getD 40 0 = _
    rw [List.getD_append _ _ _ _ (by rw [List.length_replicate]; decide),
      List.getD_replicate 0 (by decide), fortieth]
  rw [fortieth] at iterated
  exact ⟨tree, script, final, twinFinal, parsed, compiled, Option.some.inj noRandom, drawn,
    twinDrawn, iterated, twins twin twinFinal moments agree rfl twinDrawn⟩

end Script

end LiveGrid
