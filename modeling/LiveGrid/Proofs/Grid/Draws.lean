import LiveGrid.Proofs.Grid.Frame
import LiveGrid.Proofs.Script.Floats
import LiveGrid.Proofs.Script.Straight

/-!
Contract: the text of a script bounds what it takes from a stream of random numbers.

Owns:
- cells that are evaluated one after the other take at most what each of them may take;
- a frame takes at most that of its 1024 cells, whether it fails or not;
- a cell takes at most one number for each call that asks for one, depends on no others, and takes
  one for each if it gets a value and no part of the script may be left out.

Does not own: which numbers a stream has.
-/

namespace LiveGrid.Script

variable {count : Nat}

theorem exists_apply_eq_skip {Result : Type} {action : Evaluation Result}
    (takes : TakesAtMost count action) (stream : RandomStream) :
    ∃ taken ≤ count, (action stream).2 = stream.skip taken := by
  obtain ⟨taken, few, same⟩ := takes stream
  have unchanged := same stream fun _ _ => rfl
  exact ⟨taken, few, congrArg Prod.snd unchanged⟩

/-- Evaluations one after the other take together what each of them takes. -/
theorem exists_streamBefore_eq_skip {cells : Nat → Evaluation Float}
    (takes : ∀ index, TakesAtMost count (cells index)) (stream : RandomStream) (index : Nat) :
    ∃ taken ≤ index * count, streamBefore cells stream index = stream.skip taken := by
  induction index with
  | zero => exact ⟨0, Nat.zero_le _, rfl⟩
  | succ index inductionHypothesis =>
      obtain ⟨before, fewBefore, streamThen⟩ := inductionHypothesis
      obtain ⟨taken, few, streamAfter⟩ :=
        exists_apply_eq_skip (takes index) (streamBefore cells stream index)
      have bound : before + taken ≤ (index + 1) * count := by
        rw [Nat.succ_mul]
        exact Nat.add_le_add fewBefore few
      refine ⟨before + taken, bound, ?_⟩
      show (cells index (streamBefore cells stream index)).2 = _
      rw [streamAfter, streamThen, RandomStream.skip_skip]

/-- A frame leaves the stream where some of its cells has left it. -/
theorem exists_evaluateFrame_eq_streamBefore {script : Script} {canvas : Canvas}
    {time loudness : Float} {stream : RandomStream} :
    ∃ index ≤ Grid.cellCount, (script.evaluateFrame canvas time loudness stream).2 =
      streamBefore (script.cellEvaluation canvas time loudness) stream index := by
  rcases all_ok_or_failsFirst Grid.cellCount with allOk | ⟨index, below, fault, failsFirst⟩
  · obtain ⟨next, success, -⟩ := evaluateFrame_of_all_ok allOk
    exact ⟨Grid.cellCount, Nat.le_refl _, congrArg Prod.snd success⟩
  · have failure := evaluateFrame_of_failsFirst below failsFirst
    exact ⟨index + 1, below, congrArg Prod.snd failure⟩

theorem exists_evaluateFrame_eq_skip {script : Script}
    (takes : ∀ inputs, TakesAtMost count (script.evaluate inputs)) (canvas : Canvas)
    (time loudness : Float) (stream : RandomStream) :
    ∃ taken ≤ 1024 * count,
      (script.evaluateFrame canvas time loudness stream).2 = stream.skip taken := by
  have cellsTake : ∀ index,
      TakesAtMost count (script.cellEvaluation canvas time loudness index) := fun _ => takes _
  obtain ⟨index, below, left⟩ := exists_evaluateFrame_eq_streamBefore
  obtain ⟨taken, few, skipped⟩ := exists_streamBefore_eq_skip cellsTake stream index
  refine ⟨taken, Nat.le_trans few (Nat.mul_le_mul_right count below), ?_⟩
  rw [left, skipped]

/-- The calls that ask for a random number, anywhere in the text of a script, bound how many of them
are taken. An evaluation takes at most as many numbers as there are calls, whether it fails or not,
and exactly as many if it gives a value and the script has no conditional, no conjunction or
disjunction, and no comparison with more than two sides. It does the same to every stream that goes on
with the same numbers as far as there are calls; without any, it depends on its inputs alone. A
frame takes at most 1024 times as many. -/
theorem evaluate_takes_randomCalls {source : String} {tree : List Statement} {script : Script}
    (parsed : Grammar.parse? source = some tree) (compiled : compile source = .ok script)
    (inputs : Inputs) (stream : RandomStream) :
    (∃ taken ≤ randomCalls tree,
      (script.evaluate inputs stream).2 = stream.skip taken ∧
      (∀ value, (script.evaluate inputs stream).1 = .ok value →
        (∀ statement ∈ tree, ∀ node ∈ statement.nodes, node.branches = false) →
          taken = randomCalls tree) ∧
      ∀ other : RandomStream,
        (∀ offset < randomCalls tree,
          other.number (other.drawn + offset) = stream.number (stream.drawn + offset)) →
        script.evaluate inputs other = ((script.evaluate inputs stream).1, other.skip taken)) ∧
    (randomCalls tree = 0 →
      ∀ other, script.evaluate inputs other = ((script.evaluate inputs stream).1, other)) ∧
    ∀ (canvas : Canvas) (time loudness : Float), ∃ taken ≤ 1024 * randomCalls tree,
      (script.evaluateFrame canvas time loudness stream).2 = stream.skip taken := by
  obtain ⟨parsedTree, parsedAgain, formed, -, rfl⟩ := compile_eq_ok_iff.1 compiled
  obtain rfl := Option.some.inj (parsed.symm.trans parsedAgain)
  have takes : ∀ inputs, TakesAtMost (randomCalls tree) ((ofTree source tree).evaluate inputs) :=
    takesAtMost_evaluate formed
  refine ⟨?_, ?_, fun canvas time loudness => exists_evaluateFrame_eq_skip takes canvas _ _ _⟩
  · obtain ⟨taken, few, same⟩ := takes inputs stream
    have unchanged := same stream fun _ _ => rfl
    refine ⟨taken, few, congrArg Prod.snd unchanged, fun value isValue straight => ?_, same⟩
    rw [isValue] at unchanged
    have exact := takesExactly_evaluate formed straight inputs stream value _ unchanged
    have sameDrawn : stream.drawn + taken = stream.drawn + randomCalls tree :=
      congrArg RandomStream.drawn exact
    exact Nat.add_left_cancel sameDrawn
  · intro none other
    have takesNone := takes inputs
    rw [none] at takesNone
    exact takesNone.apply_eq stream other

/-- A script with three calls, one of them in a statement whose value is not used, on a stream of
which some numbers were taken before. -/
theorem evaluate_takes_randomCalls_unused_value :
    let source := "b=rand()*2.5;rand();max(b,rand())+x"
    let inputs : Inputs := ⟨1, 33, 1, 1, 0, 0.5⟩
    let stream : RandomStream := ⟨fun _ => 0.25, 7⟩
    ∃ tree script value, Grammar.parse? source = some tree ∧ compile source = .ok script ∧
      (∀ statement ∈ tree, ∀ node ∈ statement.nodes, node.branches = false) ∧
      script.evaluate inputs stream = (.ok value, ⟨fun _ => 0.25, 10⟩) ∧
      (∀ other : RandomStream, (∀ offset < 3, other.number (other.drawn + offset) = 0.25) →
        (script.evaluate inputs other).1 = .ok value) ∧
      ∃ taken ≤ 1024 * 3,
        (script.evaluateFrame Canvas.blank 1 0 stream).2 = stream.skip taken := by
  intro source inputs stream
  have isFloat : isFloatSource source = true := by decide +kernel
  have calls : (Grammar.parse? source).map randomCalls = some 3 := by decide +kernel
  have marks : (Grammar.parse? source).map
      (fun tree => tree.all fun statement => statement.nodes.all fun node => !node.branches) =
        some true := by decide +kernel
  obtain ⟨tree, script, parsed, typed, compiled⟩ := exists_of_isFloatSource isFloat
  rw [parsed, Option.map_some] at calls marks
  have three : randomCalls tree = 3 := Option.some.inj calls
  have straight : ∀ statement ∈ tree, ∀ node ∈ statement.nodes, node.branches = false := by
    simpa using Option.some.inj marks
  obtain ⟨value, after, success, -⟩ :=
    (ensures_evaluate_of_compile parsed typed compiled inputs).exists_ok stream
  have isValue : (script.evaluate inputs stream).1 = .ok value := congrArg Prod.fst success
  obtain ⟨⟨taken, -, left, takesAll, same⟩, -, frames⟩ :=
    evaluate_takes_randomCalls parsed compiled inputs stream
  have took : taken = 3 := (takesAll value isValue straight).trans three
  rw [three] at same frames
  refine ⟨tree, script, value, parsed, compiled, straight, ?_, fun other agrees => ?_,
    frames Canvas.blank 1 0⟩
  · rw [took] at left
    exact Prod.ext isValue left
  · rw [same other agrees]
    exact isValue

end LiveGrid.Script
