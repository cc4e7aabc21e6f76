import LiveGrid.Proofs.Session.Operation

/-!
Contract: a frame is the row of its cells, and fails with the first of them that fails.

Owns:
- the evaluation of a cell by its index, from the canvas before the frame;
- evaluations one after the other, with the stream of random numbers that each of them finds;
- the frame in which no cell fails, as in every frame of a built-in script, and the frame in which
  some cell does;
- a session keeps its canvas when a frame fails.

Does not own: what a script computes for a cell.
-/

namespace LiveGrid

namespace Script

/-! ## Cells one after the other -/

/-- The evaluation of the cell with an index. Its column and its row follow from the index, and its
previous value is the one of the canvas before the frame. -/
def cellEvaluation (script : Script) (canvas : Canvas) (time loudness : Float) (index : Nat) :
    Evaluation Float :=
  script.evaluate
    { time := time
      index := Float.ofNat index
      column := Float.ofNat (index % 32)
      row := Float.ofNat (index / 32)
      loudness := loudness
      previous := canvas.values.getD index 0 }

section Sequence

variable (cells : Nat → Evaluation Float) (stream : RandomStream)

/-- The stream that the evaluation with an index finds, if all of those before it were made one
after the other. -/
def streamBefore : Nat → RandomStream
  | 0 => stream
  | index + 1 => (cells index (streamBefore index)).2

/-- The outcome of the evaluation with an index, if all of those before it were made one after the
other. -/
def outcomeOf (index : Nat) : Except Fault Float :=
  (cells index (streamBefore cells stream index)).1

/-- The first evaluation that fails. -/
structure FailsFirst (index : Nat) (fault : Fault) : Prop where
  fails : outcomeOf cells stream index = .error fault
  first : ∀ earlier < index, ∃ value, outcomeOf cells stream earlier = .ok value

variable {cells stream}

/-- Either no evaluation below a bound fails, or one of them fails first. -/
theorem all_ok_or_failsFirst (bound : Nat) :
    (∀ index < bound, ∃ value, outcomeOf cells stream index = .ok value) ∨
      ∃ index < bound, ∃ fault, FailsFirst cells stream index fault := by
  induction bound with
  | zero => exact .inl fun index below => absurd below (Nat.not_lt_zero index)
  | succ bound inductionHypothesis =>
      rcases inductionHypothesis with allOk | ⟨index, below, failsFirst⟩
      · cases outcome : outcomeOf cells stream bound with
        | ok value =>
            refine .inl fun index below => ?_
            rcases Nat.lt_succ_iff_lt_or_eq.1 below with earlier | rfl
            · exact allOk index earlier
            · exact ⟨value, outcome⟩
        | error fault => exact .inr ⟨bound, Nat.lt_succ_self bound, fault, outcome, allOk⟩
      · exact .inr ⟨index, Nat.lt_succ_of_lt below, failsFirst⟩

end Sequence

/-! ## Frames -/

section Frame

variable {script : Script} {canvas : Canvas} {time loudness : Float} {stream : RandomStream}

/-- What the cells from an index on give, once those before it have been evaluated. -/
def evaluateFrom (script : Script) (canvas : Canvas) (time loudness : Float)
    (stream : RandomStream) (index : Nat) : Except FrameFault (List Float) × RandomStream :=
  evaluateCells script time loudness index (canvas.values.drop index)
    (streamBefore (cellEvaluation script canvas time loudness) stream index)

theorem evaluateFrom_cellCount :
    evaluateFrom script canvas time loudness stream Grid.cellCount =
      (.ok [],
        streamBefore (cellEvaluation script canvas time loudness) stream Grid.cellCount) := by
  rw [evaluateFrom, List.drop_eq_nil_of_le (Nat.le_of_eq canvas.length_eq), evaluateCells]

/-- The cells from an index on: the first of them, and then the others unless it fails. -/
theorem evaluateFrom_of_lt {index : Nat} (below : index < Grid.cellCount) :
    evaluateFrom script canvas time loudness stream index =
      match outcomeOf (cellEvaluation script canvas time loudness) stream index with
      | .error fault =>
          (.error ⟨index, fault⟩,
            streamBefore (cellEvaluation script canvas time loudness) stream (index + 1))
      | .ok value =>
          match evaluateFrom script canvas time loudness stream (index + 1) with
          | (.error fault, after) => (.error fault, after)
          | (.ok values, after) => (.ok (value :: values), after) := by
  have inside : index < canvas.values.length := canvas.length_eq ▸ below
  have inputs : script.evaluate (cellInputs time loudness index canvas.values[index]) =
      cellEvaluation script canvas time loudness index := by
    rw [cellEvaluation, List.getD, List.getElem?_eq_getElem inside]
    rfl
  rw [evaluateFrom, evaluateFrom, List.drop_eq_getElem_cons inside, evaluateCells, inputs,
    outcomeOf, streamBefore]
  generalize cellEvaluation script canvas time loudness index _ = outcome
  rcases outcome with ⟨fault | value, after⟩ <;> rfl

/-- If no cell from an index on fails, they get their values. -/
theorem evaluateFrom_ok {index count : Nat} (ends : index + count = Grid.cellCount)
    (allOk : ∀ later, index ≤ later → later < Grid.cellCount → ∃ value,
      outcomeOf (cellEvaluation script canvas time loudness) stream later = .ok value) :
    ∃ values,
      evaluateFrom script canvas time loudness stream index =
        (.ok values,
          streamBefore (cellEvaluation script canvas time loudness) stream Grid.cellCount) ∧
      ∀ offset < count, ∃ value,
        outcomeOf (cellEvaluation script canvas time loudness) stream (index + offset) = .ok value ∧
          values[offset]? = some value := by
  induction count generalizing index with
  | zero =>
      obtain rfl : index = Grid.cellCount := ends
      exact ⟨[], evaluateFrom_cellCount, by simp⟩
  | succ count inductionHypothesis =>
      obtain ⟨value, isValue⟩ := allOk index (Nat.le_refl index) (by omega)
      have restEnds : index + 1 + count = Grid.cellCount := by omega
      obtain ⟨values, others, areValues⟩ :=
        inductionHypothesis restEnds fun later after => allOk later (by omega)
      refine ⟨value :: values, ?_, ?_⟩
      · rw [evaluateFrom_of_lt (by omega), isValue, others]
      · intro offset below
        cases offset with
        | zero => exact ⟨value, isValue, rfl⟩
        | succ offset =>
            obtain ⟨other, isOther, found⟩ := areValues offset (by omega)
            rw [Nat.add_right_comm] at isOther
            exact ⟨other, isOther, found⟩

/-- If some cell from an index on fails first, nothing after it is evaluated. -/
theorem evaluateFrom_error {index count : Nat} {fault : Fault}
    (below : index + count < Grid.cellCount)
    (failsFirst : FailsFirst (cellEvaluation script canvas time loudness) stream (index + count)
      fault) :
    evaluateFrom script canvas time loudness stream index =
      (.error ⟨index + count, fault⟩,
        streamBefore (cellEvaluation script canvas time loudness) stream (index + count + 1)) := by
  induction count generalizing index with
  | zero =>
      have fails := failsFirst.fails
      rw [Nat.add_zero] at fails ⊢
      rw [evaluateFrom_of_lt (by omega), fails]
  | succ count inductionHypothesis =>
      obtain ⟨value, isValue⟩ := failsFirst.first index (by omega)
      have shifted : index + (count + 1) = index + 1 + count := by omega
      rw [shifted] at below failsFirst ⊢
      rw [evaluateFrom_of_lt (by omega), isValue, inductionHypothesis below failsFirst]

theorem evaluateFrame_of_ok {values : List Float} {after : RandomStream}
    (success : evaluateFrom script canvas time loudness stream 0 = (.ok values, after)) :
    ∃ next, script.evaluateFrame canvas time loudness stream = (.ok next, after) ∧
      next.values = values := by
  have cells : evaluateCells script time loudness 0 canvas.values stream = (.ok values, after) :=
    success
  refine ⟨⟨values, (length_evaluateCells cells).trans canvas.length_eq⟩, ?_, rfl⟩
  unfold evaluateFrame
  split
  · rename_i failure
    rw [cells] at failure
    cases failure
  · rename_i others
    rw [cells] at others
    cases others
    rfl

theorem evaluateFrame_of_error {fault : FrameFault} {after : RandomStream}
    (failure : evaluateFrom script canvas time loudness stream 0 = (.error fault, after)) :
    script.evaluateFrame canvas time loudness stream = (.error fault, after) := by
  have cells : evaluateCells script time loudness 0 canvas.values stream = (.error fault, after) :=
    failure
  unfold evaluateFrame
  split
  · rename_i others
    rw [cells] at others
    cases others
    rfl
  · rename_i success
    rw [cells] at success
    cases success

/-- The frame in which no cell fails. -/
theorem evaluateFrame_of_all_ok (allOk : ∀ index < Grid.cellCount, ∃ value,
      outcomeOf (script.cellEvaluation canvas time loudness) stream index = .ok value) :
    ∃ next,
      script.evaluateFrame canvas time loudness stream =
        (.ok next,
          streamBefore (script.cellEvaluation canvas time loudness) stream Grid.cellCount) ∧
      ∀ index < Grid.cellCount, ∃ value, next.values[index]? = some value ∧
        outcomeOf (script.cellEvaluation canvas time loudness) stream index = .ok value := by
  obtain ⟨values, success, areValues⟩ :=
    evaluateFrom_ok (Nat.zero_add Grid.cellCount) fun later _ below => allOk later below
  obtain ⟨next, frame, rfl⟩ := evaluateFrame_of_ok success
  refine ⟨next, frame, fun index below => ?_⟩
  obtain ⟨value, isValue, found⟩ := areValues index below
  rw [Nat.zero_add] at isValue
  exact ⟨value, found, isValue⟩

/-- The frame in which some cell fails first. -/
theorem evaluateFrame_of_failsFirst {index : Nat} {fault : Fault} (below : index < Grid.cellCount)
    (failsFirst : FailsFirst (script.cellEvaluation canvas time loudness) stream index fault) :
    script.evaluateFrame canvas time loudness stream =
      (.error ⟨index, fault⟩,
        streamBefore (script.cellEvaluation canvas time loudness) stream (index + 1)) := by
  have fromFirst : 0 + index = index := Nat.zero_add index
  rw [← fromFirst] at below failsFirst
  rw [evaluateFrame_of_error (evaluateFrom_error below failsFirst), fromFirst]

/-- The fault of a frame names a cell of the grid. -/
theorem index_lt_of_evaluateFrame {fault : FrameFault} {after : RandomStream}
    (failure : script.evaluateFrame canvas time loudness stream = (.error fault, after)) :
    fault.index < Grid.cellCount := by
  rcases all_ok_or_failsFirst Grid.cellCount with allOk | ⟨index, below, cellFault, failsFirst⟩
  · obtain ⟨next, success, -⟩ := evaluateFrame_of_all_ok allOk
    rw [success] at failure
    cases failure
  · rw [evaluateFrame_of_failsFirst below failsFirst] at failure
    cases failure
    exact below

end Frame

/-- No frame of a built-in script fails. -/
theorem exists_evaluateFrame_pattern {source : String} {script : Script}
    (member : source ∈ patterns) (compiled : compile source = .ok script) (canvas : Canvas)
    (time loudness : Float) (stream : RandomStream) :
    ∃ next after, script.evaluateFrame canvas time loudness stream = (.ok next, after) := by
  obtain ⟨same, sameCompiled, succeeds⟩ := evaluate_pattern_ok member
  obtain rfl : same = script := Except.ok.inj (sameCompiled.symm.trans compiled)
  have allOk : ∀ index < Grid.cellCount, ∃ value,
      outcomeOf (same.cellEvaluation canvas time loudness) stream index = .ok value := by
    intro index _
    obtain ⟨value, after, evaluated⟩ := succeeds _ _
    exact ⟨value, congrArg Prod.fst evaluated⟩
  obtain ⟨next, success, -⟩ := evaluateFrame_of_all_ok allOk
  exact ⟨next, _, success⟩

/-- A session whose frame fails keeps its canvas, and the text of the script is edited. -/
theorem tick_of_error {session : Session} {script : Script} {start loudness : Float}
    {source : String} {fault : FrameFault} {after : RandomStream}
    (runs : session.mode = .running script start source)
    (failure : script.evaluateFrame session.canvas (session.clock.read.1 - start) loudness
      session.random = (.error fault, after)) :
    (session.tick loudness).canvas = session.canvas ∧
      (session.tick loudness).mode = .editing source (some fault.message) := by
  rw [Session.tick, Session.tryTick, runs]
  dsimp only
  rw [failure]
  exact ⟨Session.note_canvas, Session.note_mode⟩

/-- A frame is the row of its cells, evaluated one after the other.

If no cell fails, the next canvas holds the value of every cell, and the stream of random numbers is
the one after the last cell. If some cell fails, the frame fails with the first of them: its place
stands before its message, nothing is drawn for the cells after it, and a session that was to show
the frame keeps its canvas. -/
theorem evaluateFrame_eq_cells (script : Script) (canvas : Canvas) (time loudness : Float)
    (stream : RandomStream) :
    ((∀ index < 1024, ∃ value,
        outcomeOf (script.cellEvaluation canvas time loudness) stream index = .ok value) →
      ∃ next,
        script.evaluateFrame canvas time loudness stream =
          (.ok next, streamBefore (script.cellEvaluation canvas time loudness) stream 1024) ∧
        next.values.length = 1024 ∧
        ∀ index < 1024, ∃ value, next.values[index]? = some value ∧
          outcomeOf (script.cellEvaluation canvas time loudness) stream index = .ok value) ∧
    ((∃ failing < 1024, ∃ fault,
        outcomeOf (script.cellEvaluation canvas time loudness) stream failing = .error fault) →
      ∃ index < 1024, ∃ fault,
        FailsFirst (script.cellEvaluation canvas time loudness) stream index fault ∧
        script.evaluateFrame canvas time loudness stream =
          (.error ⟨index, fault⟩,
            streamBefore (script.cellEvaluation canvas time loudness) stream (index + 1)) ∧
        FrameFault.message ⟨index, fault⟩ =
          "at cell (" ++ toString (index % 32) ++ ", " ++ toString (index / 32) ++ "): " ++
            fault.message ∧
        ∀ (session : Session) (start : Float) (source : String),
          session.mode = .running script start source → session.canvas = canvas →
          session.clock.read.1 - start = time → session.random = stream →
            (session.tick loudness).canvas = canvas) := by
  constructor
  · intro allOk
    obtain ⟨next, success, areValues⟩ := evaluateFrame_of_all_ok allOk
    exact ⟨next, success, next.length_eq, areValues⟩
  · rintro ⟨failing, failingBelow, failingFault, fails⟩
    rcases all_ok_or_failsFirst Grid.cellCount with allOk | ⟨index, below, fault, failsFirst⟩
    · obtain ⟨value, isValue⟩ := allOk failing failingBelow
      rw [isValue] at fails
      cases fails
    · have failure := evaluateFrame_of_failsFirst below failsFirst
      refine ⟨index, below, fault, failsFirst, failure, rfl, ?_⟩
      rintro session start source runs rfl rfl rfl
      exact (tick_of_error runs failure).1

end Script

end LiveGrid
