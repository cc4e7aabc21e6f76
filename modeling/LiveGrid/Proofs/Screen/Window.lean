import LiveGrid.Screen.Window

/-!
Contract: what a window shows at a place, and steps that lie inside a window.

Owns:
- the character and the style that the last text at a place has there;
- a window writes the steps that it accepts, and one that it refuses prevents no later one;
- steps that lie inside a window of a size;
- such steps are all taken, by a strict window too, so it is one to draw them each on its own or
  until one is refused.

Does not own: which steps are drawn.
-/

namespace LiveGrid

/-- What a text shows at a place: a character and the style of the text. -/
def Write.at? (write : Write) (row column : Int) : Option (Char × Int) :=
  if write.row = row ∧ write.column ≤ column then
    write.text.toList[(column - write.column).toNat]?.map fun character => (character, write.style)
  else none

/-- What a window shows at a place: what the last text that covers it has there. -/
def Window.shown? (window : Window) (row column : Int) : Option (Char × Int) :=
  window.written.findSome? fun write => write.at? row column

/-- Whether a text covers a place. -/
def Write.Covers (write : Write) (row column : Int) : Prop :=
  write.row = row ∧ write.column ≤ column ∧ column < write.column + write.text.length

/-- Whether a step lies inside a window of a size. The place of a cursor is one character. -/
def DrawStep.LiesIn (size : WindowSize) : DrawStep → Prop
  | .write value => size.contains value.row value.column value.text.length = true
  | .move row column => size.contains row column 1 = true

/-- The text that a step writes. -/
def DrawStep.write? : DrawStep → Option Write
  | .write value => some value
  | .move _ _ => none

theorem WindowSize.contains_iff {size : WindowSize} {row column : Int} {length : Nat} :
    size.contains row column length = true ↔
      0 ≤ row ∧ row < size.rows ∧ 0 ≤ column ∧ column + length ≤ size.columns := by
  simp only [contains, Bool.and_eq_true, decide_eq_true_eq]
  omega

theorem WindowSize.accepts_of_liesIn {size : WindowSize} {step : DrawStep}
    (lies : step.LiesIn size) : size.accepts step = true := by
  cases step with
  | write value => rw [accepts, show size.contains _ _ _ = true from lies, Bool.or_true]
  | move row column => rw [accepts, show size.contains _ _ _ = true from lies, Bool.or_true]

/-- A text at the beginning of a row shows its characters from there. -/
theorem Write.at?_natCast {write : Write} {column : Nat} (start : Nat)
    (isStart : write.column = start) (le : start ≤ column) :
    write.at? write.row column =
      write.text.toList[column - start]?.map fun character => (character, write.style) := by
  have offset : ((column : Int) - start).toNat = column - start := by omega
  rw [at?, if_pos ⟨rfl, by omega⟩, isStart, offset]

theorem Write.at?_eq_none {write : Write} {row : Int} {start column : Nat}
    (isStart : write.column = start) (lt : column < start) : write.at? row column = none := by
  rw [at?, if_neg]
  intro within
  omega

/-- A text shows something exactly at the places that it covers. -/
theorem Write.at?_eq_none_iff {write : Write} {row column : Int} :
    write.at? row column = none ↔ ¬ write.Covers row column := by
  rw [at?, Covers]
  split
  · rename_i begins
    rw [Option.map_eq_none_iff, List.getElem?_eq_none_iff, String.length_toList]
    omega
  · rename_i apart
    exact iff_of_true rfl fun covers => apart ⟨covers.1, covers.2.1⟩

namespace Window

variable {window : Window} {steps : List DrawStep}

@[simp] theorem size_draw (window : Window) (step : DrawStep) :
    (window.draw step).size = window.size := by
  unfold draw
  split
  · split <;> rfl
  · rfl

/-- A window writes a step that it accepts, and counts one that it refuses. -/
theorem writes_draw (window : Window) (step : DrawStep) :
    (window.draw step).writes =
        window.writes ++ ([step].filter window.size.accepts).filterMap DrawStep.write? ∧
      (window.draw step).refused =
        window.refused + ([step].filter fun step => !window.size.accepts step).length := by
  by_cases taken : window.size.accepts step = true
  · cases step with
    | write value => simp [draw, taken, writes, DrawStep.write?]
    | move row column => simp [draw, taken, writes, DrawStep.write?, List.filterMap]
  · simp [draw, taken, writes]

@[simp] theorem size_drawEach (window : Window) (steps : List DrawStep) :
    (window.drawEach steps).size = window.size := by
  induction steps generalizing window with
  | nil => rfl
  | cons step rest inductionHypothesis =>
      exact (inductionHypothesis (window.draw step)).trans (size_draw window step)

theorem drawEach_append (window : Window) (before after : List DrawStep) :
    window.drawEach (before ++ after) = (window.drawEach before).drawEach after :=
  List.foldl_append

/-- A window writes what it accepts, in order, and counts what it refuses. A refused step prevents
no later one. -/
theorem writes_drawEach (window : Window) (steps : List DrawStep) :
    (window.drawEach steps).writes =
        window.writes ++ (steps.filter window.size.accepts).filterMap DrawStep.write? ∧
      (window.drawEach steps).refused =
        window.refused + (steps.filter fun step => !window.size.accepts step).length := by
  induction steps generalizing window with
  | nil => simp [drawEach]
  | cons step rest inductionHypothesis =>
      obtain ⟨stepWrites, stepRefused⟩ := writes_draw window step
      obtain ⟨restWrites, restRefused⟩ := inductionHypothesis (window.draw step)
      have isAppend : step :: rest = [step] ++ rest := rfl
      rw [size_draw] at restWrites restRefused
      rw [drawEach, List.foldl_cons, ← drawEach, restWrites, restRefused, stepWrites, stepRefused,
        isAppend, List.filter_append, List.filter_append, List.filterMap_append,
        List.length_append, List.append_assoc, Nat.add_assoc]
      exact ⟨rfl, rfl⟩

/-- A run of steps that lie inside a window. -/
theorem drawEach_of_liesIn (lie : ∀ step ∈ steps, step.LiesIn window.size) :
    (window.drawEach steps).refused = window.refused ∧
      (window.drawEach steps).written =
        (steps.filterMap DrawStep.write?).reverse ++ window.written := by
  obtain ⟨areWrites, refused⟩ := writes_drawEach window steps
  have allTaken : ∀ step ∈ steps, window.size.accepts step = true :=
    fun step member => WindowSize.accepts_of_liesIn (lie step member)
  have noneRefused : (steps.filter fun step => !window.size.accepts step) = [] := by
    simpa using allTaken
  rw [List.filter_eq_self.2 allTaken, writes, writes] at areWrites
  refine ⟨by rw [refused, noneRefused, List.length_nil, Nat.add_zero], ?_⟩
  rw [← List.reverse_inj, areWrites, List.reverse_append, List.reverse_reverse]

/-- A place shows the last text that covers it. -/
theorem shown?_of_writes {before after : List Write} {write : Write} {row column : Int}
    {shown : Char × Int} (areWrites : window.writes = before ++ write :: after)
    (isShown : write.at? row column = some shown)
    (uncovered : ∀ later ∈ after, ¬ later.Covers row column) :
    window.shown? row column = some shown := by
  have written : window.written = after.reverse ++ write :: before.reverse := by
    rw [← List.reverse_inj, ← writes, areWrites]
    simp
  have nothing : after.reverse.findSome? (fun later => later.at? row column) = none := by
    rw [List.findSome?_eq_none_iff]
    intro later member
    exact Write.at?_eq_none_iff.2 (uncovered later (List.mem_reverse.1 member))
  rw [shown?, written, List.findSome?_append, nothing, Option.none_or, List.findSome?_cons, isShown]

/-- The cursor is where the last step has moved it. -/
theorem cursor_drawEach_of_liesIn {row column : Int}
    (lies : (DrawStep.move row column).LiesIn window.size) (before : List DrawStep) :
    (window.drawEach (before ++ [.move row column])).cursor = (row, column) := by
  have taken : window.size.accepts (.move row column) = true := WindowSize.accepts_of_liesIn lies
  rw [drawEach_append]
  show ((window.drawEach before).draw (.move row column)).cursor = (row, column)
  simp [draw, taken]

theorem drawUntilRefused_of_liesIn (lie : ∀ step ∈ steps, step.LiesIn window.size) :
    window.drawUntilRefused steps = window.drawEach steps := by
  induction steps generalizing window with
  | nil => rfl
  | cons step rest inductionHypothesis =>
      have taken := WindowSize.accepts_of_liesIn (lie step List.mem_cons_self)
      have restLie : ∀ later ∈ rest, later.LiesIn (window.draw step).size := by
        intro later member
        rw [size_draw]
        exact lie later (List.mem_cons_of_mem _ member)
      rw [drawUntilRefused, if_pos taken, inductionHypothesis restLie]
      rfl

end Window

end LiveGrid
