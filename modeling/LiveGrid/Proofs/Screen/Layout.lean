import LiveGrid.Proofs.Screen.Window
import LiveGrid.Screen.Picture
import Mathlib.Data.List.GetD
import Mathlib.Data.List.Nodup
import Mathlib.Logic.ExistsUnique

/-!
Contract: the grid lies in the middle of its window, and the status line below it.

Owns:
- the cells by their columns and rows, and the place and the text of each of them in a window;
- the picture of a canvas: the cells that fit into the window, row after row, and the status line;
- in a window that is large enough the cells tile a block, with equal margins up to one;
- what the window shows of a cell.

Half of a window is rounded down, so an odd row or column is left over below the grid or to the
right of it. In a small window the margin is zero, and what does not fit is refused cell by cell.

Does not own: the level and the color class of a value.
-/

namespace LiveGrid

/-- The columns and rows of the cells, row after row. -/
def Grid.places : List (Nat × Nat) :=
  (List.range 32).flatMap fun row => (List.range 32).map fun column => (column, row)

/-- The value of the cell in a column and a row. -/
def Canvas.valueAt (canvas : Canvas) (place : Nat × Nat) : Float :=
  canvas.values.getD (32 * place.2 + place.1) 0

namespace Screen

/-- The rows above the grid. -/
def topMargin (size : WindowSize) : Int := max 0 (size.rows / 2 - 16)

/-- The columns to the left of the grid. -/
def leftMargin (size : WindowSize) : Int := max 0 (size.columns / 2 - 32)

/-- The text of a cell: the glyph of its level twice, in the style of its class. -/
def cellAt (size : WindowSize) (colors : ColorMap) (canvas : Canvas) (place : Nat × Nat) : Write :=
  let glyph := Grid.glyph (Grid.level (canvas.valueAt place))
  { row := topMargin size + place.2
    column := leftMargin size + 2 * place.1
    text := String.ofList [glyph, glyph]
    style := colors.style (Grid.colorClass (canvas.valueAt place)).role }

/-- Whether both columns of a cell are in a window. -/
def CellFits (size : WindowSize) (place : Nat × Nat) : Prop :=
  topMargin size + place.2 < size.rows ∧ leftMargin size + 2 * place.1 + 2 ≤ size.columns

instance (size : WindowSize) : DecidablePred (CellFits size) := fun _ => instDecidableAnd

variable {size : WindowSize} {colors : ColorMap} {canvas : Canvas} {place : Nat × Nat}

/-! ## Cells by their places -/

theorem places_eq :
    Grid.places = (List.range 1024).map fun index => (index % 32, index / 32) := by
  decide +kernel

theorem mem_places : place ∈ Grid.places ↔ place.1 < 32 ∧ place.2 < 32 := by
  rw [places_eq, List.mem_map]
  constructor
  · rintro ⟨index, below, rfl⟩
    have below := List.mem_range.1 below
    exact ⟨Nat.mod_lt _ (by decide), by show index / 32 < 32; omega⟩
  · rintro ⟨column, row⟩
    refine ⟨32 * place.2 + place.1, List.mem_range.2 (by omega), ?_⟩
    apply Prod.ext
    · show (32 * place.2 + place.1) % 32 = place.1
      omega
    · show (32 * place.2 + place.1) / 32 = place.2
      omega

theorem nodup_places : Grid.places.Nodup := by
  rw [places_eq]
  refine List.Nodup.map (fun first second same => ?_) List.nodup_range
  obtain ⟨column, row⟩ := Prod.mk.inj same
  omega

theorem origin_eq : Grid.origin size.rows size.columns = (topMargin size, leftMargin size) := by
  rw [Grid.origin, topMargin, leftMargin, Int.fdiv_eq_ediv_of_nonneg _ (by decide),
    Int.fdiv_eq_ediv_of_nonneg _ (by decide)]
  rfl

theorem gridSteps_eq (size : WindowSize) (colors : ColorMap) (canvas : Canvas) :
    gridSteps size colors canvas =
      Grid.places.map fun place => .write (cellAt size colors canvas place) := by
  have count : canvas.values.length = 1024 := canvas.length_eq
  rw [places_eq, List.map_map]
  apply List.ext_getElem
  · rw [gridSteps, List.length_map, List.length_map, List.length_zipIdx, count, List.length_range]
  · intro index below _
    have inside : index < canvas.values.length := by simpa [gridSteps] using below
    have isIndex : 32 * (index / 32) + index % 32 = index := Nat.div_add_mod index 32
    simp only [gridSteps, List.getElem_map, List.getElem_zipIdx, List.getElem_range, Nat.zero_add,
      Function.comp_apply, cellWrite, cellAt, Canvas.valueAt, origin_eq, isIndex,
      List.getD_eq_getElem _ _ inside]
    rfl

/-! ## Tiles of a block -/

theorem length_cellAt (size : WindowSize) (colors : ColorMap) (canvas : Canvas)
    (place : Nat × Nat) : (cellAt size colors canvas place).text.length = 2 := by
  rw [cellAt, String.length_ofList]
  rfl

theorem covers_cellAt_iff {row column : Int} :
    (cellAt size colors canvas place).Covers row column ↔
      topMargin size + place.2 = row ∧ leftMargin size + 2 * place.1 ≤ column ∧
        column < leftMargin size + 2 * place.1 + 2 := by
  rw [Write.Covers, length_cellAt]
  rfl

/-- Two cells that cover a place are the same. -/
theorem eq_of_covers {other : Nat × Nat} {row column : Int}
    (covers : (cellAt size colors canvas place).Covers row column)
    (otherCovers : (cellAt size colors canvas other).Covers row column) : other = place := by
  rw [covers_cellAt_iff] at covers otherCovers
  apply Prod.ext <;> omega

/-- A cell shows its glyph in both of its columns. -/
theorem at?_cellAt {offset : Nat} (within : offset < 2) :
    (cellAt size colors canvas place).at? (topMargin size + place.2)
        (leftMargin size + 2 * place.1 + offset) =
      some (Grid.glyph (Grid.level (canvas.valueAt place)),
        colors.style (Grid.colorClass (canvas.valueAt place)).role) := by
  have isOffset : (leftMargin size + 2 * place.1 + offset - (leftMargin size + 2 * place.1)).toNat =
      offset := by
    omega
  rw [Write.at?, cellAt, if_pos ⟨rfl, by dsimp only; omega⟩]
  dsimp only
  rw [isOffset, String.toList_ofList]
  obtain rfl | rfl : offset = 0 ∨ offset = 1 := by omega
  · rfl
  · rfl

/-- The places that cells cover are those of a block with 32 rows and 64 columns. -/
theorem exists_covers_iff {row column : Int} :
    (∃ place ∈ Grid.places, (cellAt size colors canvas place).Covers row column) ↔
      topMargin size ≤ row ∧ row < topMargin size + 32 ∧
        leftMargin size ≤ column ∧ column < leftMargin size + 64 := by
  constructor
  · rintro ⟨place, member, covers⟩
    rw [mem_places] at member
    rw [covers_cellAt_iff] at covers
    omega
  · rintro ⟨top, bottom, left, right⟩
    refine ⟨((column - leftMargin size).toNat / 2, (row - topMargin size).toNat), ?_, ?_⟩
    · rw [mem_places]
      dsimp only
      omega
    · rw [covers_cellAt_iff]
      dsimp only
      omega

/-- In a large window nothing of the block is cut off, and what remains of the window is divided
evenly. -/
theorem topMargin_bounds (rows : 32 ≤ size.rows) :
    0 ≤ size.rows - (topMargin size + 32) ∧
      (size.rows - (topMargin size + 32) - topMargin size).natAbs ≤ 1 := by
  rw [topMargin]
  omega

theorem leftMargin_bounds (columns : 64 ≤ size.columns) :
    0 ≤ size.columns - (leftMargin size + 64) ∧
      (size.columns - (leftMargin size + 64) - leftMargin size).natAbs ≤ 1 := by
  rw [leftMargin]
  omega

theorem cellFits_of_large (rows : 32 ≤ size.rows) (columns : 64 ≤ size.columns)
    (member : place ∈ Grid.places) : CellFits size place := by
  obtain ⟨below, -⟩ := topMargin_bounds rows
  obtain ⟨behind, -⟩ := leftMargin_bounds columns
  rw [mem_places] at member
  rw [CellFits]
  omega

/-! ## What is written -/

/-- A strict window takes a cell exactly if both of its columns are in the window. -/
theorem accepts_cellAt (strict : size.isStrict = true) :
    size.accepts (.write (cellAt size colors canvas place)) = decide (CellFits size place) := by
  have nonnegative : 0 ≤ topMargin size ∧ 0 ≤ leftMargin size :=
    ⟨Int.le_max_left _ _, Int.le_max_left _ _⟩
  rw [WindowSize.accepts, strict, Bool.not_true, Bool.false_or, Bool.eq_iff_iff,
    decide_eq_true_iff, WindowSize.contains_iff, length_cellAt, CellFits]
  simp only [cellAt]
  omega

/-- What is written for a status line. -/
def statusWrites (size : WindowSize) (status : String) : List Write :=
  if status ≠ "" ∧ 1 < size.columns then
    [⟨size.rows - 1, 0, String.ofList (status.toList.take (size.columns - 1).toNat), dim⟩]
  else []

theorem statusSteps_eq (size : WindowSize) (status : String) :
    statusSteps size status = (statusWrites size status).map .write := by
  have hides_iff : (status.isEmpty || size.columns ≤ 1) = true ↔
      ¬ (status ≠ "" ∧ 1 < size.columns) := by
    rw [Bool.or_eq_true, String.isEmpty_iff, decide_eq_true_iff, not_and_or, not_not, Int.not_lt]
  rw [statusSteps, statusWrites]
  by_cases shows : status ≠ "" ∧ 1 < size.columns
  · rw [if_pos shows, if_neg fun hides => hides_iff.1 hides shows]
    rfl
  · rw [if_neg shows, if_pos (hides_iff.2 shows)]
    rfl

/-- A status line fits into its window. -/
theorem accepts_statusWrites (rows : 1 ≤ size.rows) {status : String} {write : Write}
    (member : write ∈ statusWrites size status) :
    write.row = size.rows - 1 ∧ size.accepts (.write write) = true := by
  rw [statusWrites] at member
  split at member
  · rename_i shows
    rw [List.mem_singleton.1 member]
    refine ⟨rfl, WindowSize.accepts_of_liesIn (WindowSize.contains_iff.2 ?_)⟩
    dsimp only
    rw [String.length_ofList, List.length_take]
    omega
  · exact absurd member List.not_mem_nil

section Picture

variable {window : Window} {status : String}

/-- A strict window gets the cells that fit into it, in their order, and the status line. -/
theorem writes_drawPicture (strict : window.size.isStrict = true) (rows : 1 ≤ window.size.rows)
    (colors : ColorMap) (canvas : Canvas) (status : String) :
    (drawPicture window colors canvas status).writes =
        window.writes ++
          (Grid.places.filter (CellFits window.size)).map (cellAt window.size colors canvas) ++
          statusWrites window.size status ∧
      (drawPicture window colors canvas status).refused =
        window.refused + (Grid.places.filter fun place => !CellFits window.size place).length := by
  obtain ⟨areWrites, refused⟩ := Window.writes_drawEach window
    (gridSteps window.size colors canvas ++ statusSteps window.size status)
  have taken : ∀ step ∈ (statusWrites window.size status).map DrawStep.write,
      window.size.accepts step = true := by
    intro step member
    obtain ⟨write, isWrite, rfl⟩ := List.mem_map.1 member
    exact (accepts_statusWrites rows isWrite).2
  have noneRefused : ((statusWrites window.size status).map DrawStep.write).filter
      (fun step => !window.size.accepts step) = [] := by
    simpa using taken
  have written : ∀ writes : List Write,
      (writes.map DrawStep.write).filterMap DrawStep.write? = writes := by
    intro writes
    rw [List.filterMap_map]
    exact List.filterMap_some
  have cells : (gridSteps window.size colors canvas).filter window.size.accepts =
      ((Grid.places.filter (CellFits window.size)).map
        (cellAt window.size colors canvas)).map .write := by
    rw [gridSteps_eq, List.filter_map, List.map_map]
    exact congrArg _ (List.filter_congr fun place _ => accepts_cellAt strict)
  have refusedCells : ((gridSteps window.size colors canvas).filter
      fun step => !window.size.accepts step) =
        (Grid.places.filter fun place => !CellFits window.size place).map
          fun place => .write (cellAt window.size colors canvas place) := by
    rw [gridSteps_eq, List.filter_map]
    exact congrArg _ (List.filter_congr fun place _ => congrArg _ (accepts_cellAt strict))
  constructor
  · rw [drawPicture, areWrites, List.filter_append, cells, statusSteps_eq,
      List.filter_eq_self.2 taken, List.filterMap_append, written, written, List.append_assoc]
  · rw [drawPicture, refused, List.filter_append, refusedCells, statusSteps_eq, noneRefused,
      List.append_nil, List.length_map]

/-- A cell above the row of the status line shows its glyph in both of its columns. -/
theorem shown?_drawPicture (strict : window.size.isStrict = true) (rows : 1 ≤ window.size.rows)
    (member : place ∈ Grid.places) (fits : CellFits window.size place)
    (above : topMargin window.size + place.2 < window.size.rows - 1) {offset : Nat}
    (within : offset < 2) :
    (drawPicture window colors canvas status).shown? (topMargin window.size + place.2)
        (leftMargin window.size + 2 * place.1 + offset) =
      some (Grid.glyph (Grid.level (canvas.valueAt place)),
        colors.style (Grid.colorClass (canvas.valueAt place)).role) := by
  obtain ⟨areWrites, -⟩ := writes_drawPicture strict rows colors canvas status
  have covers : (cellAt window.size colors canvas place).Covers
      (topMargin window.size + place.2) (leftMargin window.size + 2 * place.1 + offset) := by
    rw [covers_cellAt_iff]
    omega
  have isMember : place ∈ Grid.places.filter (CellFits window.size) :=
    List.mem_filter.2 ⟨member, decide_eq_true fits⟩
  obtain ⟨before, after, split⟩ := List.append_of_mem isMember
  have distinct : place ∉ after := by
    have nodup := nodup_places.filter (CellFits window.size)
    rw [split] at nodup
    exact (List.nodup_cons.1 nodup.of_append_right).1
  rw [split, List.map_append, List.map_cons, ← List.append_assoc, List.append_assoc _ (_ :: _),
    List.cons_append] at areWrites
  refine Window.shown?_of_writes areWrites ?_ fun later isLater laterCovers => ?_
  · exact at?_cellAt within
  · rcases List.mem_append.1 isLater with isCell | isStatus
    · obtain ⟨other, isOther, rfl⟩ := List.mem_map.1 isCell
      exact distinct (eq_of_covers covers laterCovers ▸ isOther)
    · have bottom := (accepts_statusWrites rows isStatus).1
      have same := laterCovers.1
      omega

end Picture

/-- The picture of a canvas in a window that refuses what does not fit into it. Exactly the cells
that fit are written, row after row, each with the glyph and the style of its own value; then the
status line, unless there is none or no room. In a large window no cell is refused, the cells tile a
block of 32 rows and 64 columns, and opposite margins differ by one at most. From 33 rows on the
status line is below the grid. Every cell that fits and is above the status line is shown. -/
theorem drawPicture_lays_out_cells (window : Window) (strict : window.size.isStrict = true)
    (rows : 1 ≤ window.size.rows) (colors : ColorMap) (canvas : Canvas) (status : String) :
    let size := window.size
    let drawn := drawPicture window colors canvas status
    let cell := cellAt size colors canvas
    let top := topMargin size
    let left := leftMargin size
    (drawn.writes =
        window.writes ++ (Grid.places.filter (CellFits size)).map cell ++
          (if status ≠ "" ∧ 1 < size.columns then
            [⟨size.rows - 1, 0, String.ofList (status.toList.take (size.columns - 1).toNat), dim⟩]
          else []) ∧
      drawn.refused =
        window.refused + (Grid.places.filter fun place => !CellFits size place).length) ∧
    (32 ≤ size.rows → 64 ≤ size.columns →
      drawn.refused = window.refused ∧ (∀ place ∈ Grid.places, CellFits size place) ∧
      (∀ row column,
        if top ≤ row ∧ row < top + 32 ∧ left ≤ column ∧ column < left + 64 then
          ∃! place, place ∈ Grid.places ∧ (cell place).Covers row column
        else ∀ place ∈ Grid.places, ¬ (cell place).Covers row column) ∧
      (size.rows - (top + 32) - top).natAbs ≤ 1 ∧
      (size.columns - (left + 64) - left).natAbs ≤ 1) ∧
    (33 ≤ size.rows → ∀ place ∈ Grid.places, (cell place).row < size.rows - 1) ∧
    ∀ place ∈ Grid.places, CellFits size place → top + place.2 < size.rows - 1 →
      ∀ offset : Nat, offset < 2 → drawn.shown? (top + place.2) (left + 2 * place.1 + offset) =
        some (Grid.glyph (Grid.level (canvas.valueAt place)),
          colors.style (Grid.colorClass (canvas.valueAt place)).role) := by
  intro size drawn cell top left
  obtain ⟨areWrites, refused⟩ := writes_drawPicture strict rows colors canvas status
  refine ⟨⟨areWrites, refused⟩, fun tall wide => ?_, fun tall place member => ?_, ?_⟩
  · have allFit : ∀ place ∈ Grid.places, CellFits size place :=
      fun _ member => cellFits_of_large tall wide member
    have noneRefused : (Grid.places.filter fun place => !CellFits size place) = [] := by
      simpa using allFit
    refine ⟨?_, allFit, fun row column => ?_, (topMargin_bounds tall).2, (leftMargin_bounds wide).2⟩
    · rw [refused, noneRefused, List.length_nil, Nat.add_zero]
    · split
      · rename_i inside
        obtain ⟨place, member, covers⟩ := exists_covers_iff.2 inside
        exact ⟨place, ⟨member, covers⟩, fun other isOther => eq_of_covers covers isOther.2⟩
      · rename_i outside
        exact fun place member covers => outside (exists_covers_iff.1 ⟨place, member, covers⟩)
  · have below : topMargin size + 32 ≤ size.rows - 1 := by
      rw [topMargin]
      omega
    show topMargin size + place.2 < size.rows - 1
    have inGrid := (mem_places.1 member).2
    omega
  · exact fun place member fits above offset within =>
      shown?_drawPicture strict rows member fits above within

/-- A window in which two rows of two cells fit, and a half of a third one. -/
theorem drawPicture_lays_out_cells_small :
    let window : Window := { size := ⟨2, 5, true⟩ }
    let colors := ColorMap.ofPairs (colorPairs 256 64)
    let canvas : Canvas := ⟨((List.replicate 1024 0).set 1 1).set 32 (-0.5), by
      rw [List.length_set, List.length_set, List.length_replicate]; rfl⟩
    let drawn := drawPicture window colors canvas "status"
    window.size.isStrict = true ∧ 1 ≤ window.size.rows ∧
      drawn.writes =
        [⟨0, 0, "  ", 256⟩, ⟨0, 2, "██", 512⟩, ⟨1, 0, "░░", 768⟩, ⟨1, 2, "  ", 256⟩,
          ⟨1, 0, "stat", dim⟩] ∧
      drawn.refused = 1020 ∧ drawn.shown? 0 3 = some ('█', 512) := by
  intro window colors canvas drawn
  have rows : 1 ≤ window.size.rows := by decide
  obtain ⟨⟨areWrites, refused⟩, -, -, shows⟩ :=
    drawPicture_lays_out_cells window rfl rows colors canvas "status"
  refine ⟨rfl, rows, areWrites.trans ?_, refused.trans ?_, ?_⟩
  · decide +kernel
  · decide +kernel
  · refine (shows (1, 0) (mem_places.2 (by decide)) (by decide) (by decide) 1 (by decide)).trans ?_
    decide +kernel

end Screen

end LiveGrid
