import LiveGrid.Proofs.Screen.Prompt

/-!
Contract: an error above the prompt is shown from its beginning, and the prompt covers none of it.

Owns:
- the pieces of an error that are shown, and the row of the first of them;
- what is written for an error and then for the prompt, each in rows of its own;
- every character of a shown piece is in the window at the end.

The pieces end directly above the prompt. If there are more of them than rows, those at the end are
left out.

Does not own: how an error is wrapped.
-/

namespace LiveGrid.Screen

variable {size : WindowSize} {colors : ColorMap} {editor : LineEditor}

/-- The pieces of an error that are shown. -/
def shownPieces (size : WindowSize) (error : String) : List (List Char) :=
  (wrap (promptWidth size) error).take (size.rows - 1).toNat

/-- All pieces are shown if they fit above the prompt. -/
theorem shownPieces_of_le {error : String}
    (fits : ((wrap (promptWidth size) error).length : Int) ≤ size.rows - 1) :
    shownPieces size error = wrap (promptWidth size) error :=
  List.take_of_length_le (by omega)

/-- Otherwise those that are shown fill the rows above the prompt. -/
theorem length_shownPieces_of_lt (rows : 1 ≤ size.rows) {error : String}
    (cut : size.rows - 1 < ((wrap (promptWidth size) error).length : Int)) :
    size.rows - 1 - ((shownPieces size error).length : Int) = 0 := by
  rw [shownPieces, List.length_take]
  omega

theorem length_shownPieces_le (rows : 1 ≤ size.rows) (error : String) :
    0 ≤ size.rows - 1 - ((shownPieces size error).length : Int) := by
  rw [shownPieces, List.length_take]
  omega

/-- A piece with spaces behind it, up to a width. -/
def padded (width : Nat) (piece : List Char) : List Char :=
  piece ++ List.replicate (width - piece.length) ' '

/-- The text of a piece in the window. -/
def pieceWrite (size : WindowSize) (colors : ColorMap) (top : Int) (index : Nat)
    (piece : List Char) : Write where
  row := top + index
  column := 0
  text := String.ofList (padded (promptWidth size) piece)
  style := colors.style .error

theorem length_padded {width : Nat} {piece : List Char} (fits : piece.length ≤ width) :
    (padded width piece).length = width := by
  rw [padded, List.length_append, List.length_replicate]
  omega

theorem at?_pieceWrite (size : WindowSize) (colors : ColorMap) (top : Int) (index column : Nat)
    (piece : List Char) :
    (pieceWrite size colors top index piece).at? (top + index) column =
      (padded (promptWidth size) piece)[column]?.map
        fun character => (character, colors.style .error) := by
  have starts : (pieceWrite size colors top index piece).column = (0 : Nat) := rfl
  refine (Write.at?_natCast 0 starts (Nat.zero_le column)).trans ?_
  rw [Nat.sub_zero, pieceWrite, String.toList_ofList]

theorem padRight_ofList (width : Nat) (piece : List Char) :
    Number.Decimal.padRight width ' ' (String.ofList piece) =
      String.ofList (padded width piece) := by
  rw [Number.Decimal.padRight, String.length_ofList, padded, String.ofList_append]

/-- The pieces that are shown end above the row of the prompt. -/
theorem errorSteps_eq (rows : 1 ≤ size.rows) (colors : ColorMap) (error : String) :
    errorSteps size colors error =
      ((shownPieces size error).mapIdx
        (pieceWrite size colors (size.rows - 1 - (shownPieces size error).length))).map .write := by
  have isTop : max 0 (size.rows - 1 - (wrap (promptWidth size) error).length) =
      size.rows - 1 - (shownPieces size error).length := by
    rw [shownPieces, List.length_take]
    omega
  have above : size.rows - 1 - ((shownPieces size error).length : Int) ≤ size.rows - 1 := by omega
  have isShown : (wrap (promptWidth size) error).take
      (size.rows - 1 - (size.rows - 1 - (shownPieces size error).length)).toNat =
        shownPieces size error := by
    rw [shownPieces, List.take_eq_take_iff, List.length_take]
    omega
  rw [errorSteps]
  simp only [isTop, if_pos above, isShown, padRight_ofList]
  rw [List.mapIdx_eq_zipIdx_map, List.map_map]
  rfl

/-- What is written for the prompt is in the bottom row. -/
theorem row_of_mem_lineSteps {write : Write}
    (member : .write write ∈ lineSteps size colors editor) : write.row = size.rows - 1 := by
  rw [lineSteps] at member
  split at member
  · simp only [List.mem_cons, DrawStep.write.injEq, reduceCtorEq, List.not_mem_nil,
      or_false] at member
    rcases member with rfl | rfl | rfl <;> rfl
  · simp only [List.mem_cons, DrawStep.write.injEq, reduceCtorEq, List.not_mem_nil,
      or_false] at member
    rcases member with rfl | rfl <;> rfl

section Written

variable {window : Window} {error : String}

/-- The pieces of an error are written first, and then what is in the bottom row. -/
theorem writes_drawPrompt (rows : 1 ≤ window.size.rows) (columns : 1 ≤ window.size.columns)
    (colors : ColorMap) (editor : LineEditor) (error : String) :
    (drawPrompt window colors editor (some error)).refused = window.refused ∧
      ∃ line : List Write, (∀ write ∈ line, write.row = window.size.rows - 1) ∧
        (drawPrompt window colors editor (some error)).writes =
          window.writes ++ (shownPieces window.size error).mapIdx (pieceWrite window.size colors
            (window.size.rows - 1 - (shownPieces window.size error).length)) ++ line := by
  have lies : ∀ step ∈ promptSteps window.size colors editor (some error),
      step.LiesIn window.size := fun _ member => liesIn_of_mem_promptSteps rows columns member
  obtain ⟨refused, written⟩ := Window.drawEach_of_liesIn lies
  have split : promptSteps window.size colors editor (some error) =
      errorSteps window.size colors error ++ lineSteps window.size colors editor := by
    unfold promptSteps
    dsimp only
    split
    · rename_i isEmpty
      rw [String.isEmpty_iff.1 isEmpty, errorSteps_eq rows, shownPieces, wrap_empty, List.take_nil,
        List.mapIdx_nil, List.map_nil]
    · rfl
  have errors : (errorSteps window.size colors error).filterMap DrawStep.write? =
      (shownPieces window.size error).mapIdx (pieceWrite window.size colors
        (window.size.rows - 1 - (shownPieces window.size error).length)) := by
    rw [errorSteps_eq rows, List.filterMap_map]
    exact List.filterMap_some
  rw [drawPrompt_eq_drawEach rows columns]
  refine ⟨refused, (lineSteps window.size colors editor).filterMap DrawStep.write?, ?_, ?_⟩
  · intro write member
    obtain ⟨step, isStep, isWrite⟩ := List.mem_filterMap.1 member
    cases step with
    | write value =>
        cases isWrite
        exact row_of_mem_lineSteps isStep
    | move row column => cases isWrite
  · rw [Window.writes, written, split, List.filterMap_append, errors, List.reverse_append,
      List.reverse_reverse, List.append_assoc]
    rfl

/-- A piece that is shown is in the window at the end. -/
theorem shown?_drawPrompt (rows : 1 ≤ window.size.rows) (columns : 1 ≤ window.size.columns)
    (colors : ColorMap) (editor : LineEditor) {index column : Nat} {piece : List Char}
    (isShown : (shownPieces window.size error)[index]? = some piece)
    (within : column < promptWidth window.size) :
    (drawPrompt window colors editor (some error)).shown?
        (window.size.rows - 1 - (shownPieces window.size error).length + index) column =
      (padded (promptWidth window.size) piece)[column]?.map
        fun character => (character, colors.style .error) := by
  let top := window.size.rows - 1 - ((shownPieces window.size error).length : Int)
  let texts := (shownPieces window.size error).mapIdx (pieceWrite window.size colors top)
  obtain ⟨-, line, bottom, areWrites⟩ := writes_drawPrompt rows columns colors editor error
  have isText : texts[index]? = some (pieceWrite window.size colors top index piece) := by
    rw [List.getElem?_mapIdx, isShown, Option.map_some]
  obtain ⟨below, isElement⟩ := List.getElem?_eq_some_iff.1 isText
  have split : texts = texts.take index ++
      pieceWrite window.size colors top index piece :: texts.drop (index + 1) := by
    rw [← isElement, List.getElem_cons_drop, List.take_append_drop]
  have fits : piece.length ≤ promptWidth window.size :=
    length_le_of_mem_wrap (one_le_promptWidth _)
      (List.mem_of_mem_take (List.mem_of_getElem? isShown))
  have inPiece : column < (padded (promptWidth window.size) piece).length := by
    rw [length_padded fits]
    exact within
  rw [show (shownPieces window.size error).mapIdx _ = texts from rfl, split, ← List.append_assoc,
    List.append_assoc _ (_ :: _), List.cons_append] at areWrites
  have isCharacter := at?_pieceWrite window.size colors top index column piece
  rw [List.getElem?_eq_getElem inPiece, Option.map_some] at isCharacter ⊢
  refine Window.shown?_of_writes areWrites isCharacter fun later isLater covers => ?_
  rcases List.mem_append.1 isLater with isText | isLine
  · obtain ⟨offset, isLater⟩ := List.mem_iff_getElem?.1 isText
    rw [List.getElem?_drop, List.getElem?_mapIdx] at isLater
    obtain ⟨other, -, rfl⟩ := Option.map_eq_some_iff.1 isLater
    have same : top + ((index + 1 + offset : Nat) : Int) = top + index := covers.1
    omega
  · have row := bottom later isLine
    have same := covers.1
    rw [List.length_mapIdx] at below
    omega

end Written

/-- An error above the prompt, in a window with a row and a column. Its lines are wrapped to the
width of the prompt, and nothing but its line breaks is lost. If there is room for all pieces they
end directly above the prompt; otherwise the first of them fill the rows above it. Each is padded to
the width, lies in the window above the prompt, and is there when the prompt has been drawn. -/
theorem drawPrompt_shows_error (window : Window) (rows : 1 ≤ window.size.rows)
    (columns : 1 ≤ window.size.columns) (colors : ColorMap) (editor : LineEditor)
    (error : String) :
    let drawn := drawPrompt window colors editor (some error)
    let width := max 1 (window.size.columns - 1).toNat
    let pieces := wrap width error
    let bottom := window.size.rows - 1
    ((∃ lines groups, HasLines error.toList lines ∧ List.Forall₂ (Wraps width) lines groups ∧
        pieces = groups.flatten) ∧
      pieces.flatten = error.toList.filter (fun character => !isLineEnd character) ∧
      ∀ piece ∈ pieces, piece.length ≤ width) ∧
    ∃ (top : Int) (shown : List (List Char)) (line : List Write),
      (pieces.length ≤ bottom → shown = pieces ∧ top = bottom - pieces.length) ∧
      (bottom < pieces.length → shown = pieces.take bottom.toNat ∧ top = 0) ∧
      drawn.refused = window.refused ∧
      drawn.writes =
        window.writes ++
          shown.mapIdx (fun index piece =>
            ⟨top + index, 0, String.ofList (padded width piece), colors.style .error⟩) ++
          line ∧
      (∀ write ∈ line, write.row = bottom) ∧
      ∀ (index : Nat) (piece : List Char), shown[index]? = some piece →
        (padded width piece).length = width ∧ width ≤ window.size.columns ∧
        0 ≤ top + index ∧ top + index < bottom ∧
        ∀ column : Nat, column < width → drawn.shown? (top + index) column =
          (padded width piece)[column]?.map fun character => (character, colors.style .error) := by
  intro drawn width pieces bottom
  have positive : 1 ≤ width := one_le_promptWidth window.size
  obtain ⟨refused, line, inBottom, areWrites⟩ := writes_drawPrompt rows columns colors editor error
  have above := length_shownPieces_le rows error
  refine ⟨⟨exists_wrap_eq_flatten positive error, flatten_wrap positive error,
      fun _ member => length_le_of_mem_wrap positive member⟩,
    bottom - (shownPieces window.size error).length, shownPieces window.size error, line,
    fun fits => ⟨shownPieces_of_le fits,
      congrArg (fun shown => bottom - (List.length shown : Int)) (shownPieces_of_le fits)⟩,
    fun cut => ⟨rfl, length_shownPieces_of_lt rows cut⟩, refused, areWrites, inBottom, ?_⟩
  intro index piece isShown
  have below := (List.getElem?_eq_some_iff.1 isShown).1
  have isPiece : piece ∈ pieces := List.mem_of_mem_take (List.mem_of_getElem? isShown)
  refine ⟨length_padded (length_le_of_mem_wrap positive isPiece), promptWidth_le columns, by omega,
    by omega, fun column within => ?_⟩
  exact shown?_drawPrompt rows columns colors editor isShown within

/-- An error with an empty line and a line of twice the width, in a window with room for three of
its four pieces. -/
theorem drawPrompt_shows_error_cut :
    let window : Window := { size := ⟨4, 4, true⟩ }
    let colors := ColorMap.ofPairs (colorPairs 256 64)
    let editor := LineEditor.ofText "x"
    let drawn := drawPrompt window colors editor (some "a\r\n\nb c de\n")
    1 ≤ window.size.rows ∧ 1 ≤ window.size.columns ∧
      wrap 3 "a\r\n\nb c de\n" = [['a'], [], ['b', ' ', 'c'], [' ', 'd', 'e']] ∧
      drawn.refused = 0 ∧
      ∃ line, drawn.writes =
        [⟨0, 0, "a  ", 1536⟩, ⟨1, 0, "   ", 1536⟩, ⟨2, 0, "b c", 1536⟩] ++ line ∧
        (∀ write ∈ line, write.row = 3) ∧ drawn.shown? 2 0 = some ('b', 1536) := by
  intro window colors editor drawn
  have rows : 1 ≤ window.size.rows := by decide
  have columns : 1 ≤ window.size.columns := by decide
  have pieces : wrap 3 "a\r\n\nb c de\n" = [['a'], [], ['b', ' ', 'c'], [' ', 'd', 'e']] := by
    decide +kernel
  obtain ⟨-, top, shown, line, -, isCut, refused, areWrites, inBottom, isThere⟩ :=
    drawPrompt_shows_error window rows columns colors editor "a\r\n\nb c de\n"
  have cut : (4 : Int) - 1 < (wrap 3 "a\r\n\nb c de\n").length := by
    rw [pieces]
    decide
  obtain ⟨isShown, rfl⟩ := isCut cut
  obtain rfl : shown = [['a'], [], ['b', ' ', 'c']] := isShown.trans (congrArg _ pieces)
  obtain ⟨-, -, -, -, shows⟩ := isThere 2 ['b', ' ', 'c'] rfl
  exact ⟨rows, columns, pieces, refused, line, areWrites, inBottom, shows 0 (by decide)⟩

end LiveGrid.Screen
