import LiveGrid.Proofs.Editor.Characters
import LiveGrid.Proofs.Screen.Window
import LiveGrid.Proofs.Screen.Wrap

/-!
Contract: the prompt line shows the part of the line around the cursor.

Owns:
- everything that is told to a window for the prompt, which lies inside the window;
- two texts that are written over spaces show the first, then the second, then spaces;
- the bottom row shows the prompt and the text from an offset on;
- the cursor of the window is on the character at the cursor of the line, or directly behind the
  last one.

Where the offset reaches past the prompt, it cuts off the whole prompt and the beginning of the
text. Both are one list of characters with styles here, so the offset cuts off the beginning of that
list and there is one case.

Does not own: what an error says.
-/

namespace LiveGrid.Screen

/-- All that is told to a window for an error and the prompt. -/
def promptSteps (size : WindowSize) (colors : ColorMap) (editor : LineEditor)
    (error : Option String) : List DrawStep :=
  (match error with
    | some text => if text.isEmpty then [] else errorSteps size colors text
    | none => []) ++ lineSteps size colors editor

/-- The prompt and a text, as characters with styles. -/
def styledLine (colors : ColorMap) (text : String) : List (Char × Int) :=
  promptText.toList.map (fun character => (character, colors.style .prompt)) ++
    text.toList.map fun character => (character, colors.style .text)

/-- How many characters of the prompt and the text are cut off, so that the cursor is in the part
that is shown. -/
def lineOffset (size : WindowSize) (editor : LineEditor) : Nat :=
  promptText.toList.length + editor.cursor - (promptWidth size - 1)

variable {size : WindowSize} {colors : ColorMap} {editor : LineEditor}

theorem one_le_promptWidth (size : WindowSize) : 1 ≤ promptWidth size := Nat.le_max_left _ _

theorem promptWidth_le (columns : 1 ≤ size.columns) : (promptWidth size : Int) ≤ size.columns := by
  rw [promptWidth]
  omega

/-! ## Steps inside the window -/

theorem liesIn_of_mem_errorSteps (rows : 1 ≤ size.rows) (columns : 1 ≤ size.columns)
    {error : String} {step : DrawStep} (member : step ∈ errorSteps size colors error) :
    step.LiesIn size := by
  obtain ⟨⟨piece, index⟩, isShown, rfl⟩ := List.mem_map.1 member
  have top : max 0 (size.rows - 1 - (wrap (promptWidth size) error).length) ≤ size.rows - 1 := by
    omega
  rw [if_pos top] at isShown
  obtain ⟨-, below, isPiece⟩ := List.mem_zipIdx isShown
  rw [List.length_take] at below
  have isWrapped : piece ∈ wrap (promptWidth size) error := by
    rw [isPiece]
    exact List.mem_of_mem_take (List.getElem_mem _)
  have short := length_le_of_mem_wrap (one_le_promptWidth size) isWrapped
  have inside := promptWidth_le columns
  have padded : (Number.Decimal.padRight (promptWidth size) ' ' (String.ofList piece)).length =
      promptWidth size := by
    simp only [Number.Decimal.padRight, String.length_append, String.length_ofList,
      List.length_replicate]
    omega
  refine WindowSize.contains_iff.2 ⟨?_, ?_, ?_, ?_⟩
  · show 0 ≤ max 0 (size.rows - 1 - (wrap (promptWidth size) error).length) + (index : Int)
    omega
  · show max 0 (size.rows - 1 - (wrap (promptWidth size) error).length) + (index : Int) < size.rows
    omega
  · exact Int.le_refl 0
  · show (0 : Int) + _ ≤ _
    rw [padded]
    omega

/-- The column of the cursor is in the part that is shown, and it is where the offset puts it. -/
theorem exists_cursor_column (size : WindowSize) (editor : LineEditor) :
    ∃ column < promptWidth size,
      min (promptText.toList.length + editor.cursor - lineOffset size editor) (promptWidth size) =
          column ∧
        lineOffset size editor + column = promptText.toList.length + editor.cursor := by
  have positive := one_le_promptWidth size
  refine ⟨promptText.toList.length + editor.cursor - lineOffset size editor, ?_, ?_, ?_⟩
  all_goals
    rw [lineOffset]
    omega

theorem liesIn_of_mem_lineSteps (rows : 1 ≤ size.rows) (columns : 1 ≤ size.columns)
    {step : DrawStep} (member : step ∈ lineSteps size colors editor) : step.LiesIn size := by
  have positive := one_le_promptWidth size
  have inside := promptWidth_le columns
  -- a text that ends at the width at most, in the bottom row
  have fits : ∀ (start : Nat) (characters : List Char) (style : Int),
      start + characters.length ≤ promptWidth size →
        (DrawStep.write ⟨size.rows - 1, start, String.ofList characters, style⟩).LiesIn size := by
    intro start characters style short
    have contained : size.contains (size.rows - 1) start (String.ofList characters).length = true := by
      rw [WindowSize.contains_iff, String.length_ofList]
      omega
    exact contained
  have blankFits := fits 0 (List.replicate (promptWidth size) ' ') 0 (by simp)
  have promptFits := fits 0
    ((promptText.toList.drop (lineOffset size editor)).take (promptWidth size))
    (colors.style .prompt) (by rw [List.length_take]; omega)
  have cursorFits : (DrawStep.move (size.rows - 1)
      (min (promptText.toList.length + editor.cursor - lineOffset size editor)
        (promptWidth size) : Nat)).LiesIn size := by
    obtain ⟨column, below, isColumn, -⟩ := exists_cursor_column size editor
    rw [isColumn]
    exact WindowSize.contains_iff.2 ⟨by omega, by omega, by omega, by omega⟩
  rw [lineSteps] at member
  split at member
  · have narrow : (promptText.toList.drop (lineOffset size editor)).length < promptWidth size :=
      ‹_›
    have textFits := fits (promptText.toList.drop (lineOffset size editor)).length
      ((editor.text.toList.drop (lineOffset size editor - promptText.toList.length)).take
        (promptWidth size - (promptText.toList.drop (lineOffset size editor)).length))
      (colors.style .text) (by rw [List.length_take]; omega)
    simp only [List.mem_cons, List.not_mem_nil, or_false] at member
    rcases member with rfl | rfl | rfl | rfl
    · exact blankFits
    · exact promptFits
    · exact textFits
    · exact cursorFits
  · simp only [List.mem_cons, List.not_mem_nil, or_false] at member
    rcases member with rfl | rfl | rfl
    · exact blankFits
    · exact promptFits
    · exact cursorFits

theorem liesIn_of_mem_promptSteps (rows : 1 ≤ size.rows) (columns : 1 ≤ size.columns)
    {error : Option String} {step : DrawStep}
    (member : step ∈ promptSteps size colors editor error) : step.LiesIn size := by
  rcases List.mem_append.1 member with above | line
  · cases error with
    | none => exact absurd above List.not_mem_nil
    | some text =>
        simp only at above
        split at above
        · exact absurd above List.not_mem_nil
        · exact liesIn_of_mem_errorSteps rows columns above
  · exact liesIn_of_mem_lineSteps rows columns line

/-- A window with a row and a column takes every step, whether it is strict or not. -/
theorem drawPrompt_eq_drawEach {window : Window} (rows : 1 ≤ window.size.rows)
    (columns : 1 ≤ window.size.columns) (colors : ColorMap) (editor : LineEditor)
    (error : Option String) :
    drawPrompt window colors editor error =
      window.drawEach (promptSteps window.size colors editor error) := by
  have lineLies : ∀ step ∈ lineSteps window.size colors editor, step.LiesIn window.size :=
    fun _ member => liesIn_of_mem_lineSteps rows columns member
  unfold promptSteps drawPrompt
  rw [Window.drawEach_append]
  apply Window.drawUntilRefused_of_liesIn
  rw [Window.size_drawEach]
  exact lineLies

/-! ## What the bottom row shows -/

section Row

variable {row style textStyle : Int} {width column : Nat} {first second : List Char}
  {below : List Write}

/-- A text over spaces. -/
theorem findSome?_over_blank (within : column < width) :
    (⟨row, 0, String.ofList (first.take width), style⟩ ::
        ⟨row, 0, String.ofList (List.replicate width ' '), 0⟩ :: below).findSome?
          (fun write => write.at? row column) =
      some ((first.map fun character => (character, style))[column]?.getD (' ', 0)) := by
  have top : Write.at? ⟨row, 0, String.ofList (first.take width), style⟩ row column =
      (first.map fun character => (character, style))[column]? := by
    rw [Write.at?_natCast 0 rfl (Nat.zero_le _)]
    simp [List.getElem?_take_of_lt within]
  have blank : Write.at? ⟨row, 0, String.ofList (List.replicate width ' '), 0⟩ row column =
      some (' ', 0) := by
    rw [Write.at?_natCast 0 rfl (Nat.zero_le _)]
    simp [within]
  rw [List.findSome?_cons, top, List.findSome?_cons, blank]
  cases (first.map fun character => (character, style))[column]? with
  | none => rfl
  | some shown => rfl

/-- A text over spaces, and a second one behind it. -/
theorem findSome?_behind (within : column < width) :
    (⟨row, first.length, String.ofList (second.take (width - first.length)), textStyle⟩ ::
        ⟨row, 0, String.ofList (first.take width), style⟩ ::
        ⟨row, 0, String.ofList (List.replicate width ' '), 0⟩ :: below).findSome?
          (fun write => write.at? row column) =
      some ((first.map (fun character => (character, style)) ++
        second.map fun character => (character, textStyle))[column]?.getD (' ', 0)) := by
  rw [List.findSome?_cons, findSome?_over_blank within]
  rcases Nat.lt_or_ge column first.length with before | behind
  · rw [Write.at?_eq_none rfl before, List.getElem?_append_left (by simpa using before)]
  · have offset : column - first.length < width - first.length := by omega
    have top : Write.at?
        ⟨row, first.length, String.ofList (second.take (width - first.length)), textStyle⟩ row
          column = (second.map fun character => (character, textStyle))[column - first.length]? := by
      rw [Write.at?_natCast _ rfl behind]
      simp [List.getElem?_take_of_lt offset]
    have past : (first.map fun character => (character, style))[column]? = none :=
      List.getElem?_eq_none (by simpa using behind)
    rw [top, past, List.getElem?_append_right (by simpa using behind), List.length_map]
    cases (second.map fun character => (character, textStyle))[column - first.length]? with
    | none => rfl
    | some shown => rfl

end Row

/-- Cutting off the beginning of the prompt and the text. -/
theorem drop_styledLine (offset : Nat) (text : String) :
    (styledLine colors text).drop offset =
      (promptText.toList.drop offset).map (fun character => (character, colors.style .prompt)) ++
        (text.toList.drop (offset - promptText.toList.length)).map
          fun character => (character, colors.style .text) := by
  rw [styledLine, List.drop_append, List.map_drop, List.map_drop, List.length_map]

/-- The bottom row after the steps for the line, whatever was written before. -/
theorem findSome?_lineSteps {column : Nat} (within : column < promptWidth size)
    (below : List Write) :
    (((lineSteps size colors editor).filterMap DrawStep.write?).reverse ++ below).findSome?
        (fun write => write.at? (size.rows - 1) column) =
      some (((styledLine colors editor.text).drop (lineOffset size editor))[column]?.getD
        (' ', 0)) := by
  rw [drop_styledLine, lineSteps]
  split
  · exact findSome?_behind within
  · rename_i wide
    have before : column < (promptText.toList.drop (lineOffset size editor)).length :=
      Nat.lt_of_lt_of_le within (Nat.le_of_not_lt wide)
    rw [List.getElem?_append_left (by simpa using before)]
    exact findSome?_over_blank within

/-- The last step moves the cursor. -/
theorem exists_promptSteps_eq_append (size : WindowSize) (colors : ColorMap)
    (editor : LineEditor) (error : Option String) :
    ∃ before, ∃ column < promptWidth size,
      promptSteps size colors editor error = before ++ [.move (size.rows - 1) column] ∧
        lineOffset size editor + column = promptText.toList.length + editor.cursor := by
  obtain ⟨column, within, isColumn, place⟩ := exists_cursor_column size editor
  have ends : ∃ writes, lineSteps size colors editor =
      writes ++ [.move (size.rows - 1)
        (min (promptText.toList.length + editor.cursor - lineOffset size editor)
          (promptWidth size) : Nat)] := by
    rw [lineSteps]
    split
    · exact ⟨[_, _, _], rfl⟩
    · exact ⟨[_, _], rfl⟩
  obtain ⟨writes, ends⟩ := ends
  rw [isColumn] at ends
  refine ⟨(match error with
    | some text => if text.isEmpty then [] else errorSteps size colors text
    | none => []) ++ writes, column, within, ?_, place⟩
  unfold promptSteps
  rw [ends, List.append_assoc]

/-! ## The prompt of an edit -/

/-- The prompt of a line that is edited with a terminal, in a window with a row and a column. Every
step lies inside the window, which refuses none. The bottom row shows the prompt and the text, each
in its style, from an offset on, and spaces behind them. The cursor is in the part that is shown: on
the character at the cursor of the line, or directly behind the last one. -/
theorem drawPrompt_shows_cursor (window : Window) (rows : 1 ≤ window.size.rows)
    (columns : 1 ≤ window.size.columns) (colors : ColorMap) (error : Option String)
    (source : String) (inputs : List KeyInput) :
    let editor := (LineEditor.ofText source).run ((inputs.filterMap KeyInput.event?).map .feed)
    let drawn := drawPrompt window colors editor error
    let steps := promptSteps window.size colors editor error
    let bottom := window.size.rows - 1
    let width := max 1 (window.size.columns - 1).toNat
    let line := styledLine colors editor.text
    let offset := promptText.toList.length + editor.cursor - (width - 1)
    (drawn = window.drawEach steps ∧ drawn.refused = window.refused ∧
      ∀ step ∈ steps, step.LiesIn window.size) ∧
    (∀ column < width,
      drawn.shown? bottom column = some ((line.drop offset)[column]?.getD (' ', 0))) ∧
    ∃ column < width, drawn.cursor = (bottom, (column : Int)) ∧
      offset + column = promptText.toList.length + editor.cursor ∧
      match editor.elements[editor.cursor]? with
      | some element => ∃ character, element = String.singleton character ∧
          drawn.shown? bottom column = some (character, colors.style .text)
      | none => offset + column = line.length ∧ drawn.shown? bottom column = some (' ', 0) := by
  intro editor drawn steps bottom width line offset
  have lies : ∀ step ∈ steps, step.LiesIn window.size :=
    fun _ member => liesIn_of_mem_promptSteps rows columns member
  have isDrawn : drawn = window.drawEach steps :=
    drawPrompt_eq_drawEach rows columns colors editor error
  obtain ⟨refused, written⟩ := Window.drawEach_of_liesIn lies
  have shows : ∀ column < width,
      drawn.shown? bottom column = some ((line.drop offset)[column]?.getD (' ', 0)) := by
    intro column within
    rw [isDrawn, Window.shown?, written]
    show List.findSome? _ ((List.filterMap _ (_ ++ _)).reverse ++ _) = _
    rw [List.filterMap_append, List.reverse_append, List.append_assoc]
    exact findSome?_lineSteps within _
  refine ⟨⟨isDrawn, isDrawn ▸ refused, lies⟩, shows, ?_⟩
  obtain ⟨before, column, within, ends, place⟩ :=
    exists_promptSteps_eq_append window.size colors editor error
  have moved : drawn.cursor = (bottom, (column : Int)) := by
    have moveLies := lies (.move bottom column) (by simp [steps, ends, bottom])
    rw [isDrawn, show steps = _ from ends]
    exact Window.cursor_drawEach_of_liesIn moveLies before
  refine ⟨column, within, moved, place, ?_⟩
  have elements : editor.elements = editor.text.toList.map String.singleton :=
    LineEditor.elements_eq_characters source inputs
  have shown := shows column within
  have atCursor : (line.drop offset)[column]? =
      (editor.text.toList[editor.cursor]?).map fun character => (character, colors.style .text) := by
    rw [List.getElem?_drop, show offset + column = _ from place]
    show (styledLine colors editor.text)[_]? = _
    rw [styledLine, List.getElem?_append_right (by simp), List.length_map, Nat.add_sub_cancel_left,
      List.getElem?_map]
  rw [atCursor] at shown
  rw [elements, List.getElem?_map]
  cases found : editor.text.toList[editor.cursor]? with
  | some character =>
      rw [found] at shown
      exact ⟨character, rfl, shown⟩
  | none =>
      rw [found] at shown
      refine ⟨?_, shown⟩
      have atEnd := List.getElem?_eq_none_iff.1 found
      have bound := editor.cursor_le
      rw [elements, List.length_map] at bound
      have lengths : line.length = promptText.toList.length + editor.text.toList.length := by
        simp [line, styledLine]
      rw [lengths]
      exact Eq.trans place (by omega)

/-- A strict window that is narrower than the prompt, and a cursor that was moved to the left. -/
theorem drawPrompt_shows_cursor_narrow :
    let window : Window := { size := ⟨2, 6, true⟩ }
    let colors := ColorMap.ofPairs (colorPairs 256 64)
    let editor := (LineEditor.ofText "sin(x)").run [.feed ⟨.left, "", false, false⟩]
    let drawn := drawPrompt window colors editor (some "not a script")
    1 ≤ window.size.rows ∧ 1 ≤ window.size.columns ∧ drawn.refused = 0 ∧
      drawn.shown? 1 0 = some ('i', colors.style .text) ∧
      drawn.shown? 1 4 = some (')', colors.style .text) ∧ drawn.cursor = (1, 4) := by
  intro window colors editor drawn
  have rows : 1 ≤ window.size.rows := by decide
  have columns : 1 ≤ window.size.columns := by decide
  obtain ⟨⟨-, refused, -⟩, shows, column, within, moved, place, -⟩ :=
    drawPrompt_shows_cursor window rows columns colors (some "not a script") "sin(x)" [.number 260]
  have cursor : promptText.toList.length + editor.cursor = 20 := by decide +kernel
  have place : promptText.toList.length + editor.cursor - (5 - 1) + column =
    promptText.toList.length + editor.cursor := place
  have isColumn : column = 4 := by omega
  rw [isColumn] at moved
  have first : (((styledLine colors editor.text).drop (promptText.toList.length +
      editor.cursor - (5 - 1)))[0]?.getD (' ', 0)) = ('i', colors.style .text) := by
    decide +kernel
  have last : (((styledLine colors editor.text).drop (promptText.toList.length +
      editor.cursor - (5 - 1)))[4]?.getD (' ', 0)) = (')', colors.style .text) := by
    decide +kernel
  exact ⟨rows, columns, refused, (shows 0 (by decide)).trans (congrArg some first),
    (shows 4 (by decide)).trans (congrArg some last), moved⟩

end LiveGrid.Screen
