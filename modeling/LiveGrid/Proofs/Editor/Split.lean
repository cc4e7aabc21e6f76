import LiveGrid.Editor.Line

/-!
Contract: a line with a cursor is a pair of lists, the elements before the cursor and those after
it.

Owns:
- lines that are split at a cursor, and what keys and primitive edits do to them;
- a line editor holds the split line that the same calls make of the same text;
- no call but one that clears the line touches an element away from the cursor.

A cursor that is an index has limits that every edit has to respect. A split line has none: where
nothing stands on a side, the list of that side is empty.

Does not own: how a line ends to be edited.
-/

namespace LiveGrid

/-- What can be asked of a line editor: to take a key event, or a primitive edit. -/
inductive LineCall where
  | feed (event : KeyEvent)
  | insert (element : String)
  | backspace
  | clear
  | left
  | right
  | home
  | toEnd

/-- Whether a call removes the whole line. -/
def LineCall.Clears : LineCall → Prop
  | .feed event => event.key = .backspace ∧ event.shift = true
  | .clear => True
  | _ => False

/-- A line that is split at its cursor. -/
structure SplitLine where
  before : List String
  after : List String

/-! ## Split lines -/

namespace SplitLine

/-- The characters of a text, with nothing after the cursor. -/
def ofText (text : String) : SplitLine := ⟨text.toList.map String.singleton, []⟩

def append (line : SplitLine) (element : String) : SplitLine :=
  ⟨line.before ++ [element], line.after⟩

def dropLast (line : SplitLine) : SplitLine := ⟨line.before.dropLast, line.after⟩

/-- Moves the last element before the cursor behind it, if there is one. -/
def left (line : SplitLine) : SplitLine :=
  match line.before.getLast? with
  | some element => ⟨line.before.dropLast, element :: line.after⟩
  | none => line

/-- Moves the first element after the cursor before it, if there is one. -/
def right (line : SplitLine) : SplitLine :=
  match line.after with
  | element :: rest => ⟨line.before ++ [element], rest⟩
  | [] => line

def home (line : SplitLine) : SplitLine := ⟨[], line.before ++ line.after⟩

def toEnd (line : SplitLine) : SplitLine := ⟨line.before ++ line.after, []⟩

/-- The split line after a key event. -/
def feed (line : SplitLine) : KeyEvent → SplitLine
  | ⟨.char, _, true, _⟩ => line
  | ⟨.char, char, false, true⟩ => line.append (Text.uppercase char)
  | ⟨.char, char, false, false⟩ => line.append char
  | ⟨.backspace, _, _, true⟩ => ⟨[], []⟩
  | ⟨.backspace, _, _, false⟩ => line.dropLast
  | ⟨.left, _, _, _⟩ => line.left
  | ⟨.right, _, _, _⟩ => line.right
  | ⟨.up, _, _, _⟩ => line.home
  | ⟨.down, _, _, _⟩ => line.toEnd
  | ⟨.enter, _, _, _⟩ => line
  | ⟨.escape, _, _, _⟩ => line

def perform (line : SplitLine) : LineCall → SplitLine
  | .feed event => line.feed event
  | .insert element => line.append element
  | .backspace => line.dropLast
  | .clear => ⟨[], []⟩
  | .left => line.left
  | .right => line.right
  | .home => line.home
  | .toEnd => line.toEnd

def run (line : SplitLine) (calls : List LineCall) : SplitLine := calls.foldl perform line

end SplitLine

namespace LineEditor

def perform (editor : LineEditor) : LineCall → LineEditor
  | .feed event => (editor.feed event).2
  | .insert element => editor.insert element
  | .backspace => editor.backspace
  | .clear => editor.clear
  | .left => editor.left
  | .right => editor.right
  | .home => editor.home
  | .toEnd => editor.toEnd

def run (editor : LineEditor) (calls : List LineCall) : LineEditor := calls.foldl perform editor

/-! ## Editors of split lines -/

/-- The editor that holds a split line. -/
def ofSplit (line : SplitLine) : LineEditor where
  elements := line.before ++ line.after
  cursor := line.before.length
  cursor_le := by simp

variable {line : SplitLine}

theorem eq_ofSplit_iff {editor : LineEditor} :
    editor = ofSplit line ↔
      editor.elements = line.before ++ line.after ∧ editor.cursor = line.before.length := by
  cases editor
  simp only [ofSplit, mk.injEq]

@[simp] theorem before_ofSplit : (ofSplit line).before = line.before := List.take_left

@[simp] theorem after_ofSplit : (ofSplit line).after = line.after := List.drop_left

theorem insert_ofSplit (element : String) :
    (ofSplit line).insert element = ofSplit (line.append element) := by
  rw [eq_ofSplit_iff]
  simp only [insert, before_ofSplit, after_ofSplit, SplitLine.append, List.append_assoc,
    List.singleton_append, List.length_append, List.length_singleton, true_and]
  rfl

theorem eq_nil_or_append (elements : List String) :
    elements = [] ∨ ∃ rest last, elements = rest ++ [last] := by
  simpa only [List.concat_eq_append] using List.eq_nil_or_concat elements

theorem backspace_ofSplit : (ofSplit line).backspace = ofSplit line.dropLast := by
  obtain ⟨before, after⟩ := line
  rw [eq_ofSplit_iff]
  rcases eq_nil_or_append before with rfl | ⟨rest, last, rfl⟩
  · exact ⟨rfl, rfl⟩
  · have cursor : (ofSplit ⟨rest ++ [last], after⟩).cursor - 1 = rest.length := by
      simp [ofSplit]
    have kept : (ofSplit ⟨rest ++ [last], after⟩).elements.take rest.length = rest := by
      simp [ofSplit]
    constructor
    · simp only [backspace, cursor, kept, after_ofSplit, SplitLine.dropLast, List.dropLast_concat]
    · simp only [backspace, cursor, SplitLine.dropLast, List.dropLast_concat]

theorem clear_ofSplit (line : SplitLine) : (ofSplit line).clear = ofSplit ⟨[], []⟩ := rfl

theorem left_ofSplit : (ofSplit line).left = ofSplit line.left := by
  obtain ⟨before, after⟩ := line
  rw [eq_ofSplit_iff]
  rcases eq_nil_or_append before with rfl | ⟨rest, last, rfl⟩
  · exact ⟨rfl, rfl⟩
  · simp [left, ofSplit, SplitLine.left]

theorem right_ofSplit : (ofSplit line).right = ofSplit line.right := by
  obtain ⟨before, after⟩ := line
  rw [eq_ofSplit_iff]
  cases after with
  | nil => simp [right, ofSplit, SplitLine.right]
  | cons first rest => simp [right, ofSplit, SplitLine.right]

theorem home_ofSplit : (ofSplit line).home = ofSplit line.home := rfl

theorem toEnd_ofSplit : (ofSplit line).toEnd = ofSplit line.toEnd := by
  rw [eq_ofSplit_iff]
  simp [toEnd, ofSplit, SplitLine.toEnd]

/-- A key that ends the edit leaves the line as it is, like a key without a meaning. -/
theorem feed_ofSplit (event : KeyEvent) :
    ((ofSplit line).feed event).2 = ofSplit (line.feed event) := by
  have applied : (ofSplit line).applyKey event = ofSplit (line.feed event) := by
    obtain ⟨key, char, ctrl, shift⟩ := event
    cases key with
    | char =>
        cases ctrl with
        | true => rfl
        | false => cases shift <;> exact insert_ofSplit _
    | backspace =>
        cases shift with
        | true => exact clear_ofSplit line
        | false => exact backspace_ofSplit
    | left => exact left_ofSplit
    | right => exact right_ofSplit
    | up => exact home_ofSplit
    | down => exact toEnd_ofSplit
    | enter | escape => rfl
  have unchanged : event.outcome ≠ .proceed → line.feed event = line := by
    intro ends
    obtain ⟨key, char, ctrl, shift⟩ := event
    cases key with
    | enter | escape => rfl
    | char =>
        cases ctrl with
        | true => rfl
        | false => exact absurd rfl ends
    | backspace | left | right | up | down => exact absurd rfl ends
  rw [feed]
  split
  · exact applied
  · rename_i ends
    rw [unchanged ends]

/-- One call: the editor does to its line what the call does to a split line. -/
theorem perform_ofSplit (call : LineCall) :
    (ofSplit line).perform call = ofSplit (line.perform call) := by
  cases call with
  | feed event => exact feed_ofSplit event
  | insert element => exact insert_ofSplit element
  | backspace => exact backspace_ofSplit
  | clear => exact clear_ofSplit line
  | left => exact left_ofSplit
  | right => exact right_ofSplit
  | home => exact home_ofSplit
  | toEnd => exact toEnd_ofSplit

/-- A run: the editor holds the split line of the same calls. -/
theorem run_ofSplit (calls : List LineCall) :
    (ofSplit line).run calls = ofSplit (line.run calls) := by
  induction calls generalizing line with
  | nil => rfl
  | cons call rest inductionHypothesis =>
      change ((ofSplit line).perform call).run rest = ofSplit ((line.perform call).run rest)
      rw [perform_ofSplit, inductionHypothesis]

theorem ofText_eq_ofSplit (text : String) : ofText text = ofSplit (SplitLine.ofText text) := by
  rw [eq_ofSplit_iff, SplitLine.ofText, List.append_nil]
  exact ⟨rfl, rfl⟩

/-! ## Elements away from the cursor -/

/-- From one line to the next, at most one element is removed or put in, and that directly before
the cursor. All others stay, in their order. -/
def ChangesAtCursor (editor next : LineEditor) : Prop :=
  ∃ kept removed inserted rest,
    editor.elements = kept ++ removed ++ rest ∧ next.elements = kept ++ inserted ++ rest ∧
      removed.length + inserted.length ≤ 1 ∧ editor.cursor = (kept ++ removed).length

theorem changesAtCursor_of_elements_eq {editor next : LineEditor}
    (same : next.elements = editor.elements) : editor.ChangesAtCursor next := by
  refine ⟨editor.before, [], [], editor.after, ?_, ?_, by simp, ?_⟩
  · simp [before, after]
  · simp [before, after, same]
  · have bound := editor.cursor_le
    simp only [before, List.append_nil, List.length_take]
    omega

theorem changesAtCursor_insert (editor : LineEditor) (element : String) :
    editor.ChangesAtCursor (editor.insert element) := by
  refine ⟨editor.before, [], [element], editor.after, ?_, ?_, by simp, ?_⟩
  · simp [before, after]
  · simp [insert]
  · have bound := editor.cursor_le
    simp only [before, List.append_nil, List.length_take]
    omega

theorem changesAtCursor_backspace : (ofSplit line).ChangesAtCursor (ofSplit line).backspace := by
  obtain ⟨before, after⟩ := line
  rw [backspace_ofSplit]
  rcases eq_nil_or_append before with rfl | ⟨rest, last, rfl⟩
  · exact changesAtCursor_of_elements_eq rfl
  · refine ⟨rest, [last], [], after, ?_, ?_, by simp, ?_⟩
    · simp [ofSplit]
    · simp [ofSplit, SplitLine.dropLast]
    · simp [ofSplit]

theorem changesAtCursor_feed {event : KeyEvent} (keeps : ¬ (LineCall.feed event).Clears) :
    (ofSplit line).ChangesAtCursor ((ofSplit line).feed event).2 := by
  rw [feed]
  split
  · unfold applyKey
    split
    · split
      · exact changesAtCursor_of_elements_eq rfl
      · exact changesAtCursor_insert _ _
    · rename_i isBackspace
      split
      · rename_i shifted
        exact absurd ⟨isBackspace, shifted⟩ keeps
      · exact changesAtCursor_backspace
    all_goals exact changesAtCursor_of_elements_eq rfl
  · exact changesAtCursor_of_elements_eq rfl

theorem changesAtCursor_perform {call : LineCall} (keeps : ¬ call.Clears) :
    (ofSplit line).ChangesAtCursor ((ofSplit line).perform call) := by
  cases call with
  | feed event => exact changesAtCursor_feed keeps
  | insert element => exact changesAtCursor_insert _ element
  | backspace => exact changesAtCursor_backspace
  | clear => exact absurd trivial keeps
  | left | right | home | toEnd => exact changesAtCursor_of_elements_eq rfl

/-- After any calls an editor holds the line that two lists hold after the same calls, with its
cursor between them. The cursor never leaves the line, and a further call touches no element away
from the cursor, unless it clears the line. -/
theorem run_eq_split (text : String) (calls : List LineCall) :
    let editor := (ofText text).run calls
    let line := (SplitLine.ofText text).run calls
    editor.elements = line.before ++ line.after ∧ editor.cursor = line.before.length ∧
      editor.cursor ≤ editor.size ∧
      ∀ call, call.Clears ∨ editor.ChangesAtCursor (editor.perform call) := by
  intro editor line
  have isSplit : editor = ofSplit line := by
    change (ofText text).run calls = ofSplit ((SplitLine.ofText text).run calls)
    rw [ofText_eq_ofSplit, run_ofSplit]
  obtain ⟨elements, cursor⟩ := eq_ofSplit_iff.1 isSplit
  refine ⟨elements, cursor, ?_, fun call => ?_⟩
  · rw [size, elements, cursor, List.length_append]
    exact Nat.le_add_right _ _
  · by_cases clears : call.Clears
    · exact .inl clears
    · rw [isSplit]
      exact .inr (changesAtCursor_perform clears)

/-- Keys at both ends of a line, and a character that becomes two. -/
example :
    let editor := (ofText "ab").run
      [.feed ⟨.right, "", false, false⟩, .feed ⟨.up, "", false, false⟩, .backspace,
        .feed ⟨.char, "ß", false, true⟩, .feed ⟨.enter, "", false, false⟩]
    editor.elements = ["SS", "a", "b"] ∧ editor.cursor = 1 := by
  decide +kernel

end LineEditor

end LiveGrid
