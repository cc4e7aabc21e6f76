import LiveGrid.Proofs.Editor.Characters

/-!
Contract: the cursor of a line counts characters, unless upper-casing makes several of one.

Owns:
- key events that carry a single character, and those of them that put in several;
- elements of a line are single characters or were put in by such an event;
- elements are at most as many as characters, and as many exactly if each is a single character;
- the same for the elements before the cursor and the text before it.

With shift an event puts in the upper case of its character as one element. For most characters that
is a single character; for ß it is SS, and from then on the line counts one less than its text has.

Does not own: which characters have a long upper case.
-/

namespace LiveGrid

namespace KeyEvent

/-- Whether a key event carries a single character, if it is the key of a character. -/
def CarriesCharacter (event : KeyEvent) : Prop :=
  event.key = .char → ∃ character, event.char = String.singleton character

/-- Whether a key event puts in the upper case of its character, and that is not a single one. -/
def Expands (event : KeyEvent) : Prop :=
  event.key = .char ∧ event.ctrl = false ∧ event.shift = true ∧
    (Text.uppercase event.char).length ≠ 1

instance : DecidablePred Expands := fun _ => inferInstanceAs (Decidable (_ ∧ _ ∧ _ ∧ _))

variable {event : KeyEvent} {element : String}

theorem one_le_length_uppercase (character : Char) :
    1 ≤ (Text.uppercase (String.singleton character)).length := by
  rw [Text.uppercase, String.toList_singleton, List.flatMap_singleton, String.length_ofList]
  exact List.length_pos_iff.2 (Text.uppercaseOf_ne_nil character)

/-- What a key event with a single character puts in: a single character, or a long upper case. -/
theorem CarriesCharacter.of_inserted? (carries : event.CarriesCharacter)
    (inserted : event.inserted? = some element) :
    1 ≤ element.length ∧
      (element.length = 1 ∨ event.Expands ∧ element = Text.uppercase event.char) := by
  rw [inserted?] at inserted
  split at inserted
  · rename_i typed
    obtain ⟨character, isSingle⟩ := carries typed.1
    obtain rfl := Option.some.inj inserted
    split
    · rename_i shifted
      refine ⟨isSingle ▸ one_le_length_uppercase character, ?_⟩
      by_cases single : (Text.uppercase event.char).length = 1
      · exact .inl single
      · exact .inr ⟨⟨typed.1, typed.2, shifted, single⟩, rfl⟩
    · rw [isSingle, String.length_singleton]
      exact ⟨Nat.le_refl 1, .inl rfl⟩
  · cases inserted

end KeyEvent

/-- Texts that are not empty are at most as many as their characters, and as many exactly if each is
a single character. -/
theorem length_le_length_join {elements : List String}
    (nonempty : ∀ element ∈ elements, 1 ≤ element.length) :
    elements.length ≤ (String.join elements).length ∧
      (elements.length = (String.join elements).length ↔
        ∀ element ∈ elements, element.length = 1) := by
  induction elements with
  | nil => exact ⟨Nat.le_refl 0, by simp⟩
  | cons element rest inductionHypothesis =>
      obtain ⟨restLe, restIff⟩ := inductionHypothesis fun later member =>
        nonempty later (List.mem_cons_of_mem _ member)
      have first := nonempty element List.mem_cons_self
      rw [String.join_cons, String.length_append, List.length_cons, List.forall_mem_cons, ← restIff]
      omega

namespace LineEditor

variable {editor : LineEditor}

theorem text_eq_append (editor : LineEditor) :
    editor.text.toList =
      (String.join editor.before).toList ++ (String.join editor.after).toList := by
  rw [← String.toList_append, ← String.join_append, before, after, List.take_append_drop]
  rfl

theorem length_before (editor : LineEditor) : editor.before.length = editor.cursor := by
  rw [before, List.length_take]
  exact Nat.min_eq_left editor.cursor_le

/-- The text before the cursor has as many characters as the cursor says exactly if every element
there is a single character. -/
theorem join_before_eq_iff (nonempty : ∀ element ∈ editor.elements, 1 ≤ element.length) :
    String.join editor.before = String.ofList (editor.text.toList.take editor.cursor) ↔
      ∀ element ∈ editor.before, element.length = 1 := by
  have beforeNonempty : ∀ element ∈ editor.before, 1 ≤ element.length :=
    fun element member => nonempty element (List.mem_of_mem_take member)
  obtain ⟨isLe, isEq_iff⟩ := length_le_length_join beforeNonempty
  rw [length_before] at isLe isEq_iff
  have inside : editor.cursor ≤ (String.join editor.before).toList.length := by
    rw [String.length_toList]
    exact isLe
  rw [← isEq_iff, ← String.toList_inj, String.toList_ofList, text_eq_append,
    List.take_append_of_le_length inside]
  constructor
  · intro same
    have lengths := congrArg List.length same
    rw [List.length_take, String.length_toList] at lengths
    omega
  · intro same
    rw [same, ← String.length_toList, List.take_length]

/-- An element of a line is a single character, or an event has put it in that makes several
characters of one. -/
theorem length_of_mem_run {text : String} {events : List KeyEvent}
    (carry : ∀ event ∈ events, event.CarriesCharacter) {element : String}
    (member : element ∈ ((ofText text).run (events.map .feed)).elements) :
    1 ≤ element.length ∧
      (element.length = 1 ∨
        ∃ event ∈ events, event.Expands ∧ element = Text.uppercase event.char) := by
  rw [ofText_eq_ofSplit, run_ofSplit] at member
  rcases SplitLine.mem_elements_run member with before | ⟨event, isEvent, inserted⟩
  · obtain ⟨character, rfl⟩ := SplitLine.hasCharacters_ofText text element before
    rw [String.length_singleton]
    exact ⟨Nat.le_refl 1, .inl rfl⟩
  · obtain ⟨positive, single | expanded⟩ := (carry event isEvent).of_inserted? inserted
    · exact ⟨positive, .inl single⟩
    · exact ⟨positive, .inr ⟨event, isEvent, expanded⟩⟩

/-- A line after any events that carry single characters. It has at most as many elements as its
text has characters, and as many exactly if each element is a single character; the text before the
cursor has as many characters as the cursor says exactly if each element there is one. Every other
element is the upper case that an event has put in. So the cursor counts characters as long as no
event puts in several at once. -/
theorem counts_characters_unless_expanded (text : String) (events : List KeyEvent)
    (carry : ∀ event ∈ events, event.CarriesCharacter) :
    let editor := (ofText text).run (events.map .feed)
    let counted := String.ofList (editor.text.toList.take editor.cursor)
    (editor.cursor ≤ editor.size ∧ editor.size ≤ editor.text.length) ∧
    (editor.size = editor.text.length ↔ ∀ element ∈ editor.elements, element.length = 1) ∧
    (String.join editor.before = counted ↔ ∀ element ∈ editor.before, element.length = 1) ∧
    (∀ element ∈ editor.elements, element.length = 1 ∨
      ∃ event ∈ events, event.Expands ∧ element = Text.uppercase event.char) ∧
    ((∀ event ∈ events, ¬ event.Expands) →
      editor.size = editor.text.length ∧ editor.cursor ≤ editor.text.length ∧
        String.join editor.before = counted) := by
  intro editor counted
  have nonempty : ∀ element ∈ editor.elements, 1 ≤ element.length :=
    fun _ member => (length_of_mem_run carry member).1
  have expanded : ∀ element ∈ editor.elements, element.length = 1 ∨
      ∃ event ∈ events, event.Expands ∧ element = Text.uppercase event.char :=
    fun _ member => (length_of_mem_run carry member).2
  obtain ⟨isLe, isEq_iff⟩ := length_le_length_join nonempty
  refine ⟨⟨editor.cursor_le, isLe⟩, isEq_iff, join_before_eq_iff nonempty, expanded, ?_⟩
  intro noneExpands
  have single : ∀ element ∈ editor.elements, element.length = 1 := by
    intro element member
    rcases expanded element member with isOne | ⟨event, isEvent, expands, -⟩
    · exact isOne
    · exact absurd expands (noneExpands event isEvent)
  have singleBefore : ∀ element ∈ editor.before, element.length = 1 :=
    fun element member => single element (List.mem_of_mem_take member)
  exact ⟨isEq_iff.2 single, Nat.le_trans editor.cursor_le isLe,
    (join_before_eq_iff nonempty).2 singleBefore⟩

/-- Letters with and without shift, one with the control key, and keys that move the cursor. -/
theorem counts_characters_unless_expanded_letters :
    let events : List KeyEvent :=
      [⟨.char, "p", false, true⟩, ⟨.left, "", false, false⟩, ⟨.char, "x", true, false⟩,
        ⟨.char, "y", false, false⟩]
    let editor := (ofText "ab").run (events.map .feed)
    (∀ event ∈ events, event.CarriesCharacter) ∧ (∀ event ∈ events, ¬ event.Expands) ∧
      editor.text = "abyP" ∧ editor.size = editor.text.length ∧
      String.join editor.before = String.ofList (editor.text.toList.take editor.cursor) := by
  intro events editor
  have carry : ∀ event ∈ events, event.CarriesCharacter := by
    simp only [events, List.forall_mem_cons]
    refine ⟨fun _ => ⟨'p', rfl⟩, fun isChar => ?_, fun _ => ⟨'x', rfl⟩, fun _ => ⟨'y', rfl⟩, ?_⟩
    · exact Key.noConfusion isChar
    · exact fun _ member => absurd member List.not_mem_nil
  have noneExpands : ∀ event ∈ events, ¬ event.Expands := by decide +kernel
  obtain ⟨-, -, -, -, counts⟩ := counts_characters_unless_expanded "ab" events carry
  obtain ⟨sizes, -, isBefore⟩ := counts noneExpands
  exact ⟨carry, noneExpands, by decide +kernel, sizes, isBefore⟩

/-- The upper case of ß is one element and two characters. The cursor is behind both, and says one.
-/
theorem size_ne_length_of_expanded :
    let event : KeyEvent := ⟨.char, "ß", false, true⟩
    let editor := (ofText "").run [.feed event]
    event.CarriesCharacter ∧ editor.text = "SS" ∧ editor.size = 1 ∧ editor.cursor = 1 ∧
      editor.size ≠ editor.text.length ∧ String.join editor.before = "SS" ∧
      String.join editor.before ≠ String.ofList (editor.text.toList.take editor.cursor) := by
  refine ⟨fun _ => ⟨'ß', rfl⟩, ?_⟩
  decide +kernel

end LineEditor

end LiveGrid
