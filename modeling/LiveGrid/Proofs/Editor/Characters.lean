import LiveGrid.Proofs.Editor.Split

/-!
Contract: a line that is edited with a terminal has one character for each of its elements.

Owns:
- the element that a key event puts in, and where the elements of a line come from;
- the key events that put in one character at most, which are those of a terminal;
- such events keep every element of a line a single character;
- the characters of the text of such a line are its elements, so its cursor counts characters.

An event with shift may put in several characters at once. No delivery of a terminal is such an
event: a shifted letter comes as the capital letter.

Does not own: how the line is shown.
-/

namespace LiveGrid

/-- The element that a key event puts into a line. -/
def KeyEvent.inserted? (event : KeyEvent) : Option String :=
  if event.key = .char ∧ event.ctrl = false then
    some (if event.shift then Text.uppercase event.char else event.char)
  else none

/-- Whether a key event puts in one character, if it puts in anything. -/
def KeyEvent.TypesCharacter (event : KeyEvent) : Prop :=
  event.key = .char → event.ctrl = false →
    event.shift = false ∧ ∃ character, event.char = String.singleton character

theorem specialKey?_typesCharacter {number : Int} {event : KeyEvent}
    (special : specialKey? number = some event) : event.TypesCharacter := by
  intro isChar
  unfold specialKey? at special
  split at special
  all_goals cases special
  all_goals exact Key.noConfusion isChar

theorem controlKey?_typesCharacter {character : Char} {event : KeyEvent}
    (control : controlKey? character = some event) : event.TypesCharacter := by
  intro isChar notControl
  unfold controlKey? at control
  split at control
  all_goals cases control
  · exact Bool.noConfusion notControl
  all_goals exact Key.noConfusion isChar

/-- A terminal delivers no event that puts in more than one character. -/
theorem KeyInput.event?_typesCharacter {input : KeyInput} {event : KeyEvent}
    (delivered : input.event? = some event) : event.TypesCharacter := by
  cases input with
  | number value => exact specialKey?_typesCharacter delivered
  | text value =>
      simp only [event?] at delivered
      split at delivered
      · rename_i character single
        have isSingle : value = String.singleton character := by
          rw [← String.toList_inj, single, String.toList_singleton]
        split at delivered
        · rename_i control
          rw [← Option.some.inj delivered]
          exact controlKey?_typesCharacter control
        · split at delivered
          · rw [← Option.some.inj delivered]
            exact fun _ _ => ⟨rfl, character, isSingle⟩
          · exact absurd delivered (Option.some_ne_none event).symm
      · exact absurd delivered (Option.some_ne_none event).symm

theorem KeyEvent.exists_of_inserted? {event : KeyEvent} (types : event.TypesCharacter)
    {element : String} (inserted : event.inserted? = some element) :
    ∃ character, element = String.singleton character := by
  rw [inserted?] at inserted
  split at inserted
  · rename_i typed
    obtain ⟨unshifted, character, isSingle⟩ := types typed.1 typed.2
    rw [unshifted, if_neg Bool.false_ne_true, isSingle] at inserted
    exact ⟨character, (Option.some.inj inserted).symm⟩
  · cases inserted

namespace SplitLine

/-- The elements of both sides. -/
def elements (line : SplitLine) : List String := line.before ++ line.after

/-- Whether every element is a single character. -/
def HasCharacters (line : SplitLine) : Prop :=
  ∀ element ∈ line.elements, ∃ character, element = String.singleton character

variable {line : SplitLine}

/-- Moving the cursor leaves the elements as they are. -/
theorem elements_left (line : SplitLine) : line.left.elements = line.elements := by
  obtain ⟨before, after⟩ := line
  rcases LineEditor.eq_nil_or_append before with rfl | ⟨rest, last, rfl⟩
  · rfl
  · simp [left, elements]

theorem elements_right (line : SplitLine) : line.right.elements = line.elements := by
  obtain ⟨before, after⟩ := line
  cases after with
  | nil => rfl
  | cons first rest => simp [right, elements]

theorem elements_home (line : SplitLine) : line.home.elements = line.elements := rfl

theorem elements_toEnd (line : SplitLine) : line.toEnd.elements = line.elements :=
  List.append_nil _

theorem mem_elements_append {element inserted : String}
    (member : element ∈ (line.append inserted).elements) :
    element ∈ line.elements ∨ inserted = element := by
  simp only [elements, append, List.append_assoc, List.mem_append, List.mem_singleton] at member
  rcases member with before | rfl | after
  · exact .inl (List.mem_append_left _ before)
  · exact .inr rfl
  · exact .inl (List.mem_append_right _ after)

theorem mem_elements_dropLast {element : String} (member : element ∈ line.dropLast.elements) :
    element ∈ line.elements := by
  rcases List.mem_append.1 member with before | after
  · exact List.mem_append_left _ ((List.dropLast_sublist _).subset before)
  · exact List.mem_append_right _ after

/-- An element after an event was in the line before, or the event has put it in. -/
theorem mem_elements_feed {event : KeyEvent} {element : String}
    (member : element ∈ (line.feed event).elements) :
    element ∈ line.elements ∨ event.inserted? = some element := by
  obtain ⟨key, char, ctrl, shift⟩ := event
  cases key with
  | char =>
      cases ctrl with
      | true => exact .inl member
      | false =>
          cases shift with
          | true => exact (mem_elements_append member).imp_right (congrArg some)
          | false => exact (mem_elements_append member).imp_right (congrArg some)
  | backspace =>
      cases shift with
      | true => exact absurd member List.not_mem_nil
      | false => exact .inl (mem_elements_dropLast member)
  | left => exact .inl (elements_left line ▸ member)
  | right => exact .inl (elements_right line ▸ member)
  | up => exact .inl (elements_home line ▸ member)
  | down => exact .inl (elements_toEnd line ▸ member)
  | enter | escape => exact .inl member

/-- An element after a run of events was in the line before, or one of them has put it in. -/
theorem mem_elements_run {events : List KeyEvent} {element : String}
    (member : element ∈ (line.run (events.map .feed)).elements) :
    element ∈ line.elements ∨ ∃ event ∈ events, event.inserted? = some element := by
  induction events generalizing line with
  | nil => exact .inl member
  | cons event rest inductionHypothesis =>
      have fromNext : element ∈ ((line.feed event).run (rest.map .feed)).elements := member
      rcases inductionHypothesis fromNext with before | ⟨other, isLater, inserted⟩
      · exact (mem_elements_feed before).imp_right fun inserted =>
          ⟨event, List.mem_cons_self, inserted⟩
      · exact .inr ⟨other, List.mem_cons_of_mem _ isLater, inserted⟩

theorem hasCharacters_ofText (text : String) : (ofText text).HasCharacters := by
  intro element member
  rw [elements, ofText, List.append_nil] at member
  obtain ⟨character, -, rfl⟩ := List.mem_map.1 member
  exact ⟨character, rfl⟩

/-- A run of events that put in single characters, from a line of characters. -/
theorem hasCharacters_run (hasCharacters : line.HasCharacters) {events : List KeyEvent}
    (type : ∀ event ∈ events, event.TypesCharacter) :
    (line.run (events.map .feed)).HasCharacters := by
  intro element member
  rcases mem_elements_run member with before | ⟨event, isEvent, inserted⟩
  · exact hasCharacters element before
  · exact KeyEvent.exists_of_inserted? (type event isEvent) inserted

end SplitLine

/-- Single characters are the characters of the text that they make together. -/
theorem eq_characters_of_join {elements : List String}
    (single : ∀ element ∈ elements, ∃ character, element = String.singleton character) :
    elements = (String.join elements).toList.map String.singleton := by
  induction elements with
  | nil => rfl
  | cons element rest inductionHypothesis =>
      obtain ⟨character, isSingle⟩ := single element List.mem_cons_self
      have others := inductionHypothesis fun later member =>
        single later (List.mem_cons_of_mem _ member)
      rw [String.join_cons, String.toList_append, List.map_append, ← others, isSingle,
        String.toList_singleton, List.map_singleton, List.singleton_append]

namespace LineEditor

/-- The elements of a line that is edited with a terminal are the characters of its text. -/
theorem elements_eq_characters (source : String) (inputs : List KeyInput) :
    let editor := (ofText source).run ((inputs.filterMap KeyInput.event?).map .feed)
    editor.elements = editor.text.toList.map String.singleton := by
  intro editor
  have isSplit : editor =
      ofSplit ((SplitLine.ofText source).run ((inputs.filterMap KeyInput.event?).map .feed)) := by
    change (ofText source).run _ = _
    rw [ofText_eq_ofSplit, run_ofSplit]
  have types : ∀ event ∈ inputs.filterMap KeyInput.event?, event.TypesCharacter := by
    intro event member
    obtain ⟨input, -, delivered⟩ := List.mem_filterMap.1 member
    exact KeyInput.event?_typesCharacter delivered
  rw [isSplit]
  exact eq_characters_of_join
    (SplitLine.hasCharacters_run (SplitLine.hasCharacters_ofText source) types)

end LineEditor

end LiveGrid
