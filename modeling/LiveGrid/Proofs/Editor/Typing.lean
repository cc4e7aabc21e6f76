import LiveGrid.Proofs.Editor.Split

/-!
Contract: what is typed before an edit ends.

Owns:
- the key events among polls, and polls of which none ends an edit;
- the text that keys type, as a split line holds it;
- an edit reads such polls, then the key that ends it, and no more; its line holds the typed text.

Does not own: what becomes of the text.
-/

namespace LiveGrid

/-- The key event that a poll brings. -/
def KeyPoll.event? : KeyPoll → Option KeyEvent
  | .event value => some value
  | .ignored => none
  | .idle => none

/-- Whether no poll brings a key that ends an edit. -/
def OnlyTypes (typed : List KeyPoll) : Prop :=
  ∀ event, .event event ∈ typed →
    event.key ≠ .enter ∧ event.key ≠ .escape ∧ event.isInterrupt = false

theorem onlyTypes_cons {poll : KeyPoll} {rest : List KeyPoll} :
    OnlyTypes (poll :: rest) ↔ OnlyTypes [poll] ∧ OnlyTypes rest := by
  constructor
  · intro types
    exact ⟨fun event member => types event (List.mem_singleton.1 member ▸ List.mem_cons_self),
      fun event member => types event (List.mem_cons_of_mem poll member)⟩
  · rintro ⟨first, later⟩ event member
    rcases List.mem_cons.1 member with isFirst | isLater
    · exact first event (List.mem_singleton.2 isFirst)
    · exact later event isLater

/-- The text of a split line. -/
def SplitLine.text (line : SplitLine) : String := String.join (line.before ++ line.after)

/-- What polls make of a text, with the cursor at its end at first. -/
def typedText (source : String) (typed : List KeyPoll) : String :=
  ((SplitLine.ofText source).run ((typed.filterMap KeyPoll.event?).map .feed)).text

theorem KeyEvent.outcome_eq_proceed {event : KeyEvent} (notEnter : event.key ≠ .enter)
    (notEscape : event.key ≠ .escape) (notInterrupt : event.isInterrupt = false) :
    event.outcome = .proceed := by
  rw [KeyEvent.outcome, notInterrupt]
  cases key : event.key with
  | enter => exact absurd key notEnter
  | escape => exact absurd key notEscape
  | _ => rfl

/-- Only a character can ask to quit. -/
theorem KeyEvent.isInterrupt_eq_false {event : KeyEvent} (notChar : event.key ≠ .char) :
    event.isInterrupt = false := by
  simp [KeyEvent.isInterrupt, notChar]

theorem KeyEvent.outcome_of_escape {event : KeyEvent} (escapes : event.key = .escape) :
    event.outcome = .discard := by
  have notInterrupt : event.isInterrupt = false := isInterrupt_eq_false (by simp [escapes])
  simp [KeyEvent.outcome, notInterrupt, escapes]

theorem KeyEvent.outcome_of_enter {event : KeyEvent} (enters : event.key = .enter) :
    event.outcome = .submit := by
  have notInterrupt : event.isInterrupt = false := isInterrupt_eq_false (by simp [enters])
  simp [KeyEvent.outcome, notInterrupt, enters]

namespace LineEditor

variable {editor : LineEditor} {event : KeyEvent} {typed unread : List KeyPoll}

theorem feed_of_proceed (proceeds : event.outcome = .proceed) :
    editor.feed event = (.proceed, editor.perform (.feed event)) := by
  rw [perform, feed, proceeds]

theorem feed_of_ne_proceed (ends : event.outcome ≠ .proceed) :
    editor.feed event = (event.outcome, editor) := by
  rw [feed]
  split
  · rename_i proceeds
    exact absurd proceeds ends
  · rfl

/-- A key that only types goes on with the edit. -/
theorem feed_of_onlyTypes (types : OnlyTypes [.event event]) :
    editor.feed event = (.proceed, editor.perform (.feed event)) := by
  obtain ⟨notEnter, notEscape, notInterrupt⟩ := types event List.mem_cons_self
  exact feed_of_proceed (KeyEvent.outcome_eq_proceed notEnter notEscape notInterrupt)

/-- A key that ends an edit is the last one that is read. -/
theorem editLine_of_ne_proceed (ends : event.outcome ≠ .proceed) :
    editLine editor (.event event :: unread) =
      ⟨some event.outcome, editor, [editor], unread⟩ := by
  rw [editLine, feed_of_ne_proceed ends]
  cases outcome : event.outcome with
  | proceed => exact absurd outcome ends
  | submit | discard | quit => rfl

/-- The line after the events of polls. -/
def feedAll (editor : LineEditor) (polls : List KeyPoll) : LineEditor :=
  editor.run ((polls.filterMap KeyPoll.event?).map .feed)

theorem feedAll_cons (editor : LineEditor) (poll : KeyPoll) (rest : List KeyPoll) :
    editor.feedAll (poll :: rest) = (editor.feedAll [poll]).feedAll rest := by
  cases poll <;> rfl

theorem feedAll_take_succ (editor : LineEditor) (poll : KeyPoll) (rest : List KeyPoll)
    (count : Nat) :
    editor.feedAll ((poll :: rest).take (count + 1)) =
      (editor.feedAll [poll]).feedAll (rest.take count) :=
  feedAll_cons editor poll (rest.take count)

/-- An edit redraws the line, takes one poll that does not end it, and goes on. -/
theorem editLine_cons {poll : KeyPoll} {rest : List KeyPoll} (types : OnlyTypes [poll]) :
    editLine editor (poll :: rest) =
      { editLine (editor.feedAll [poll]) rest with
        redraws := editor :: (editLine (editor.feedAll [poll]) rest).redraws } := by
  cases poll with
  | idle | ignored => rfl
  | event event =>
      rw [editLine, feed_of_onlyTypes types]
      rfl

/-- An edit takes polls that do not end it one by one, and redraws the line before each of them. -/
theorem editLine_append (editor : LineEditor) (types : OnlyTypes typed) (rest : List KeyPoll) :
    editLine editor (typed ++ rest) =
      { editLine (editor.feedAll typed) rest with
        redraws := (List.range typed.length).map (fun count => editor.feedAll (typed.take count)) ++
          (editLine (editor.feedAll typed) rest).redraws } := by
  induction typed generalizing editor with
  | nil => rfl
  | cons poll later inductionHypothesis =>
      obtain ⟨pollTypes, laterTypes⟩ := onlyTypes_cons.1 types
      rw [List.cons_append, editLine_cons pollTypes, inductionHypothesis _ laterTypes,
        feedAll_cons editor poll later, List.length_cons, List.range_succ_eq_map, List.map_cons,
        List.map_map]
      simp only [Function.comp_def, Nat.succ_eq_add_one, feedAll_take_succ]
      rfl

/-- An edit takes what is typed key by key, up to the key that ends it. -/
theorem editLine_typed (editor : LineEditor) (types : OnlyTypes typed)
    (ends : event.outcome ≠ .proceed) :
    (editLine editor (typed ++ .event event :: unread)).outcome = some event.outcome ∧
      (editLine editor (typed ++ .event event :: unread)).unread = unread ∧
      (editLine editor (typed ++ .event event :: unread)).editor =
        editor.run ((typed.filterMap KeyPoll.event?).map .feed) := by
  rw [editLine_append editor types, editLine_of_ne_proceed ends]
  exact ⟨rfl, rfl, rfl⟩

/-- The line of an edit of a text holds the text that was typed. -/
theorem text_run_ofText {source : String} :
    ((ofText source).run ((typed.filterMap KeyPoll.event?).map .feed)).text =
      typedText source typed := by
  rw [ofText_eq_ofSplit, run_ofSplit]
  rfl

end LineEditor

end LiveGrid
