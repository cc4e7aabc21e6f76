import LiveGrid.Proofs.Editor.Typing

/-!
Contract: an edit reads up to the first key that ends it, and redraws the line before every read.

Owns:
- the keys that end an edit, and the first of them among polls;
- an edit step by step: a redraw of the line, a read of a poll, and so on;
- what an edit reads, leaves and shows, whether or not a key ends it.

A key that ends an edit changes nothing, and neither does a poll without an event. So the line is at
every redraw what the events before it have made of the first line.

Does not own: what an event makes of a line.
-/

namespace LiveGrid

/-- Whether a key ends an edit: one that asks to quit, enter or escape. -/
def KeyEvent.Ends (event : KeyEvent) : Prop :=
  event.isInterrupt = true ∨ event.key = .enter ∨ event.key = .escape

/-- What an edit does: it redraws a line, or it reads a poll. -/
inductive EditEvent where
  | redraw (editor : LineEditor)
  | read (poll : KeyPoll)

/-- An edit step by step. -/
def LineEditor.editEvents (editor : LineEditor) : List KeyPoll → List EditEvent
  | [] => [.redraw editor]
  | poll :: rest =>
      .redraw editor :: .read poll ::
        match poll with
        | .event event =>
            match editor.feed event with
            | (.proceed, next) => next.editEvents rest
            | _ => []
        | .ignored => editor.editEvents rest
        | .idle => editor.editEvents rest

namespace KeyEvent

variable {event : KeyEvent}

/-- Which end a key asks for. -/
theorem Ends.outcome_eq (ends : event.Ends) :
    (event.isInterrupt = true ∧ event.outcome = .quit) ∨
      (event.key = .enter ∧ event.outcome = .submit) ∨
        (event.key = .escape ∧ event.outcome = .discard) := by
  rcases ends with interrupts | enters | escapes
  · exact .inl ⟨interrupts, if_pos interrupts⟩
  · exact .inr (.inl ⟨enters, outcome_of_enter enters⟩)
  · exact .inr (.inr ⟨escapes, outcome_of_escape escapes⟩)

theorem Ends.outcome_ne (ends : event.Ends) : event.outcome ≠ .proceed := by
  rcases ends.outcome_eq with ⟨-, isOutcome⟩ | ⟨-, isOutcome⟩ | ⟨-, isOutcome⟩
  all_goals
    rw [isOutcome]
    decide

theorem not_ends_iff :
    ¬ event.Ends ↔ event.key ≠ .enter ∧ event.key ≠ .escape ∧ event.isInterrupt = false := by
  rw [Ends, not_or, not_or, Bool.not_eq_true]
  exact ⟨fun ⟨a, b, c⟩ => ⟨b, c, a⟩, fun ⟨b, c, a⟩ => ⟨a, b, c⟩⟩

end KeyEvent

theorem onlyTypes_iff {polls : List KeyPoll} :
    OnlyTypes polls ↔ ¬ ∃ event, .event event ∈ polls ∧ event.Ends := by
  simp only [OnlyTypes, ← KeyEvent.not_ends_iff, not_exists, not_and]

/-- Among polls with a key that ends an edit there is a first one. -/
theorem exists_first_ending {polls : List KeyPoll}
    (ending : ∃ event, .event event ∈ polls ∧ event.Ends) :
    ∃ typed event unread, polls = typed ++ .event event :: unread ∧ OnlyTypes typed ∧
      event.Ends := by
  induction polls with
  | nil =>
      obtain ⟨event, member, -⟩ := ending
      exact absurd member List.not_mem_nil
  | cons poll rest inductionHypothesis =>
      by_cases first : ∃ event, poll = .event event ∧ event.Ends
      · obtain ⟨event, rfl, ends⟩ := first
        exact ⟨[], event, rest, rfl, fun _ member => absurd member List.not_mem_nil, ends⟩
      · have later : ∃ event, .event event ∈ rest ∧ event.Ends := by
          obtain ⟨event, member, ends⟩ := ending
          rcases List.mem_cons.1 member with isFirst | isLater
          · exact absurd ⟨event, isFirst.symm, ends⟩ first
          · exact ⟨event, isLater, ends⟩
        obtain ⟨typed, event, unread, rfl, types, ends⟩ := inductionHypothesis later
        have pollTypes : OnlyTypes [poll] := onlyTypes_iff.2 fun ⟨other, member, otherEnds⟩ =>
          first ⟨other, (List.mem_singleton.1 member).symm, otherEnds⟩
        exact ⟨poll :: typed, event, unread, rfl, onlyTypes_cons.2 ⟨pollTypes, types⟩, ends⟩

namespace LineEditor

variable {editor : LineEditor} {event : KeyEvent} {typed unread : List KeyPoll}

/-! ## Step by step -/

/-- A redraw and a read for each of some polls, with the line as it then is. -/
def turnsOf (editor : LineEditor) (polls : List KeyPoll) : List EditEvent :=
  polls.zipIdx.flatMap fun (poll, count) =>
    [.redraw (editor.feedAll (polls.take count)), .read poll]

theorem turnsOf_cons (editor : LineEditor) (poll : KeyPoll) (rest : List KeyPoll) :
    editor.turnsOf (poll :: rest) =
      .redraw editor :: .read poll :: (editor.feedAll [poll]).turnsOf rest := by
  rw [turnsOf, List.zipIdx_cons, List.flatMap_cons, List.zipIdx_succ, List.flatMap_map]
  simp only [feedAll_take_succ]
  rfl

/-- An edit redraws the line and takes one poll that does not end it. -/
theorem editEvents_cons {poll : KeyPoll} {rest : List KeyPoll} (types : OnlyTypes [poll]) :
    editor.editEvents (poll :: rest) =
      .redraw editor :: .read poll :: (editor.feedAll [poll]).editEvents rest := by
  cases poll with
  | idle | ignored => rfl
  | event event =>
      rw [editEvents]
      simp only [feed_of_onlyTypes types]
      rfl

/-- A key that ends an edit is the last that is read. -/
theorem editEvents_of_ends (ends : event.Ends) :
    editor.editEvents (.event event :: unread) = editor.turnsOf [.event event] := by
  rw [editEvents]
  simp only [feed_of_ne_proceed ends.outcome_ne]
  cases outcome : event.outcome with
  | proceed => exact absurd outcome ends.outcome_ne
  | submit | discard | quit => rfl

theorem editEvents_append (editor : LineEditor) (types : OnlyTypes typed) (rest : List KeyPoll) :
    editor.editEvents (typed ++ rest) =
      editor.turnsOf typed ++ (editor.feedAll typed).editEvents rest := by
  induction typed generalizing editor with
  | nil => rfl
  | cons poll later inductionHypothesis =>
      obtain ⟨pollTypes, laterTypes⟩ := onlyTypes_cons.1 types
      rw [List.cons_append, editEvents_cons pollTypes, inductionHypothesis _ laterTypes,
        turnsOf_cons, ← feedAll_cons]
      rfl

theorem turnsOf_append (editor : LineEditor) (polls rest : List KeyPoll) :
    editor.turnsOf (polls ++ rest) =
      editor.turnsOf polls ++ (editor.feedAll polls).turnsOf rest := by
  induction polls generalizing editor with
  | nil => rfl
  | cons poll later inductionHypothesis =>
      rw [List.cons_append, turnsOf_cons, turnsOf_cons, inductionHypothesis, ← feedAll_cons]
      rfl

/-! ## Edits -/

/-- The lines before each of some polls, and the line after all of them. -/
theorem redraws_eq (editor : LineEditor) (polls : List KeyPoll) :
    (List.range (polls.length + 1)).map (fun count => editor.feedAll (polls.take count)) =
      (List.range polls.length).map (fun count => editor.feedAll (polls.take count)) ++
        [editor.feedAll polls] := by
  rw [List.range_succ, List.map_append, List.map_singleton, List.take_length]

/-- An edit of a line with any polls. If some key among them ends an edit, the edit reads up to the
first such key, leaves the others, and ends as that key asks for; otherwise it reads all polls and
does not end. It redraws the line before every read. At every redraw, and at the end, the line is
what the events before have made of it. -/
theorem editLine_reads_to_first_ending (editor : LineEditor) (polls : List KeyPoll) :
    let edit := editLine editor polls
    ((∃ event, .event event ∈ polls ∧ event.Ends) →
      ∃ typed event, polls = typed ++ .event event :: edit.unread ∧ OnlyTypes typed ∧
        ((event.isInterrupt = true ∧ edit.outcome = some .quit) ∨
          (event.key = .enter ∧ edit.outcome = some .submit) ∨
            (event.key = .escape ∧ edit.outcome = some .discard)) ∧
        edit.editor = editor.feedAll typed ∧
        edit.redraws =
          (List.range (typed.length + 1)).map (fun count => editor.feedAll (typed.take count)) ∧
        editor.editEvents polls = editor.turnsOf (typed ++ [.event event])) ∧
    ((¬ ∃ event, .event event ∈ polls ∧ event.Ends) →
      edit.outcome = none ∧ edit.unread = [] ∧ edit.editor = editor.feedAll polls ∧
        edit.redraws =
          (List.range (polls.length + 1)).map (fun count => editor.feedAll (polls.take count)) ∧
        editor.editEvents polls = editor.turnsOf polls ++ [.redraw (editor.feedAll polls)]) := by
  constructor
  · intro ending
    obtain ⟨typed, event, unread, rfl, types, ends⟩ := exists_first_ending ending
    have edited := editLine_append editor types (.event event :: unread)
    rw [editLine_of_ne_proceed ends.outcome_ne] at edited
    rw [edited]
    refine ⟨typed, event, rfl, types, ?_, rfl, (redraws_eq editor typed).symm, ?_⟩
    · simpa using ends.outcome_eq
    · rw [editEvents_append editor types, editEvents_of_ends ends, turnsOf_append]
  · intro goesOn
    have types : OnlyTypes polls := onlyTypes_iff.2 goesOn
    have edited := editLine_append editor types []
    have events := editEvents_append editor types []
    rw [List.append_nil] at edited events
    rw [edited]
    exact ⟨rfl, rfl, rfl, (redraws_eq editor polls).symm, events⟩

/-- A poll without an event, two keys that do not end the edit, and an interrupt in capitals. -/
example :
    let edit := editLine (ofText "ab")
      [.idle, .event ⟨.char, "x", true, false⟩, .event ⟨.left, "", false, false⟩,
        .event ⟨.char, "C", true, true⟩, .event ⟨.enter, "", false, false⟩]
    edit.outcome = some .quit ∧ edit.unread = [.event ⟨.enter, "", false, false⟩] ∧
      edit.redraws.map cursor = [2, 2, 2, 1] := by
  decide +kernel

end LineEditor

end LiveGrid
