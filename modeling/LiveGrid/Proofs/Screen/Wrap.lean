import LiveGrid.Screen.Prompt
import Mathlib.Data.List.Forall2

/-!
Contract: a text that is wrapped to a width loses nothing but its line breaks.

Owns:
- line breaks, and the lines that they divide a text into;
- the pieces of a line: all but the last one are full, and only an empty line has an empty piece;
- the pieces of a text are those of its lines, in order, and make up the text without its line
  breaks.

A line break at the end of a text begins no line after it, and a carriage return with a line feed is
one line break. Lines are said here by what is left of the text, not by what was read of it.

Does not own: where pieces are drawn.
-/

namespace LiveGrid.Screen

/-- A line break: a carriage return with a line feed, or one character that ends a line. -/
def IsLineBreak (characters : List Char) : Prop :=
  characters = ['\r', '\n'] ∨ ∃ character, isLineEnd character = true ∧ characters = [character]

/-- The lines of a text. Every one but the last ends with a line break, as long as possible, and the
last one may. -/
inductive HasLines : List Char → List (List Char) → Prop where
  | empty : HasLines [] []
  | last {line : List Char} (nonempty : line ≠ [])
      (unbroken : ∀ character ∈ line, isLineEnd character = false) : HasLines line [line]
  | broken {line lineBreak rest : List Char} {lines : List (List Char)}
      (unbroken : ∀ character ∈ line, isLineEnd character = false) (breaks : IsLineBreak lineBreak)
      (whole : lineBreak = ['\r'] → rest.head? ≠ some '\n') (restLines : HasLines rest lines) :
      HasLines (line ++ lineBreak ++ rest) (line :: lines)

/-- The pieces of a line that is wrapped to a width. -/
structure Wraps (width : Nat) (line : List Char) (pieces : List (List Char)) : Prop where
  flatten : pieces.flatten = line
  length_le : ∀ piece ∈ pieces, piece.length ≤ width
  full : ∀ piece ∈ pieces.dropLast, piece.length = width
  of_nil : line = [] → pieces = [[]]
  nil_not_mem : line ≠ [] → [] ∉ pieces

/-! ## Lines -/

/-- What was read of a line and the characters after it have the lines that are read from there. -/
theorem hasLines_linesFrom (current characters : List Char)
    (unbroken : ∀ character ∈ current, isLineEnd character = false) :
    HasLines (current.reverse ++ characters) (linesFrom current characters) := by
  have nothing : ∀ character ∈ ([] : List Char), isLineEnd character = false :=
    fun _ member => absurd member List.not_mem_nil
  have reversed {line : List Char} (unbroken : ∀ character ∈ line, isLineEnd character = false) :
      ∀ character ∈ line.reverse, isLineEnd character = false :=
    fun character member => unbroken character (List.mem_reverse.1 member)
  induction current, characters using linesFrom.induct with
  | case1 current isEmpty =>
      rw [List.isEmpty_iff.1 isEmpty]
      exact .empty
  | case2 current isEmpty =>
      rw [linesFrom, if_neg isEmpty, List.append_nil]
      refine .last (fun reversedEmpty => isEmpty ?_) (reversed unbroken)
      rw [List.reverse_eq_nil_iff.1 reversedEmpty]
      rfl
  | case3 current rest inductionHypothesis =>
      have split : current.reverse ++ '\r' :: '\n' :: rest =
          current.reverse ++ ['\r', '\n'] ++ rest := by simp
      rw [linesFrom, split]
      exact .broken (reversed unbroken) (.inl rfl) (by simp) (inductionHypothesis nothing)
  | case4 current character rest notPair isEnd inductionHypothesis =>
      have split : current.reverse ++ character :: rest =
          current.reverse ++ [character] ++ rest := by simp
      rw [linesFrom.eq_3 current character rest notPair, if_pos isEnd, split]
      refine .broken (reversed unbroken) (.inr ⟨character, isEnd, rfl⟩) (fun isReturn begins => ?_)
        (inductionHypothesis nothing)
      obtain ⟨after, rfl⟩ := List.head?_eq_some_iff.1 begins
      exact notPair after (List.singleton_inj.1 isReturn) rfl
  | case5 current character rest notPair notEnd inductionHypothesis =>
      have split : current.reverse ++ character :: rest =
          (character :: current).reverse ++ rest := by simp
      rw [linesFrom.eq_3 current character rest notPair, if_neg notEnd, split]
      refine inductionHypothesis fun other member => ?_
      rcases List.mem_cons.1 member with rfl | before
      · exact Bool.eq_false_iff.2 notEnd
      · exact unbroken other before

theorem hasLines_linesOf (text : String) : HasLines text.toList (linesOf text) :=
  hasLines_linesFrom [] text.toList fun _ member => absurd member List.not_mem_nil

theorem isLineEnd_of_mem_isLineBreak {characters : List Char} (breaks : IsLineBreak characters)
    {character : Char} (member : character ∈ characters) : isLineEnd character = true := by
  rcases breaks with rfl | ⟨other, isEnd, rfl⟩
  · simp only [List.mem_cons, List.not_mem_nil, or_false] at member
    rcases member with rfl | rfl <;> rfl
  · rw [List.mem_singleton.1 member]
    exact isEnd

/-- The lines of a text are the text without its line breaks. -/
theorem HasLines.flatten_eq {characters : List Char} {lines : List (List Char)}
    (hasLines : HasLines characters lines) :
    lines.flatten = characters.filter fun character => !isLineEnd character := by
  have kept {line : List Char} (unbroken : ∀ character ∈ line, isLineEnd character = false) :
      (line.filter fun character => !isLineEnd character) = line := by
    rw [List.filter_eq_self]
    exact fun character member => by rw [unbroken character member]; rfl
  induction hasLines with
  | empty => rfl
  | last nonempty unbroken => rw [kept unbroken, List.flatten_singleton]
  | @broken line lineBreak rest lines unbroken breaks whole restLines inductionHypothesis =>
      have dropped : (lineBreak.filter fun character => !isLineEnd character) = [] := by
        rw [List.filter_eq_nil_iff]
        exact fun character member => by rw [isLineEnd_of_mem_isLineBreak breaks member]; decide
      rw [List.filter_append, List.filter_append, kept unbroken, dropped, List.append_nil,
        List.flatten_cons, inductionHypothesis]

/-! ## Pieces -/

namespace Wraps

variable {width : Nat} {line : List Char} {pieces : List (List Char)}

/-- A line that fits is its only piece. -/
theorem singleton (fits : line.length ≤ width) : Wraps width line [line] where
  flatten := List.flatten_singleton
  length_le piece member := by
    rw [List.mem_singleton.1 member]
    exact fits
  full _ member := absurd member List.not_mem_nil
  of_nil isNil := by rw [isNil]
  nil_not_mem notNil member := notNil (List.mem_singleton.1 member).symm

/-- The first piece of a line that does not fit is full, and others follow. -/
theorem cons (positive : 1 ≤ width) (long : width < line.length)
    (rest : Wraps width (line.drop width) pieces) :
    Wraps width line (line.take width :: pieces) := by
  have isFull : (line.take width).length = width := by
    rw [List.length_take]
    omega
  have restNotNil : line.drop width ≠ [] := by
    rw [Ne, List.drop_eq_nil_iff]
    omega
  have goesOn : pieces ≠ [] := by
    rintro rfl
    exact restNotNil rest.flatten.symm
  refine ⟨?_, fun piece member => ?_, fun piece member => ?_, fun isNil => ?_, fun _ member => ?_⟩
  · rw [List.flatten_cons, rest.flatten, List.take_append_drop]
  · rcases List.mem_cons.1 member with rfl | later
    · exact Nat.le_of_eq isFull
    · exact rest.length_le piece later
  · rw [List.dropLast_cons_of_ne_nil goesOn] at member
    rcases List.mem_cons.1 member with rfl | later
    · exact isFull
    · exact rest.full piece later
  · rw [isNil] at long
    exact absurd long (Nat.not_lt_zero width)
  · rcases List.mem_cons.1 member with isNil | later
    · rw [← isNil, List.length_nil] at isFull
      omega
    · exact rest.nil_not_mem restNotNil later

end Wraps

theorem wraps_piecesOf {width : Nat} (positive : 1 ≤ width) {fuel : Nat} {line : List Char}
    (enough : line.length ≤ fuel) : Wraps width line (piecesOf width fuel line) := by
  induction fuel generalizing line with
  | zero => exact .singleton (by omega)
  | succ fuel inductionHypothesis =>
      rw [piecesOf]
      split
      · exact .singleton ‹_›
      · refine .cons positive (by omega) (inductionHypothesis ?_)
        rw [List.length_drop]
        omega

/-- The pieces of a text are those of its lines. -/
theorem exists_wrap_eq_flatten {width : Nat} (positive : 1 ≤ width) (text : String) :
    ∃ lines groups, HasLines text.toList lines ∧ List.Forall₂ (Wraps width) lines groups ∧
      wrap width text = groups.flatten := by
  refine ⟨linesOf text, (linesOf text).map fun line => piecesOf width line.length line,
    hasLines_linesOf text, ?_, rfl⟩
  rw [List.forall₂_map_right_iff, List.forall₂_same]
  exact fun line _ => wraps_piecesOf positive (Nat.le_refl _)

@[simp] theorem wrap_empty (width : Nat) : wrap width "" = [] := rfl

theorem length_le_of_mem_wrap {width : Nat} (positive : 1 ≤ width) {text : String}
    {piece : List Char} (member : piece ∈ wrap width text) : piece.length ≤ width := by
  obtain ⟨line, -, isPiece⟩ := List.mem_flatMap.1 member
  exact (wraps_piecesOf positive (Nat.le_refl _)).length_le piece isPiece

/-- Wrapping loses nothing but the line breaks. -/
theorem flatten_wrap {width : Nat} (positive : 1 ≤ width) (text : String) :
    (wrap width text).flatten = text.toList.filter fun character => !isLineEnd character := by
  have eachLine : (fun line => (piecesOf width line.length line).flatten) = id :=
    funext fun _ => (wraps_piecesOf positive (Nat.le_refl _)).flatten
  rw [← (hasLines_linesOf text).flatten_eq, wrap, List.flatMap_def, List.flatten_flatten,
    List.map_map]
  show ((linesOf text).map fun line => (piecesOf width line.length line).flatten).flatten = _
  rw [eachLine, List.map_id]

end LiveGrid.Screen
