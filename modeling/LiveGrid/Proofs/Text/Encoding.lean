import LiveGrid.Session.Log
import Mathlib.Data.List.TakeWhile

/-!
Contract: which rows of a log an encoding has.

Owns:
- texts that an encoding represents, and plain texts, which every encoding represents;
- an encoding represents a row exactly if it represents its event and its detail;
- an encoding refuses exactly the texts that it does not represent.

The time and the frame of a row are numerals, which are plain, and so are the marks
between fields.

Does not own: what becomes of a row that is refused.
-/

namespace LiveGrid

/-! ## Texts -/

/-- Every character of a text is plain. -/
def IsPlain (text : String) : Prop := ∀ character ∈ text.toList, character.toNat < 128

instance {text : String} : Decidable (IsPlain text) := List.decidableBAll _ _

namespace Encoding

/-- The encoding has every character of a text. -/
def Represents (encoding : Encoding) (text : String) : Prop :=
  ∀ character ∈ text.toList, encoding.has character = true

variable {encoding : Encoding} {text first second : String}

instance : Decidable (encoding.Represents text) := List.decidableBAll _ _

theorem represents_of_isPlain (plain : IsPlain text) : encoding.Represents text :=
  fun character member => encoding.hasPlain character (plain character member)

theorem unicode_represents (text : String) : unicode.Represents text := fun _ _ => rfl

theorem check_eq_ok_iff : encoding.check text = .ok () ↔ encoding.Represents text := by
  rw [check, Represents]
  cases lacking : text.toList.dropWhile encoding.has with
  | nil => simpa using List.dropWhile_eq_nil_iff.1 lacking
  | cons character rest =>
      have lacks : encoding.has character = false := by
        have head := List.head_dropWhile_not encoding.has (l := text.toList) (by simp [lacking])
        simpa [lacking] using head
      have member : character ∈ text.toList := by
        have inRest : character ∈ text.toList.dropWhile encoding.has := by simp [lacking]
        exact (List.dropWhile_sublist _).subset inRest
      simp only [List.takeWhile_cons, lacks, Bool.not_false, ↓reduceIte, reduceCtorEq, false_iff]
      intro represents
      rw [represents character member] at lacks
      cases lacks

end Encoding

/-! ## Numerals -/

theorem IsPlain.append {first second : String} (firstPlain : IsPlain first)
    (secondPlain : IsPlain second) : IsPlain (first ++ second) := by
  intro character member
  rw [String.toList_append, List.mem_append] at member
  exact member.elim (firstPlain character) (secondPlain character)

theorem isPlain_numeral (number : Nat) : IsPlain (Number.Decimal.numeral number) := by
  intro character member
  rw [Number.Decimal.numeral, String.toList_ofList] at member
  have isDigit := Nat.isDigit_of_mem_toDigits (by decide) (by decide) member
  simp only [Char.isDigit, Bool.and_eq_true, decide_eq_true_eq] at isDigit
  exact Nat.lt_of_le_of_lt isDigit.2 (by decide)

theorem isPlain_wholeNumeral (number : Int) : IsPlain (Number.Decimal.wholeNumeral number) := by
  cases number with
  | ofNat number => exact isPlain_numeral number
  | negSucc number => exact IsPlain.append (by decide) (isPlain_numeral (number + 1))

theorem isPlain_padLeft {text : String} (plain : IsPlain text) (width : Nat) :
    IsPlain (Number.Decimal.padLeft width '0' text) := by
  refine IsPlain.append (fun character member => ?_) plain
  rw [String.toList_ofList] at member
  rw [List.eq_of_mem_replicate member]
  decide

theorem isPlain_withPlaces (places units : Nat) :
    IsPlain (Number.Decimal.withPlaces places units) := by
  unfold Number.Decimal.withPlaces
  dsimp only
  split
  · exact isPlain_numeral _
  · exact ((isPlain_numeral _).append (by decide)).append (isPlain_padLeft (isPlain_numeral _) _)

theorem isPlain_fixed (places : Nat) (value : Float) :
    IsPlain (Number.Decimal.fixed places value) := by
  unfold Number.Decimal.fixed Number.Decimal.signed
  split
  · decide
  · split <;> decide
  · refine IsPlain.append ?_ (isPlain_withPlaces _ _)
    split <;> decide

/-! ## Rows -/

namespace Encoding

open Text.Csv

variable {encoding : Encoding}

theorem mem_quoted_iff {field : List Char} {character : Char} :
    character ∈ quoted field ↔ character ∈ field := by
  fun_induction quoted field with
  | case1 => rfl
  | case2 rest inductionHypothesis => simp [inductionHypothesis]
  | case3 first rest isOther inductionHypothesis => simp [inductionHypothesis]

/-- The marks around a field are plain, so that only the field itself matters. -/
theorem has_writeField_iff {field : List Char} :
    (∀ character ∈ writeField field, encoding.has character = true) ↔
      ∀ character ∈ field, encoding.has character = true := by
  have hasQuote : encoding.has '"' = true := encoding.hasPlain '"' (by decide)
  unfold writeField
  split
  · simp [mem_quoted_iff, or_imp, forall_and, hasQuote]
  · rfl

theorem has_writeFields_iff {fields : List (List Char)} :
    (∀ character ∈ writeFields fields, encoding.has character = true) ↔
      ∀ field ∈ fields, ∀ character ∈ field, encoding.has character = true := by
  have hasComma : encoding.has ',' = true := encoding.hasPlain ',' (by decide)
  fun_induction writeFields fields with
  | case1 => simp
  | case2 field => simp [has_writeField_iff]
  | case3 field rest isOther inductionHypothesis =>
      simp only [List.forall_mem_append, List.forall_mem_cons, has_writeField_iff, hasComma,
        inductionHypothesis, true_and]

theorem represents_writeRow_iff {fields : List String} :
    encoding.Represents (writeRow fields) ↔ ∀ field ∈ fields, encoding.Represents field := by
  have hasReturn : encoding.has '\r' = true := encoding.hasPlain '\r' (by decide)
  have hasFeed : encoding.has '\n' = true := encoding.hasPlain '\n' (by decide)
  rw [Represents, writeRow, String.toList_ofList, List.forall_mem_append, has_writeFields_iff,
    List.forall_mem_map]
  simp [hasReturn, hasFeed, Represents]

/-- Only the event and the detail of a row can be beyond an encoding. -/
theorem represents_row_iff {elapsed : Float} {frame : Int} {event detail : String} :
    encoding.Represents (writeRow (Log.row elapsed frame event detail)) ↔
      encoding.Represents event ∧ encoding.Represents detail := by
  have time : encoding.Represents (Number.Decimal.fixed 2 elapsed) :=
    represents_of_isPlain (isPlain_fixed 2 elapsed)
  have number : encoding.Represents (Number.Decimal.wholeNumeral frame) :=
    represents_of_isPlain (isPlain_wholeNumeral frame)
  simp [represents_writeRow_iff, Log.row, time, number]

/-- The names of the columns are plain. -/
theorem represents_header : encoding.Represents (writeRow Log.header) := by
  refine represents_of_isPlain ?_
  decide

end Encoding

end LiveGrid
