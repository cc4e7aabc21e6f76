import LiveGrid.Number.Decimal
import LiveGrid.Text.Quote

/-!
Contract: the encoding of a text file, as far as it matters to those who write to it.

An encoding has some characters, among them the plain ones, and lacks the others. A
text is encoded as a whole: if it has a character that the encoding lacks, nothing
of it is written.

Owns:
- the characters that an encoding has;
- what is told about a text that cannot be encoded.

Does not own: the bytes that encode a character.
-/

namespace LiveGrid

/-- An encoding: its name, the characters that it has, and why it lacks the others. -/
structure Encoding where
  name : String
  reason : String
  has : Char → Bool
  hasPlain : ∀ character : Char, character.toNat < 128 → has character = true

/-- Why a text cannot be encoded: where the first character is that the encoding lacks, and how many
others that it lacks follow. -/
structure EncodingFault where
  encoding : String
  reason : String
  position : Nat
  character : Char
  others : Nat
deriving DecidableEq, Repr

/-- The text of a fault. -/
def EncodingFault.message (fault : EncodingFault) : String :=
  let beginning := "'" ++ fault.encoding ++ "' codec can't encode character"
  let position := Number.Decimal.numeral fault.position
  let place :=
    if fault.others = 0 then
      " '" ++ String.ofList (Text.escapeCode fault.character.toNat) ++ "' in position " ++ position
    else
      "s in position " ++ position ++ "-" ++
        Number.Decimal.numeral (fault.position + fault.others)
  beginning ++ place ++ ": " ++ fault.reason

namespace Encoding

/-- The encoding that has every character. -/
def unicode : Encoding where
  name := "utf-8"
  reason := "surrogates not allowed"
  has _ := true
  hasPlain _ _ := rfl

/-- The encoding that has the plain characters only. -/
def plain : Encoding where
  name := "ascii"
  reason := "ordinal not in range(128)"
  has character := decide (character.toNat < 128)
  hasPlain _ isPlain := decide_eq_true isPlain

/-- Fails for a text with a character that the encoding lacks. -/
def check (encoding : Encoding) (text : String) : Except EncodingFault Unit :=
  let before := text.toList.takeWhile encoding.has
  match (text.toList.dropWhile encoding.has).takeWhile fun character => !encoding.has character with
  | [] => .ok ()
  | character :: others =>
      .error ⟨encoding.name, encoding.reason, before.length, character, others.length⟩

end Encoding

end LiveGrid
