import LiveGrid.Text.Printable

/-!
Contract: the written form of a text or of bytes, in quotation marks.

Single marks are used, or double ones around a text that holds single but no
double marks. The marks used, backslashes and what is not printable are escaped.

Owns: that form, for code points, for bytes and for texts.

Does not own: reading it back.
-/

namespace LiveGrid.Text

/-- A number in base sixteen with at least the given number of digits. -/
def hexDigits (width number : Nat) : List Char :=
  let digits := Nat.toDigits 16 number
  List.replicate (width - digits.length) '0' ++ digits

/-- The quotation mark for code points. -/
def quoteFor (codes : List Nat) : Nat :=
  if codes.contains 39 && !codes.contains 34 then 34 else 39

/-- The escape of a code point in the shortest form that holds it. -/
def escapeCode (code : Nat) : List Char :=
  if code ≤ 0xff then '\\' :: 'x' :: hexDigits 2 code
  else if code ≤ 0xffff then '\\' :: 'u' :: hexDigits 4 code
  else '\\' :: 'U' :: hexDigits 8 code

/-- A code point inside of quotation marks, where `isKept` tells which ones beyond ASCII stay
as they are. -/
def quotedCode (isKept : Nat → Bool) (quote code : Nat) : List Char :=
  if code = quote ∨ code = 92 then ['\\', Char.ofNat code]
  else if code = 9 then ['\\', 't']
  else if code = 10 then ['\\', 'n']
  else if code = 13 then ['\\', 'r']
  else if 32 ≤ code ∧ code < 127 then [Char.ofNat code]
  else if 127 < code ∧ isKept code then [Char.ofNat code]
  else escapeCode code

/-- The written form of code points. -/
def quoteWith (isKept : Nat → Bool) (codes : List Nat) : String :=
  let quote := quoteFor codes
  String.ofList
    (Char.ofNat quote :: codes.flatMap (quotedCode isKept quote) ++ [Char.ofNat quote])

/-- The written form of a text given by its code points. -/
def quoteCodes (codes : List Nat) : String :=
  quoteWith isPrintableCode codes

/-- The written form of bytes. -/
def quoteBytes (codes : List Nat) : String :=
  "b" ++ quoteWith (fun _ => false) codes

/-- The written form of a text. -/
def quote (text : String) : String :=
  quoteCodes (text.toList.map Char.toNat)

end LiveGrid.Text
