/-!
Contract: the two forms in which the character tables of the library are kept.

Owns:
- rows of numbers, separated by semicolons;
- a set of code points as alternating run lengths, outside first.

Does not own: any table. Each property of characters keeps its own.
-/

namespace LiveGrid.Text.Table

/-- The numbers of a text, which are separated by blanks. -/
def numbersOf (text : List Char) : List Nat :=
  ((text.splitOn ' ').filter (!·.isEmpty)).map (Nat.ofDigitChars 10 · 0)

/-- The numbers of lines. -/
def numbers (lines : List String) : List Nat := lines.flatMap fun line => numbersOf line.toList

/-- The rows of lines, which are separated by semicolons within a line. -/
def rows (lines : List String) : List (List Nat) :=
  lines.flatMap fun line => (line.toList.splitOn ';').map numbersOf

/-- Whether a code point falls into a run that lies inside the set. The runs are given by
their lengths and alternate, beginning with one that lies outside when `inside` is false. -/
def contains (runs : List Nat) (code : Nat) (inside : Bool) : Bool :=
  match runs with
  | [] => inside
  | length :: rest =>
      if code < length then inside else contains rest (code - length) (!inside)

/-- The image of a code point under a table of rows `start count stride target`: every
`stride`-th of `count` code points from `start` on moves as `start` does to `target`. -/
def image? (table : List (List Nat)) (code : Nat) : Option Nat :=
  table.findSome? fun row =>
    match row with
    | [start, count, stride, target] =>
        if start ≤ code ∧ code < start + count * stride ∧ (code - start) % stride = 0 then
          some (target + (code - start))
        else none
    | _ => none

end LiveGrid.Text.Table
