/-!
Contract: powers of two and of ten.

Owns: both powers as natural numbers.

Does not own: powers of other numbers, and powers as doubles.
-/

namespace LiveGrid.Number

/-- A power of two. -/
def twoTo (exponent : Nat) : Nat := Nat.pow 2 exponent

/-- A power of ten. -/
def tenTo (exponent : Nat) : Nat := Nat.pow 10 exponent

end LiveGrid.Number
