/-!
Contract: rounding an exact quotient of natural numbers to the nearest natural
number.

Owns: the one rounding rule of the library, nearest with a half going to the
even neighbour.

Does not own: signs, floating point formats, decimal text. Those scale their
value to a quotient first and round it here.
-/

namespace LiveGrid.Number

/-- The natural number nearest to `numerator / denominator`; a half goes to the even
neighbour. -/
def roundQuotient (numerator denominator : Nat) : Nat :=
  let quotient := numerator / denominator
  let twice := 2 * (numerator % denominator)
  if twice < denominator then quotient
  else if denominator < twice then quotient + 1
  else if quotient % 2 = 0 then quotient
  else quotient + 1

end LiveGrid.Number
