import LiveGrid.Number.Double

/-!
Contract: complex numbers with double precision parts.

Owns:
- the four operations, the absolute value, and equality;
- powers, by repeated multiplication for small whole exponents and by polar
  form for others;
- the elementary functions on their principal branches.

Does not own: faults. A division by zero here gives parts that are no number;
who wants a fault asks first.
-/

namespace LiveGrid.Number

/-- A complex number. -/
structure ComplexDouble where
  re : Float
  im : Float

namespace ComplexDouble

/-- A real number as a complex one. -/
def ofReal (value : Float) : ComplexDouble := ⟨value, 0⟩

def zero : ComplexDouble := ⟨0, 0⟩

def one : ComplexDouble := ⟨1, 0⟩

/-- Whether both parts are zeros. -/
def isZero (value : ComplexDouble) : Bool :=
  value.re == 0 && value.im == 0

def add (left right : ComplexDouble) : ComplexDouble :=
  ⟨left.re + right.re, left.im + right.im⟩

def subtract (left right : ComplexDouble) : ComplexDouble :=
  ⟨left.re - right.re, left.im - right.im⟩

def multiply (left right : ComplexDouble) : ComplexDouble :=
  ⟨left.re * right.re - left.im * right.im, left.re * right.im + left.im * right.re⟩

/-- The quotient, scaled by the larger part of the divisor. -/
def divide (left right : ComplexDouble) : ComplexDouble :=
  if right.im.abs ≤ right.re.abs then
    let ratio := right.im / right.re
    let scale := right.re + right.im * ratio
    ⟨(left.re + left.im * ratio) / scale, (left.im - left.re * ratio) / scale⟩
  else
    let ratio := right.re / right.im
    let scale := right.re * ratio + right.im
    ⟨(left.re * ratio + left.im) / scale, (left.im * ratio - left.re) / scale⟩

def negate (value : ComplexDouble) : ComplexDouble :=
  ⟨-value.re, -value.im⟩

/-- Both parts multiplied by a real number. -/
def scale (factor : Float) (value : ComplexDouble) : ComplexDouble :=
  ⟨factor * value.re, factor * value.im⟩

/-- The product with the imaginary unit. -/
def timesUnit (value : ComplexDouble) : ComplexDouble :=
  ⟨-value.im, value.re⟩

def absolute (value : ComplexDouble) : Float :=
  Double.hypotenuse value.re value.im

/-- Whether the parts are equal. -/
def equals (left right : ComplexDouble) : Bool :=
  left.re == right.re && left.im == right.im

/-- The power with a natural exponent, by repeated squaring. -/
def naturalPower (base : ComplexDouble) : Nat → Nat → ComplexDouble
  | 0, _ => one
  | _ + 1, 0 => one
  | fuel + 1, exponent + 1 =>
      let half := naturalPower (multiply base base) fuel ((exponent + 1) / 2)
      if (exponent + 1) % 2 = 1 then multiply base half else half

/-- The power by the polar form of a base other than zero. -/
def polarPower (base exponent : ComplexDouble) : ComplexDouble :=
  let length := absolute base
  let angle := Float.atan2 base.im base.re
  let phase := angle * exponent.re + exponent.im * length.log
  let size := length.pow exponent.re * (-(exponent.im * angle)).exp
  ⟨size * phase.cos, size * phase.sin⟩

/-- The power. Whole exponents of size below a hundred multiply, others use polar form. -/
def power (base exponent : ComplexDouble) : ComplexDouble :=
  if exponent.isZero then one
  else if exponent.im == 0 && Double.floor exponent.re == exponent.re &&
      exponent.re.abs ≤ 100 then
    let count := (Double.toWhole exponent.re).natAbs
    let result := naturalPower base (count + 1) count
    if exponent.re < 0 then divide one result else result
  else if base.isZero then zero
  else polarPower base exponent

def exponential (value : ComplexDouble) : ComplexDouble :=
  let size := value.re.exp
  ⟨size * value.im.cos, size * value.im.sin⟩

def logarithm (value : ComplexDouble) : ComplexDouble :=
  ⟨(absolute value).log, Float.atan2 value.im value.re⟩

def logarithm10 (value : ComplexDouble) : ComplexDouble :=
  scale (1 / (10 : Float).log) (logarithm value)

def squareRoot (value : ComplexDouble) : ComplexDouble :=
  if value.isZero then ⟨0, value.im⟩
  else
    let size := ((value.re.abs + absolute value) / 2).sqrt
    if 0 ≤ value.re then ⟨size, value.im / (2 * size)⟩
    else ⟨value.im.abs / (2 * size), Double.copySign size value.im⟩

def sine (value : ComplexDouble) : ComplexDouble :=
  ⟨value.re.sin * value.im.cosh, value.re.cos * value.im.sinh⟩

def cosine (value : ComplexDouble) : ComplexDouble :=
  ⟨value.re.cos * value.im.cosh, -(value.re.sin * value.im.sinh)⟩

def tangent (value : ComplexDouble) : ComplexDouble :=
  let below := (2 * value.re).cos + (2 * value.im).cosh
  ⟨(2 * value.re).sin / below, (2 * value.im).sinh / below⟩

def hyperbolicSine (value : ComplexDouble) : ComplexDouble :=
  ⟨value.re.sinh * value.im.cos, value.re.cosh * value.im.sin⟩

def hyperbolicCosine (value : ComplexDouble) : ComplexDouble :=
  ⟨value.re.cosh * value.im.cos, value.re.sinh * value.im.sin⟩

def hyperbolicTangent (value : ComplexDouble) : ComplexDouble :=
  let below := (2 * value.re).cosh + (2 * value.im).cos
  ⟨(2 * value.re).sinh / below, (2 * value.im).sin / below⟩

/-- The inverse sine, as `-i * log (i * z + sqrt (1 - z * z))`. -/
def inverseSine (value : ComplexDouble) : ComplexDouble :=
  let root := squareRoot (subtract one (multiply value value))
  negate (timesUnit (logarithm (add (timesUnit value) root)))

def inverseCosine (value : ComplexDouble) : ComplexDouble :=
  subtract (ofReal (Float.atan2 1 0)) (inverseSine value)

/-- The inverse tangent, as `i / 2 * (log (1 - i * z) - log (1 + i * z))`. -/
def inverseTangent (value : ComplexDouble) : ComplexDouble :=
  let turned := timesUnit value
  scale 0.5 (timesUnit
    (subtract (logarithm (subtract one turned)) (logarithm (add one turned))))

/-- The number of length one in the same direction; zero for zero. -/
def direction (value : ComplexDouble) : ComplexDouble :=
  if value.isZero then zero
  else
    let length := absolute value
    ⟨value.re / length, value.im / length⟩

/-- Both parts rounded by a rule. -/
def mapParts (rule : Float → Float) (value : ComplexDouble) : ComplexDouble :=
  ⟨rule value.re, rule value.im⟩

end ComplexDouble

end LiveGrid.Number
