import LiveGrid.Number.Complex
import LiveGrid.Number.Half

/-!
Contract: the values that a script computes with.

There are two families of numbers. Plain numbers come from whole literals, truth
values and the operations on them; they are unbounded or raise faults. Machine
numbers come from the inputs, from real literals, from comparisons with machine
numbers and from functions; they have a fixed width and saturate, wrap or become
no number instead. A plain number that meets a machine number becomes one.

Owns:
- the values and the functions among them;
- the names of their types, which error texts show;
- which values count as true, and the double that a cell value becomes.

Does not own: operations on values.
-/

namespace LiveGrid.Script

open LiveGrid.Number

/-- Functions of one number that compute by a formula of analysis. -/
inductive Elementary where
  | sqrt
  | exp
  | log
  | log10
  | sin
  | cos
  | tan
  | asin
  | acos
  | atan
  | sinh
  | cosh
  | tanh
deriving DecidableEq, Repr

/-- The functions that a script can call. -/
inductive Function where
  | atan2
  | min
  | max
  | clamp
  | rand
  | fract
  | absolute
  | power
  | floor
  | ceil
  | round
  | sign
  | hypot
  | elementary (function : Elementary)
deriving DecidableEq, Repr

/-- Plain numbers: truth values, unbounded whole numbers, the quotients of whole numbers,
and the fractional powers of negative ones. -/
inductive Plain where
  | truth (value : Bool)
  | whole (value : Int)
  | real (value : Float)
  | complex (value : ComplexDouble)

/-- Machine numbers: outcomes of comparisons, whole numbers of fixed width, and floating
point numbers of two widths and in two parts. -/
inductive Machine where
  | flag (value : Bool)
  | int8 (value : Int8)
  | int64 (value : Int64)
  | uint64 (value : UInt64)
  | half (value : Half)
  | double (value : Float)
  | complex (value : ComplexDouble)

/-- Values. -/
inductive Value where
  | plain (number : Plain)
  | machine (number : Machine)
  | function (function : Function)

instance : Inhabited Value := ⟨.plain (.whole 0)⟩

/-- The name of a function's type. -/
def Function.typeName : Function → String
  | .atan2 => "function"
  | .min => "function"
  | .max => "function"
  | .clamp => "function"
  | .rand => "function"
  | .fract => "function"
  | .round => "numpy._ArrayFunctionDispatcher"
  | _ => "numpy.ufunc"

/-- The name of a plain number's type. -/
def Plain.typeName : Plain → String
  | .truth _ => "bool"
  | .whole _ => "int"
  | .real _ => "float"
  | .complex _ => "complex"

/-- The name of a machine number's own type. -/
def Machine.typeName : Machine → String
  | .flag _ => "numpy.bool"
  | .int8 _ => "numpy.int8"
  | .int64 _ => "numpy.int64"
  | .uint64 _ => "numpy.uint64"
  | .half _ => "numpy.float16"
  | .double _ => "numpy.float64"
  | .complex _ => "numpy.complex128"

/-- The name of the plain type that a machine number shows when it meets a function. -/
def Machine.plainTypeName : Machine → String
  | .flag _ => "bool"
  | .int8 _ => "int"
  | .int64 _ => "int"
  | .uint64 _ => "int"
  | .half _ => "float"
  | .double _ => "float"
  | .complex _ => "complex"

namespace Value

/-- The name of a value's own type. -/
def typeName : Value → String
  | .plain number => number.typeName
  | .machine number => number.typeName
  | .function own => own.typeName

/-- The name of a value's type where a machine number shows its plain type. -/
def plainTypeName : Value → String
  | .plain number => number.typeName
  | .machine number => number.plainTypeName
  | .function own => own.typeName

/-- Whether a value counts as true: all but zeros do. -/
def isTrue : Value → Bool
  | .plain (.truth value) => value
  | .plain (.whole value) => value ≠ 0
  | .plain (.real value) => !(value == 0)
  | .plain (.complex value) => !value.isZero
  | .machine (.flag value) => value
  | .machine (.int8 value) => value ≠ 0
  | .machine (.int64 value) => value ≠ 0
  | .machine (.uint64 value) => value ≠ 0
  | .machine (.half value) => !(value.toDouble == 0)
  | .machine (.double value) => !(value == 0)
  | .machine (.complex value) => !value.isZero
  | .function _ => true

end Value

/-- The number that a truth value stands for. -/
def truthNumber (value : Bool) : Int :=
  if value then 1 else 0

end LiveGrid.Script
