import LiveGrid.Script.Arithmetic.Value

/-!
Contract: the functions that a script can call, and their results.

Owns:
- the table of functions by name;
- how many arguments each function takes, and the fault for other numbers;
- the result of each function for arguments of every kind. The functions of one
  and two numbers compute on machine numbers: a plain argument becomes one first.

Does not own: random numbers, which the evaluation draws.
-/

namespace LiveGrid.Script

open LiveGrid.Number

/-- The functions by their names in scripts. -/
def functionTable : List (String × Function) :=
  [("atan2", .atan2), ("min", .min), ("max", .max), ("clamp", .clamp), ("rand", .rand),
   ("abs", .absolute), ("sqrt", .elementary .sqrt), ("exp", .elementary .exp),
   ("ln", .elementary .log), ("log", .elementary .log), ("log10", .elementary .log10),
   ("pow", .power), ("floor", .floor), ("ceil", .ceil), ("round", .round),
   ("fract", .fract), ("sign", .sign), ("hypot", .hypot), ("sin", .elementary .sin),
   ("cos", .elementary .cos), ("tan", .elementary .tan), ("asin", .elementary .asin),
   ("acos", .elementary .acos), ("atan", .elementary .atan), ("sinh", .elementary .sinh),
   ("cosh", .elementary .cosh), ("tanh", .elementary .tanh)]

/-- Whether a name is the name of a function. -/
def isFunctionName (name : String) : Bool :=
  (functionTable.lookup name).isSome

namespace Elementary

/-- The name of the function in error texts. -/
def fullName : Elementary → String
  | .sqrt => "sqrt"
  | .exp => "exp"
  | .log => "log"
  | .log10 => "log10"
  | .sin => "sin"
  | .cos => "cos"
  | .tan => "tan"
  | .asin => "arcsin"
  | .acos => "arccos"
  | .atan => "arctan"
  | .sinh => "sinh"
  | .cosh => "cosh"
  | .tanh => "tanh"

/-- The function on doubles. -/
def onDouble : Elementary → Float → Float
  | .sqrt => Float.sqrt
  | .exp => Float.exp
  | .log => Float.log
  | .log10 => Float.log10
  | .sin => Float.sin
  | .cos => Float.cos
  | .tan => Float.tan
  | .asin => Float.asin
  | .acos => Float.acos
  | .atan => Float.atan
  | .sinh => Float.sinh
  | .cosh => Float.cosh
  | .tanh => Float.tanh

/-- The function on single precision numbers. -/
def onSingle : Elementary → Float32 → Float32
  | .sqrt => Float32.sqrt
  | .exp => Float32.exp
  | .log => Float32.log
  | .log10 => Float32.log10
  | .sin => Float32.sin
  | .cos => Float32.cos
  | .tan => Float32.tan
  | .asin => Float32.asin
  | .acos => Float32.acos
  | .atan => Float32.atan
  | .sinh => Float32.sinh
  | .cosh => Float32.cosh
  | .tanh => Float32.tanh

/-- The function on halves: computed in single precision and rounded. -/
def onHalf (function : Elementary) (operand : Half) : Half :=
  .ofDouble (function.onSingle operand.toDouble.toFloat32).toFloat

/-- The function on complex numbers. -/
def onComplex : Elementary → ComplexDouble → ComplexDouble
  | .sqrt => ComplexDouble.squareRoot
  | .exp => ComplexDouble.exponential
  | .log => ComplexDouble.logarithm
  | .log10 => ComplexDouble.logarithm10
  | .sin => ComplexDouble.sine
  | .cos => ComplexDouble.cosine
  | .tan => ComplexDouble.tangent
  | .asin => ComplexDouble.inverseSine
  | .acos => ComplexDouble.inverseCosine
  | .atan => ComplexDouble.inverseTangent
  | .sinh => ComplexDouble.hyperbolicSine
  | .cosh => ComplexDouble.hyperbolicCosine
  | .tanh => ComplexDouble.hyperbolicTangent

/-- The function on machine numbers. Narrow kinds compute in halves, wide ones in doubles. -/
def onMachine (function : Elementary) : Machine → Machine
  | .flag value => .half (function.onHalf (Machine.flag value).toHalf)
  | .int8 value => .half (function.onHalf (Machine.int8 value).toHalf)
  | .half value => .half (function.onHalf value)
  | .complex value => .complex (function.onComplex value)
  | other => .double (function.onDouble other.toDouble)

end Elementary

namespace Call

/-- An argument of a function of numbers: a machine number, or something that has none. -/
inductive Argument where
  | machine (number : Machine)
  | wideWhole (value : Int)
  | function (function : Function)

/-- The argument that a value becomes. A whole number takes the signed or else the unsigned wide
kind, if it fits. -/
def Argument.ofValue : Value → Argument
  | .plain (.truth value) => .machine (.flag value)
  | .plain (.whole value) =>
      if -(twoTo 63 : Int) ≤ value ∧ value < twoTo 63 then .machine (.int64 (Int64.ofInt value))
      else if 0 ≤ value ∧ value < twoTo 64 then .machine (.uint64 (UInt64.ofInt value))
      else .wideWhole value
  | .plain (.real value) => .machine (.double value)
  | .plain (.complex value) => .machine (.complex value)
  | .machine number => .machine number
  | .function own => .function own

/-- An elementary function of a value. -/
def elementary (function : Elementary) (value : Value) : Except Fault Value :=
  match Argument.ofValue value with
  | .machine number => .ok (.machine (function.onMachine number))
  | .wideWhole _ => .error (.noMethod "int" function.fullName)
  | .function own => .error (.noMethod own.typeName function.fullName)

/-- The absolute value. -/
def absolute (value : Value) : Except Fault Value :=
  match Argument.ofValue value with
  | .machine (.flag value) => .ok (.machine (.flag value))
  | .machine (.int8 value) => .ok (.machine (.int8 (if value < 0 then -value else value)))
  | .machine (.int64 value) => .ok (.machine (.int64 (if value < 0 then -value else value)))
  | .machine (.uint64 value) => .ok (.machine (.uint64 value))
  | .machine (.half value) => .ok (.machine (.half (value.lift Float.abs)))
  | .machine (.double value) => .ok (.machine (.double value.abs))
  | .machine (.complex value) => .ok (.machine (.double value.absolute))
  | .wideWhole value => .ok (.plain (.whole (Int.ofNat value.natAbs)))
  | .function own => .error (.unsupportedAbsolute own.typeName)

/-- A rule that takes floating point numbers to whole ones; whole kinds stay as they are. -/
def wholeRule (name : String) (rule : Float → Float) (value : Value) : Except Fault Value :=
  match Argument.ofValue value with
  | .machine (.half value) => .ok (.machine (.half (value.lift rule)))
  | .machine (.double value) => .ok (.machine (.double (rule value)))
  | .machine (.complex _) => .error (.unsupportedInputs name)
  | .machine number => .ok (.machine number)
  | .wideWhole value => .ok (.plain (.whole value))
  | .function own => .error (.mustBeReal own.typeName)

/-- The largest whole number that is not above the value. -/
def floor : Value → Except Fault Value :=
  wholeRule "floor" Double.floor

/-- The smallest whole number that is not below the value. -/
def ceil : Value → Except Fault Value :=
  wholeRule "ceil" Double.ceil

/-- One, zero or minus one by the sign of a double; no number stays none. -/
def signOf (value : Float) : Float :=
  if 0 < value then 1
  else if value < 0 then -1
  else if value == 0 then 0
  else value

/-- The sign of a value. -/
def sign (value : Value) : Except Fault Value :=
  match Argument.ofValue value with
  | .machine (.flag _) => .error (.noLoop "sign")
  | .machine (.int8 value) => .ok (.machine (.int8 (Int8.ofInt value.toInt.sign)))
  | .machine (.int64 value) => .ok (.machine (.int64 (Int64.ofInt value.toInt.sign)))
  | .machine (.uint64 value) => .ok (.machine (.uint64 (if value = 0 then 0 else 1)))
  | .machine (.half value) => .ok (.machine (.half (value.lift signOf)))
  | .machine (.double value) => .ok (.machine (.double (signOf value)))
  | .machine (.complex value) => .ok (.machine (.complex value.direction))
  | .wideWhole value => .ok (.plain (.whole value.sign))
  | .function own => .error (.unorderable "<" own.typeName "int")

/-- The machine number of a plain number by itself. -/
def machineOf : Plain → Except Fault Machine
  | .truth value => .ok (.flag value)
  | .whole value => Machine.wordOfWhole value
  | .real value => .ok (.double value)
  | .complex value => .ok (.complex value)

/-- Two values as machine numbers, or nothing if one is a function. A whole number takes the
kind of the other value. -/
def machinePair? (left right : Value) : Option (Except Fault (Machine × Machine)) :=
  match left, right with
  | .function _, _ => none
  | _, .function _ => none
  | .machine left, .machine right => some (.ok (left, right))
  | .machine left, .plain right =>
      some ((Machine.adopt left.kind right).map fun right => (left, right))
  | .plain left, .machine right =>
      some ((Machine.adopt right.kind left).map fun left => (left, right))
  | .plain left, .plain (.whole right) => some do
      let left ← machineOf left
      let right ← Machine.adoptWhole left.kind right
      pure (left, right)
  | .plain (.whole left), .plain right => some do
      let right ← machineOf right
      let left ← Machine.adoptWhole right.kind left
      pure (left, right)
  | .plain left, .plain right => some do
      let left ← machineOf left
      let right ← machineOf right
      pure (left, right)

/-- The power of two values, in the kind of machine numbers that holds both. -/
def power (base exponent : Value) : Except Fault Value :=
  match machinePair? base exponent with
  | some pair => do
      let (base, exponent) ← pair
      (Machine.binary .power base exponent).map .machine
  | none =>
      .error (.unsupportedOperands "** or pow()" base.plainTypeName exponent.plainTypeName)

/-- The floating point number of a whole number beside a number of some kind. -/
def floatOfWhole (kind : Machine.Kind) (value : Int) : Except Fault Machine :=
  match kind with
  | .half => (Plain.realOfWhole value).map fun real => .half (.ofDouble real)
  | .int8 => (Plain.realOfWhole value).map fun real => .half (.ofDouble real)
  | _ => (Plain.realOfWhole value).map .double

/-- Two values as machine numbers for a function that computes in floating point. -/
def floatPair? (left right : Value) : Option (Except Fault (Machine × Machine)) :=
  match left, right with
  | .plain (.whole left), .plain (.whole right) => some do
      let left ← Plain.realOfWhole left
      let right ← Plain.realOfWhole right
      pure (.double left, .double right)
  | .machine left, .plain (.whole right) =>
      some ((floatOfWhole left.kind right).map fun right => (left, right))
  | .plain (.whole left), .machine right =>
      some ((floatOfWhole right.kind left).map fun left => (left, right))
  | .plain left, .plain (.whole right) => some do
      let left ← machineOf left
      let right ← floatOfWhole left.kind right
      pure (left, right)
  | .plain (.whole left), .plain right => some do
      let right ← machineOf right
      let left ← floatOfWhole right.kind left
      pure (left, right)
  | left, right => machinePair? left right

/-- A function of two floating point numbers, with its forms for both precisions. -/
def floatFunction (name : String) (onDouble : Float → Float → Float)
    (onSingle : Float32 → Float32 → Float32) (left right : Value) : Except Fault Value :=
  match floatPair? left right with
  | none => .error (.noAttribute left.plainTypeName name)
  | some pair => do
      let (left, right) ← pair
      let inHalves : Except Fault Value :=
        let result := onSingle left.toHalf.toDouble.toFloat32 right.toHalf.toDouble.toFloat32
        .ok (.machine (.half (.ofDouble result.toFloat)))
      match left.kind.join right.kind with
      | .complex => .error (.unsupportedInputs name)
      | .flag => inHalves
      | .int8 => inHalves
      | .half => inHalves
      | _ => .ok (.machine (.double (onDouble left.toDouble right.toDouble)))

/-- The length of the hypotenuse over two legs. -/
def hypot : Value → Value → Except Fault Value :=
  floatFunction "hypot" Double.hypotenuse fun left right =>
    (Double.hypotenuse left.toFloat right.toFloat).toFloat32

/-- The angle of a point, the second coordinate first. -/
def atan2 : Value → Value → Except Fault Value :=
  floatFunction "arctan2" Float.atan2 Float32.atan2

/-- The lesser of two values: the first, unless it is not at most the second. -/
def min (left right : Value) : Except Fault Value := do
  let outcome ← Value.compare .lessEqual left right
  pure (if outcome.isTrue then left else right)

/-- The greater of two values: the first, unless it is not at least the second. -/
def max (left right : Value) : Except Fault Value := do
  let outcome ← Value.compare .greaterEqual left right
  pure (if outcome.isTrue then left else right)

/-- The value, or the bound that it reaches; the lower bound is asked first. -/
def clamp (value lower upper : Value) : Except Fault Value := do
  let isLow ← Value.compare .lessEqual value lower
  if isLow.isTrue then pure lower
  else
    let isHigh ← Value.compare .greaterEqual value upper
    pure (if isHigh.isTrue then upper else value)

/-- The part of a value above its floor. -/
def fract (value : Value) : Except Fault Value := do
  let whole ← floor value
  Value.binary .subtract false value whole

/-- The number of places that a value asks for, which has to be a whole number of small size. -/
def places (value : Value) : Except Fault Int := do
  let count ←
    match value with
    | .plain number =>
        match number.toWhole? with
        | some count => .ok count
        | none => .error (.notWhole value.typeName)
    | .machine (.int8 count) => .ok count.toInt
    | .machine (.int64 count) => .ok count.toInt
    | .machine (.uint64 count) => .ok (Int.ofNat count.toNat)
    | other => .error (.notWhole other.typeName)
  if count < -(twoTo 63 : Int) ∨ twoTo 63 ≤ count then .error .wordTooLarge
  else if twoTo 31 ≤ count then .error .countTooLarge
  else if count < -(twoTo 31 : Int) then .error .countTooSmall
  else .ok count

/-- The double `10 ^ exponent`, from the ninth power on by repeated multiplication. -/
def powerOfTen (exponent : Nat) : Float :=
  let start := Nat.min exponent 9
  (List.range (Nat.min exponent 400 - start)).foldl (fun value _ => value * 10)
    (Float.ofNat (tenTo start))

/-- A double rounded to places, a half going to the even neighbour. -/
def roundDouble (count : Int) (value : Float) : Float :=
  let factor := powerOfTen count.natAbs
  if count = 0 then Double.roundEven value
  else if 0 < count then Double.roundEven (value * factor) / factor
  else Double.roundEven (value / factor) * factor

/-- A half rounded to places, each step in half precision. -/
def roundHalf (count : Int) (value : Half) : Half :=
  let factor := (Half.ofDouble (powerOfTen count.natAbs)).toDouble
  if count = 0 then value.lift Double.roundEven
  else if 0 < count then
    ((value.lift (· * factor)).lift Double.roundEven).lift (· / factor)
  else ((value.lift (· / factor)).lift Double.roundEven).lift (· * factor)

/-- The wide signed number of a double; the least one if it does not fit. -/
def wordOfDouble (value : Float) : Int64 :=
  if value < Double.powerOfTwo 63 && -Double.powerOfTwo 63 ≤ value then
    Int64.ofInt (Double.toWhole value)
  else Int64.ofInt (-(twoTo 63 : Int))

/-- A machine number rounded to places. Whole kinds only change for places before the point. -/
def roundMachine (count : Int) (number : Machine) : Except Fault Machine :=
  match number with
  | .flag value =>
      if count = 0 then .ok (.half (Machine.flag value).toHalf)
      else if 0 < count then .error (.uncastableOutput "multiply" "float64" "bool")
      else .error (.uncastableOutput "divide" "float64" "bool")
  | .half value => .ok (.half (roundHalf count value))
  | .double value => .ok (.double (roundDouble count value))
  | .complex value => .ok (.complex (value.mapParts (roundDouble count)))
  | .int8 value =>
      if 0 ≤ count then .ok (.int8 value)
      else
        .ok (.int8 (Int8.ofInt (wordOfDouble (roundDouble count number.toDouble)).toInt))
  | .int64 value =>
      if 0 ≤ count then .ok (.int64 value)
      else .ok (.int64 (wordOfDouble (roundDouble count number.toDouble)))
  | .uint64 value =>
      if 0 ≤ count then .ok (.uint64 value)
      else .ok (.uint64 (UInt64.ofInt (Double.toWhole (roundDouble count number.toDouble))))

/-- A value rounded to places. -/
def round (value : Value) (count : Int) : Except Fault Value :=
  match Argument.ofValue value with
  | .machine number => (roundMachine count number).map .machine
  | .wideWhole value =>
      if count = 0 then .error (.noMethod "int" "rint")
      else do
        let _ ← Plain.realOfWhole value
        .error (.noMethod "float" "rint")
  | .function own =>
      if count = 0 then .error (.noMethod own.typeName "rint")
      else
        .error (.unsupportedOperands (if 0 < count then "*" else "/") own.typeName "float")

/-- The result of a function of one number, with the fault for other numbers of arguments. -/
def one (name : String) (function : Value → Except Fault Value) :
    List Value → Except Fault Value
  | [value] => function value
  | [_, _] => .error .noResultArray
  | arguments => .error (.argumentsOutOfRange name 1 2 arguments.length)

/-- The result of a function of two numbers, with the fault for other numbers of arguments. -/
def two (name : String) (function : Value → Value → Except Fault Value) :
    List Value → Except Fault Value
  | [left, right] => function left right
  | [_, _, _] => .error .noResultArray
  | arguments => .error (.argumentsOutOfRange name 2 3 arguments.length)

/-- The fault for a wrong number of arguments of a function with named parameters. -/
def wrongCount (name : String) (parameters : List String) (given : Nat) : Fault :=
  if given < parameters.length then .missingArguments name (parameters.drop given)
  else .tooManyArguments name parameters.length given

/-- The result of a call without random numbers. -/
def apply (function : Function) (arguments : List Value) : Except Fault Value :=
  match function with
  | .atan2 =>
      match arguments with
      | [y, x] => atan2 y x
      | _ => .error (wrongCount "atan2" ["y", "x"] arguments.length)
  | .min =>
      match arguments with
      | [x, y] => min x y
      | _ => .error (wrongCount "_min" ["x", "y"] arguments.length)
  | .max =>
      match arguments with
      | [x, y] => max x y
      | _ => .error (wrongCount "_max" ["x", "y"] arguments.length)
  | .clamp =>
      match arguments with
      | [x, lower, upper] => clamp x lower upper
      | _ => .error (wrongCount "clamp" ["x", "lo", "hi"] arguments.length)
  | .rand => .error (wrongCount "rand" [] arguments.length)
  | .fract =>
      match arguments with
      | [x] => fract x
      | _ => .error (wrongCount "_fract" ["x"] arguments.length)
  | .absolute => one "absolute" absolute arguments
  | .power => two "power" power arguments
  | .floor => one "floor" floor arguments
  | .ceil => one "ceil" ceil arguments
  | .round =>
      match arguments with
      | [] => .error (.missingArguments "round" ["a"])
      | [value] => round value 0
      | [value, count] => do
          let count ← places count
          round value count
      | [_, count, _] => do
          let _ ← places count
          .error .noOutputArray
      | _ => .error (.argumentsOutOfRange "round" 1 3 arguments.length)
  | .sign => one "sign" sign arguments
  | .hypot => two "hypot" hypot arguments
  | .elementary own => one own.fullName (elementary own) arguments

end Call

end LiveGrid.Script
