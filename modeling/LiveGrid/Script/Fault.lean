import LiveGrid.Number.Decimal

/-!
Contract: the faults that end the evaluation of a script for a cell.

Owns:
- the causes of faults;
- the class and the text of each, from which the message of a failed cell is
  made.

Does not own: when a fault arises.
-/

namespace LiveGrid.Script

open LiveGrid.Number

/-- Causes of faults. Types, operators and functions are given by the names that texts show. -/
inductive Fault where
  /-- A name without a value. -/
  | unboundName (name : String)
  /-- A call of something that is no function. -/
  | notCallable (typeName : String)
  /-- A node outside the language. -/
  | foreignNode (nodeName : String)
  | wholeQuotientByZero
  | wholeFloorByZero
  | wholeModuloByZero
  | realQuotientByZero
  | realFloorByZero
  | realModuloByZero
  | complexQuotientByZero
  | zeroToNegativePower
  | zeroToComplexPower
  | resultOutOfRange
  | complexPowerOverflow
  | wholeTooLarge
  | quotientTooLarge
  | wordTooLarge
  | unsignedWordTooLarge
  | negativeWord
  | countTooLarge
  | countTooSmall
  | outOfBounds (value : Int) (typeName : String)
  | negativeExponent
  /-- A cell value that is no number. -/
  | notReal (typeName : String)
  | unsupportedOperands (mark left right : String)
  | unsupportedOperand (mark operand : String)
  | unsupportedAbsolute (operand : String)
  | unorderable (mark left right : String)
  | notWhole (typeName : String)
  | mustBeReal (typeName : String)
  | noMethod (typeName methodName : String)
  | noAttribute (typeName attributeName : String)
  | flagDifference
  | flagNegation
  | noLoop (operation : String)
  | unsupportedInputs (operation : String)
  | uncastableOutput (operation source target : String)
  | missingArguments (function : String) (parameters : List String)
  | tooManyArguments (function : String) (expected given : Nat)
  | argumentsOutOfRange (function : String) (least most given : Nat)
  | noResultArray
  | noOutputArray
deriving DecidableEq, Repr

namespace Fault

/-- The class of a fault. -/
def className : Fault → String
  | .unboundName _ => "NameError"
  | .foreignNode _ => "NotImplementedError"
  | .wholeQuotientByZero => "ZeroDivisionError"
  | .wholeFloorByZero => "ZeroDivisionError"
  | .wholeModuloByZero => "ZeroDivisionError"
  | .realQuotientByZero => "ZeroDivisionError"
  | .realFloorByZero => "ZeroDivisionError"
  | .realModuloByZero => "ZeroDivisionError"
  | .complexQuotientByZero => "ZeroDivisionError"
  | .zeroToNegativePower => "ZeroDivisionError"
  | .zeroToComplexPower => "ZeroDivisionError"
  | .resultOutOfRange => "OverflowError"
  | .complexPowerOverflow => "OverflowError"
  | .wholeTooLarge => "OverflowError"
  | .quotientTooLarge => "OverflowError"
  | .wordTooLarge => "OverflowError"
  | .unsignedWordTooLarge => "OverflowError"
  | .negativeWord => "OverflowError"
  | .countTooLarge => "OverflowError"
  | .countTooSmall => "OverflowError"
  | .outOfBounds _ _ => "OverflowError"
  | .negativeExponent => "ValueError"
  | .noAttribute _ _ => "AttributeError"
  | .noLoop _ => "UFuncTypeError"
  | .uncastableOutput _ _ _ => "UFuncTypeError"
  | _ => "TypeError"

/-- A word for the number of arguments. -/
def argumentWord (count : Nat) : String :=
  if count = 1 then "argument" else "arguments"

/-- Names in quotation marks, with commas and a last `and`. -/
def nameList : List String → String
  | [] => ""
  | [only] => "'" ++ only ++ "'"
  | [first, second] => "'" ++ first ++ "' and '" ++ second ++ "'"
  | names =>
      let quoted := names.map fun name => "'" ++ name ++ "'"
      String.intercalate ", " (quoted.dropLast ++ ["and " ++ quoted.getLastD ""])

/-- A number with the verb that fits it. -/
def wereGiven (count : Nat) : String :=
  Decimal.numeral count ++ (if count = 1 then " was given" else " were given")

/-- The text of a fault. -/
def text : Fault → String
  | .unboundName name => "name '" ++ name ++ "' is not defined"
  | .notCallable typeName => "'" ++ typeName ++ "' object is not callable"
  | .foreignNode nodeName => nodeName
  | .wholeQuotientByZero => "division by zero"
  | .wholeFloorByZero => "integer division or modulo by zero"
  | .wholeModuloByZero => "integer modulo by zero"
  | .realQuotientByZero => "float division by zero"
  | .realFloorByZero => "float floor division by zero"
  | .realModuloByZero => "float modulo"
  | .complexQuotientByZero => "complex division by zero"
  | .zeroToNegativePower => "0.0 cannot be raised to a negative power"
  | .zeroToComplexPower => "0.0 to a negative or complex power"
  | .resultOutOfRange => "(34, 'Numerical result out of range')"
  | .complexPowerOverflow => "complex exponentiation"
  | .wholeTooLarge => "int too large to convert to float"
  | .quotientTooLarge => "integer division result too large for a float"
  | .wordTooLarge => "Python int too large to convert to C long"
  | .unsignedWordTooLarge => "Python int too large to convert to C unsigned long"
  | .negativeWord => "can't convert negative value to unsigned int"
  | .countTooLarge => "signed integer is greater than maximum"
  | .countTooSmall => "signed integer is less than minimum"
  | .outOfBounds value typeName =>
      "Python integer " ++ Decimal.wholeNumeral value ++ " out of bounds for " ++ typeName
  | .negativeExponent => "Integers to negative integer powers are not allowed."
  | .notReal typeName =>
      "float() argument must be a string or a real number, not '" ++ typeName ++ "'"
  | .unsupportedOperands mark left right =>
      "unsupported operand type(s) for " ++ mark ++ ": '" ++ left ++ "' and '" ++ right ++ "'"
  | .unsupportedOperand mark operand =>
      "bad operand type for unary " ++ mark ++ ": '" ++ operand ++ "'"
  | .unsupportedAbsolute operand => "bad operand type for abs(): '" ++ operand ++ "'"
  | .unorderable mark left right =>
      "'" ++ mark ++ "' not supported between instances of '" ++ left ++ "' and '" ++
        right ++ "'"
  | .notWhole typeName =>
      "'" ++ typeName ++ "' object cannot be interpreted as an integer"
  | .mustBeReal typeName => "must be real number, not " ++ typeName
  | .noMethod typeName methodName =>
      "loop of ufunc does not support argument 0 of type " ++ typeName ++
        " which has no callable " ++ methodName ++ " method"
  | .noAttribute typeName attributeName =>
      "'" ++ typeName ++ "' object has no attribute '" ++ attributeName ++ "'"
  | .flagDifference =>
      "numpy boolean subtract, the `-` operator, is not supported, use the bitwise_xor, " ++
        "the `^` operator, or the logical_xor function instead."
  | .flagNegation =>
      "The numpy boolean negative, the `-` operator, is not supported, use the `~` operator " ++
        "or the logical_not function instead."
  | .noLoop operation =>
      "ufunc '" ++ operation ++ "' did not contain a loop with signature matching types " ++
        "<class 'numpy.dtypes.BoolDType'> -> None"
  | .unsupportedInputs operation =>
      "ufunc '" ++ operation ++ "' not supported for the input types, and the inputs could " ++
        "not be safely coerced to any supported types according to the casting rule ''safe''"
  | .uncastableOutput operation source target =>
      "Cannot cast ufunc '" ++ operation ++ "' output from dtype('" ++ source ++
        "') to dtype('" ++ target ++ "') with casting rule 'same_kind'"
  | .missingArguments function parameters =>
      function ++ "() missing " ++ Decimal.numeral parameters.length ++
        " required positional " ++ argumentWord parameters.length ++ ": " ++
        nameList parameters
  | .tooManyArguments function expected given =>
      function ++ "() takes " ++ Decimal.numeral expected ++ " positional " ++
        argumentWord expected ++ " but " ++ wereGiven given
  | .argumentsOutOfRange function least most given =>
      function ++ "() takes from " ++ Decimal.numeral least ++ " to " ++
        Decimal.numeral most ++ " positional arguments but " ++ wereGiven given
  | .noResultArray => "return arrays must be of ArrayType"
  | .noOutputArray => "output must be an array"

/-- The message of a cell that failed. -/
def message (fault : Fault) : String :=
  fault.className ++ ": " ++ fault.text

end Fault

end LiveGrid.Script
