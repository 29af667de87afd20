import FractionCalculator.Operand.Basic
import FractionCalculator.Text.Quoted
import FractionCalculator.Token.Basic

namespace FractionCalculator

-- Integers of more decimal digits than this are neither read nor written.
def digitLimit : Nat := 4300

-- The steps that need a text to work on.
inductive Step
  | parse
  | tokenize
  | solve
deriving DecidableEq

-- Everything that can go wrong, by cause.
inductive CalcError
  | noInput (step : Step)
  | notALiteral (text : String)
  | componentTooLong (digits text : String)
  | componentOutOfRange (value : Int) (text : String)
  | misplacedToken (token : Token) (previous : Option Token)
  | unbalanced (values operators : Nat)
  | nanCompared
  | infinitiesCompared
  | nanToInteger
  | infinityToInteger
  | noMixedForm
  | digitsUnreadable (count : Nat)
  | digitsUnwritable
  | emptyStack
  | immutable
  | noHome
  | notAnInteger (part : Part) (given : Operand)
  | cannotCombine (op : Operator) (left right : Operand)
  | cannotConcatenate (left right : Operand)
  | cannotRepeat (count : Operand)
  | cannotOrder (relation : Relation) (left right : Operand)
deriving DecidableEq

namespace CalcError

def notAnExpression (reason : String) : String :=
  "Line does not parse as a valid expression: " ++ reason

def overDigitLimit : String :=
  "Exceeds the limit (" ++ toString digitLimit ++ " digits) for integer string conversion"

def raiseDigitLimit : String :=
  "; use sys.set_int_max_str_digits() to increase the limit"

def inQuotes (text : String) : String :=
  "'" ++ text ++ "'"

def message : CalcError → String
  | noInput .parse => "Cannot parse None as a fraction"
  | noInput .tokenize => "Cannot tokenize None"
  | noInput .solve => "Cannot solve None"
  | notALiteral text => "String not parsable as a fraction: " ++ Text.quote text
  | componentTooLong digits text =>
    "Component " ++ String.ofList (digits.toList.take 12) ++ "... of " ++
      Text.quote (String.ofList (text.toList.take 40)) ++ " does not fit in a 32-bit integer"
  | componentOutOfRange value text =>
    "Component " ++ toString value ++ " of " ++ Text.quote text ++
      " does not fit in a 32-bit integer"
  | misplacedToken token none => notAnExpression ("unexpected " ++ token.describe ++ " at start")
  | misplacedToken token (some previous) =>
    notAnExpression ("unexpected " ++ token.describe ++ " after " ++ previous.describe)
  | unbalanced values operators =>
    notAnExpression (toString values ++ " values for " ++ toString operators ++ " operators")
  | nanCompared => "Comparisons involving NaN are undefined"
  | infinitiesCompared => "Comparisons between same signed infinities are undefined"
  | nanToInteger => "NaN has no integer representation"
  | infinityToInteger => "Infinity has no integer representation"
  | noMixedForm => "NaN or infinities cannot be represented as a mixed fraction"
  | digitsUnreadable count =>
    overDigitLimit ++ ": value has " ++ toString count ++ " digits" ++ raiseDigitLimit
  | digitsUnwritable => overDigitLimit ++ raiseDigitLimit
  | emptyStack => "pop from empty list"
  | immutable => "Rational values are immutable"
  | noHome => "Could not determine home directory."
  | notAnInteger part given =>
    "Rational " ++ part.name ++ " must be an int, got " ++ given.kindName
  | cannotCombine op left right =>
    "unsupported operand type(s) for " ++ op.symbol ++ ": " ++ inQuotes left.kindName ++ " and " ++
      inQuotes right.kindName
  | cannotConcatenate left right =>
    "can only concatenate " ++ left.kindName ++ " (not \"" ++ right.kindName ++ "\") to " ++
      left.kindName
  | cannotRepeat count =>
    "can't multiply sequence by non-int of type " ++ inQuotes count.kindName
  | cannotOrder relation left right =>
    inQuotes relation.symbol ++ " not supported between instances of " ++ inQuotes left.kindName ++
      " and " ++ inQuotes right.kindName

-- The name under which a session reports an error. An error without one is no fault of the
-- expression and ends the session.
def reportName? : CalcError → Option String
  | noInput _ => some "NullInputError"
  | notALiteral _ | componentTooLong _ _ | componentOutOfRange _ _ => some "MalformedLiteralError"
  | misplacedToken _ _ | unbalanced _ _ => some "MalformedExpressionError"
  | nanCompared | infinitiesCompared | nanToInteger | infinityToInteger | noMixedForm =>
    some "InvalidOperationError"
  | _ => none

end CalcError

end FractionCalculator
