import FractionCalculator.Number.Arithmetic

namespace FractionCalculator

-- What may stand beside a number under an operator. Of a foreign operand only the kind matters,
-- because no operation looks inside it.
inductive Operand
  | number (value : Number)
  | integer (value : Int)
  | truth (value : Bool)
  | decimal
  | text
  | list
  | table
  | null
deriving DecidableEq

namespace Operand

def kindName : Operand → String
  | number _ => "Rational"
  | integer _ => "int"
  | truth _ => "bool"
  | decimal => "float"
  | text => "str"
  | list => "list"
  | table => "dict"
  | null => "NoneType"

-- A truth value counts as an integer.
def toInt? : Operand → Option Int
  | integer value => some value
  | truth value => some (if value then 1 else 0)
  | _ => none

-- An integer stands for its number, saturated.
def toNumber? : Operand → Option Number
  | number value => some value
  | other => other.toInt?.map Number.ofInt

end Operand

-- What a value is found under in a table. A whole number goes by its integer, and any other number
-- by its pair of words.
inductive HashKey
  | integer (value : Int)
  | pair (num : Int) (den : Nat)
deriving DecidableEq

def Number.hashKey (x : Number) : HashKey :=
  if x.denominator = 1 then .integer x.numerator else .pair x.numerator x.denominator

def Operand.hashKey? : Operand → Option HashKey
  | number x => some x.hashKey
  | other => other.toInt?.map HashKey.integer

-- The parts that a number is built from.
inductive Part
  | value
  | numerator
  | denominator
  | whole
deriving DecidableEq

def Part.name : Part → String
  | value => "value"
  | numerator => "numerator"
  | denominator => "denominator"
  | whole => "whole"

-- The comparisons between operands.
inductive Relation
  | lt
  | le
  | gt
  | ge
  | eq
  | ne
deriving DecidableEq

def Relation.symbol : Relation → String
  | lt => "<"
  | le => "<="
  | gt => ">"
  | ge => ">="
  | eq => "=="
  | ne => "!="

end FractionCalculator
