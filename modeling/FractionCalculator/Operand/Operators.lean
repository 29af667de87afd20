import FractionCalculator.Log
import FractionCalculator.Number.Order

namespace FractionCalculator

namespace Operand

-- A list or a text can be repeated and extended, though never by a number.
def isSequence : Operand → Bool
  | list => true
  | text => true
  | _ => false

-- Why two operands cannot be combined.
def mismatch (op : Operator) (left right : Operand) : CalcError :=
  match op with
  | .multiply =>
    if left.isSequence then .cannotRepeat right
    else if right.isSequence then .cannotRepeat left
    else .cannotCombine op left right
  | .add => if left.isSequence then .cannotConcatenate left right else .cannotCombine op left right
  | _ => .cannotCombine op left right

def asNumbers (op : Operator) (left right : Operand) : Except CalcError (Number × Number) :=
  match left.toNumber?, right.toNumber? with
  | some x, some y => .ok (x, y)
  | _, _ => .error (mismatch op left right)

def combine (op : Operator) (left right : Operand) : Except CalcError Number := do
  let (x, y) ← asNumbers op left right
  return op.apply x y

def combineRoundings (op : Operator) (left right : Operand) : List Rounding :=
  match asNumbers op left right with
  | .ok (x, y) => op.roundings x y
  | .error _ => []

-- Equality asks for the same number. An integer is compared unsaturated, so that one out of range
-- equals no number.
def same : Operand → Operand → Bool
  | number x, number y => x = y
  | number x, right => right.toInt?.any fun n => x = .finite n 1
  | left, number y => left.toInt?.any fun n => y = .finite n 1
  | null, null => true
  | left, right => left.toInt?.isSome && left.toInt? = right.toInt?

-- How a number compares with an operand. Integers are saturated, null comes last, and there is no
-- comparison with anything else.
def compareWith? (x : Number) : Operand → Option (Except CalcError Ordering)
  | null => some (x.compareToOption none)
  | other => other.toNumber?.map fun y => x.compareToOption (some y)

-- The order of operands. A number on the left is asked first. If only the right one is a number, it
-- is asked the other way round.
def order (relation : Relation) (left right : Operand) : Except CalcError Ordering :=
  let answer :=
    match left, right with
    | number x, _ => compareWith? x right
    | _, number y => (compareWith? y left).map (Except.map Ordering.swap)
    | _, _ => return .ok (compare (← left.toInt?) (← right.toInt?))
  answer.getD (.error (.cannotOrder relation left right))

end Operand

-- Whether two operands stand in a relation.
def Relation.holds (relation : Relation) (left right : Operand) : Except CalcError Bool :=
  match relation with
  | eq => .ok (left.same right)
  | ne => .ok !(left.same right)
  | lt => (left.order relation right).map Ordering.isLT
  | le => (left.order relation right).map Ordering.isLE
  | gt => (left.order relation right).map Ordering.isGT
  | ge => (left.order relation right).map Ordering.isGE

-- Constructors that take operands and insist on integers, the first offender first.
def Operand.toInt (part : Part) (given : Operand) : Except CalcError Int :=
  match given.toInt? with
  | some n => .ok n
  | none => .error (.notAnInteger part given)

end FractionCalculator
