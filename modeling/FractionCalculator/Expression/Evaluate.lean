import FractionCalculator.Expression.Postfix
import FractionCalculator.Token.Line

namespace FractionCalculator

def Operator.apply : Operator → Number → Number → Number
  | add, x, y => x.add y
  | subtract, x, y => x.subtract y
  | multiply, x, y => x.multiply y
  | divide, x, y => x.divide y

-- One step on a stack of values, its top first. An operator takes its right operand from the top.
def runToken : List Number → Token → Except CalcError (List Number)
  | stack, .value x _ => .ok (x :: stack)
  | right :: left :: stack, .operator op => .ok (op.apply left right :: stack)
  | _, .operator _ => .error .emptyStack

-- The value on top when a postfix sequence has run. Values left below it are ignored.
def evaluatePostfix (tokens : List Token) : Except CalcError Number := do
  match ← tokens.foldlM runToken [] with
  | top :: _ => return top
  | [] => throw .emptyStack

def evaluate (tokens : List Token) : Except CalcError Number := do
  evaluatePostfix (← toPostfix tokens)

-- The rendered value of an expression.
def solve (mode : RenderMode) (expression : String) : Except CalcError String := do
  let tokens ← Token.ofLine expression
  let result ← evaluate tokens
  return result.render mode

def solveOption (mode : RenderMode) : Option String → Except CalcError String
  | some expression => solve mode expression
  | none => .error (.noInput .solve)

end FractionCalculator
