import FractionCalculator.Error

namespace FractionCalculator

-- The state of a conversion to postfix order. Operators wait on the stack, its top first, until
-- their right operand is complete.
structure Conversion where
  output : List Token
  waiting : List Operator
  expectsValue : Bool
  previous : Option Token
  values : Nat
  operators : Nat
deriving DecidableEq

namespace Conversion

def start : Conversion :=
  ⟨[], [], true, none, 0, 0⟩

-- An operator releases those that wait and bind at least as tightly, which makes equal ranks
-- group to the left.
def step (s : Conversion) (token : Token) : Except CalcError Conversion :=
  match token, s.expectsValue with
  | .value _ _, true =>
    .ok { s with
      output := s.output ++ [token]
      expectsValue := false
      previous := some token
      values := s.values + 1 }
  | .operator op, false =>
    let released := s.waiting.takeWhile fun o => op.rank ≤ o.rank
    let kept := s.waiting.dropWhile fun o => op.rank ≤ o.rank
    .ok { s with
      output := s.output ++ released.map Token.operator
      waiting := op :: kept
      expectsValue := true
      previous := some token
      operators := s.operators + 1 }
  | _, _ => .error (.misplacedToken token s.previous)

-- The end releases all that wait. It finds an operator too many if the last one has no right
-- operand, or no value at all.
def finish (s : Conversion) : Except CalcError (List Token) :=
  if s.values = s.operators + 1 then .ok (s.output ++ s.waiting.map Token.operator)
  else .error (.unbalanced s.values s.operators)

end Conversion

-- The postfix order of an expression in which values and operators alternate.
def toPostfix (infixTokens : List Token) : Except CalcError (List Token) := do
  let s ← infixTokens.foldlM Conversion.step Conversion.start
  s.finish

end FractionCalculator
