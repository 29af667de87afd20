import FractionCalculator.Expression.Evaluate

namespace FractionCalculator

inductive Tree
  | leaf (number : Number) (text : String)
  | node (op : Operator) (left right : Tree)

namespace Tree

def postorder : Tree → List Token
  | leaf number text => [.value number text]
  | node op left right => left.postorder ++ right.postorder ++ [.operator op]

def eval : Tree → Number
  | leaf number _ => number
  | node op left right => op.apply left.eval right.eval

-- Running a tree in postfix order puts its value on the stack and touches nothing below.
theorem run_postorder (t : Tree) (stack : List Number) :
    t.postorder.foldlM runToken stack = .ok (t.eval :: stack) := by
  induction t generalizing stack with
  | leaf number text => rfl
  | node op left right ihl ihr =>
      rw [postorder, List.foldlM_append, List.foldlM_append, ihl]
      change (right.postorder.foldlM runToken (left.eval :: stack)) >>= _ = _
      rw [ihr]
      rfl

theorem evaluatePostfix_postorder (t : Tree) : evaluatePostfix t.postorder = .ok t.eval := by
  rw [evaluatePostfix, run_postorder]
  rfl

end Tree

end FractionCalculator
