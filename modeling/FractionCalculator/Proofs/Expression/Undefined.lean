import FractionCalculator.Proofs.Expression.Precedence
import FractionCalculator.Proofs.Expression.Values

namespace FractionCalculator

open Number (nan)

namespace Exact

theorem sum_nan (x : Number) : sum x nan = settled nan := by
  cases x <;> rfl

theorem product_nan (x : Number) : product x nan = settled nan := by
  cases x <;> rfl

end Exact

-- The left operand goes through unchanged, and the right one through a negation or a reciprocal.
theorem apply_nan_left (op : Operator) (y : Number) : op.apply nan y = nan := by
  cases op <;> rfl

theorem apply_nan_right (op : Operator) (x : Number) : op.apply x nan = nan := by
  cases op with
  | add => exact congrArg Exact.fit (Exact.sum_nan x)
  | subtract => exact congrArg Exact.fit (Exact.sum_nan x)
  | multiply => exact congrArg Exact.fit (Exact.product_nan x)
  | divide => exact congrArg Exact.fit (Exact.product_nan x)

-- Every leaf is an operand once, so an undefined one spoils all operations on the way to the root.
theorem Tree.eval_eq_nan (t : Tree) {text : String} (h : Token.value nan text ∈ t.postorder) :
    t.eval = nan := by
  induction t with
  | leaf number other =>
      cases List.mem_singleton.mp h
      rfl
  | node op left right ihl ihr =>
      simp only [postorder, List.mem_append, List.mem_singleton, reduceCtorEq, or_false] at h
      rcases h with hleft | hright
      · rw [eval, ihl hleft, apply_nan_left]
      · rw [eval, ihr hright, apply_nan_right]

theorem mem_postorder_treeOf (x : Number) (text : String)
    (followers : List (Operator × Number × String)) (token : Token) :
    token ∈ (treeOf x text followers).postorder ↔
      token ∈ Token.value x text :: followerTokens followers :=
  (toPostfix_perm _ _ (toPostfix_followers x text followers)).mem_iff

-- One undefined value anywhere makes the whole expression undefined.
theorem evaluate_eq_nan (tokens : List Token) (h : Alternating tokens) (text : String)
    (hnan : Token.value nan text ∈ tokens) : evaluate tokens = .ok nan := by
  obtain ⟨x, other, followers, rfl⟩ := exists_followers tokens h
  have hleaf := (mem_postorder_treeOf x other followers _).mpr hnan
  rw [evaluate_followers, (treeOf x other followers).eval_eq_nan hleaf]

-- Zero times infinity is zero and so is division by infinity, but neither hides an undefined value.
theorem evaluate_eq_nan_hidden :
    let tokens : List Token :=
      [.value .zero "0", .operator .multiply, .value .posInfinity "1/0", .operator .divide,
        .value nan "0/0", .operator .multiply, .value .zero "0", .operator .divide,
        .value .negInfinity "-1/0", .operator .subtract, .value .minValue "-2147483648"]
    Alternating tokens ∧ Token.value nan "0/0" ∈ tokens ∧ evaluate tokens = .ok nan := by
  intro tokens
  have hmem : Token.value nan "0/0" ∈ tokens := by decide
  exact ⟨trivial, hmem, evaluate_eq_nan tokens trivial "0/0" hmem⟩

end FractionCalculator
