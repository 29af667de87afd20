import FractionCalculator.Proofs.Expression.Tree
import Mathlib.Data.List.TakeWhile

namespace FractionCalculator

-- What has been read of an expression when a value came last: the operators that wait, their top
-- first, each with its left operand, and the operand that may still grow.
structure Forest where
  pending : List (Operator × Tree)
  current : Tree

namespace Forest

def waiting (f : Forest) : List Operator :=
  f.pending.map Prod.fst

def operands : List (Operator × Tree) → List Token
  | [] => []
  | (_, left) :: pending => operands pending ++ left.postorder

def output (f : Forest) : List Token :=
  operands f.pending ++ f.current.postorder

-- Operators of at least the given rank take the growing operand as their right one.
def release (rank : Nat) : List (Operator × Tree) → Tree → Forest
  | [], current => ⟨[], current⟩
  | (op, left) :: pending, current =>
    if rank ≤ op.rank then release rank pending (.node op left current)
    else ⟨(op, left) :: pending, current⟩

theorem release_waiting (rank : Nat) (pending : List (Operator × Tree)) (current : Tree) :
    (release rank pending current).waiting =
      (pending.map Prod.fst).dropWhile fun o => rank ≤ o.rank := by
  induction pending generalizing current with
  | nil => rfl
  | cons entry pending ih =>
      obtain ⟨op, left⟩ := entry
      by_cases hrank : rank ≤ op.rank
      · simp [release, hrank, ih]
      · simp [release, hrank, waiting]

-- The released operators come out behind their operands, the top one first.
theorem release_output (rank : Nat) (pending : List (Operator × Tree)) (current : Tree) :
    (release rank pending current).output = operands pending ++ current.postorder ++
      ((pending.map Prod.fst).takeWhile fun o => rank ≤ o.rank).map Token.operator := by
  induction pending generalizing current with
  | nil => simp [release, output]
  | cons entry pending ih =>
      obtain ⟨op, left⟩ := entry
      by_cases hrank : rank ≤ op.rank
      · simp [release, hrank, ih, operands, Tree.postorder]
      · simp [release, hrank, output]

theorem release_zero_pending (pending : List (Operator × Tree)) (current : Tree) :
    (release 0 pending current).pending = [] := by
  induction pending generalizing current with
  | nil => rfl
  | cons entry pending ih => simpa [release] using ih _

def close (f : Forest) : Tree :=
  (release 0 f.pending f.current).current

theorem close_postorder (f : Forest) :
    f.close.postorder = f.output ++ f.waiting.map Token.operator := by
  have houtput := release_output 0 f.pending f.current
  rw [output, release_zero_pending, List.takeWhile_eq_self_iff.mpr (by simp)] at houtput
  exact houtput

-- An operator, and the value after it. Whatever binds at least as tightly becomes part of the left
-- operand.
def extend (f : Forest) (follower : Operator × Number × String) : Forest :=
  let released := release follower.1.rank f.pending f.current
  ⟨(follower.1, released.current) :: released.pending, .leaf follower.2.1 follower.2.2⟩

theorem extend_output (f : Forest) (op : Operator) (x : Number) (text : String) :
    (f.extend (op, x, text)).output = f.output ++
      (f.waiting.takeWhile fun o => op.rank ≤ o.rank).map Token.operator ++ [.value x text] := by
  change (release op.rank f.pending f.current).output ++ [.value x text] = _
  rw [release_output]
  rfl

theorem extend_waiting (f : Forest) (op : Operator) (x : Number) (text : String) :
    (f.extend (op, x, text)).waiting =
      op :: f.waiting.dropWhile fun o => op.rank ≤ o.rank := by
  change op :: (release op.rank f.pending f.current).waiting = _
  rw [release_waiting]
  rfl

def ofValue (x : Number) (text : String) : Forest :=
  ⟨[], .leaf x text⟩

end Forest

-- An expression is a value and its followers, each an operator with the value after it.
def followerTokens : List (Operator × Number × String) → List Token
  | [] => []
  | (op, x, text) :: followers => .operator op :: .value x text :: followerTokens followers

namespace Conversion

-- The state of a conversion that has read a value last agrees with a forest.
structure Holds (s : Conversion) (f : Forest) : Prop where
  output : s.output = f.output
  waiting : s.waiting = f.waiting
  expectsValue : s.expectsValue = false
  values : s.values = s.operators + 1

theorem holds_ofValue (x : Number) (text : String) :
    ∃ s, start.step (.value x text) = .ok s ∧ s.Holds (.ofValue x text) :=
  ⟨_, rfl, rfl, rfl, rfl, rfl⟩

theorem Holds.extend {s : Conversion} {f : Forest} (h : s.Holds f) (op : Operator) (x : Number)
    (text : String) :
    ∃ s₁ s₂, s.step (.operator op) = .ok s₁ ∧ s₁.step (.value x text) = .ok s₂ ∧
      s₂.Holds (f.extend (op, x, text)) := by
  obtain ⟨output, waiting, expectsValue, previous, values, operators⟩ := s
  obtain ⟨hout, hwait, hexpects, hvalues⟩ := h
  simp only at hout hwait hexpects hvalues
  subst hout hwait hexpects hvalues
  exact ⟨_, _, rfl, rfl, (f.extend_output op x text).symm, (f.extend_waiting op x text).symm,
    rfl, rfl⟩

theorem Holds.run {s : Conversion} {f : Forest} (h : s.Holds f)
    (followers : List (Operator × Number × String)) :
    ∃ s', (followerTokens followers).foldlM step s = .ok s' ∧
      s'.Holds (followers.foldl Forest.extend f) := by
  induction followers generalizing s f with
  | nil => exact ⟨s, rfl, h⟩
  | cons follower followers ih =>
      obtain ⟨op, x, text⟩ := follower
      obtain ⟨s₁, s₂, hop, hvalue, hnext⟩ := h.extend op x text
      obtain ⟨s', hrun, hlast⟩ := ih hnext
      refine ⟨s', ?_, hlast⟩
      rw [followerTokens, List.foldlM_cons, hop]
      change ((Token.value x text :: followerTokens followers).foldlM step s₁) = _
      rw [List.foldlM_cons, hvalue]
      exact hrun

theorem Holds.finish {s : Conversion} {f : Forest} (h : s.Holds f) :
    s.finish = .ok f.close.postorder := by
  rw [Conversion.finish, if_pos h.values, h.output, h.waiting, f.close_postorder]

end Conversion

def treeOf (x : Number) (text : String) (followers : List (Operator × Number × String)) : Tree :=
  (followers.foldl Forest.extend (.ofValue x text)).close

theorem toPostfix_followers (x : Number) (text : String)
    (followers : List (Operator × Number × String)) :
    toPostfix (.value x text :: followerTokens followers) =
      .ok (treeOf x text followers).postorder := by
  obtain ⟨s, hfirst, hs⟩ := Conversion.holds_ofValue x text
  obtain ⟨s', hrun, hs'⟩ := hs.run followers
  rw [toPostfix, List.foldlM_cons, hfirst]
  change ((followerTokens followers).foldlM Conversion.step s) >>= _ = _
  rw [hrun]
  exact hs'.finish

theorem evaluate_followers (x : Number) (text : String)
    (followers : List (Operator × Number × String)) :
    evaluate (.value x text :: followerTokens followers) = .ok (treeOf x text followers).eval := by
  rw [evaluate, toPostfix_followers]
  exact (treeOf x text followers).evaluatePostfix_postorder

end FractionCalculator
