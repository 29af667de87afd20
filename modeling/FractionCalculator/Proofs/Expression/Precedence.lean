import FractionCalculator.Proofs.Expression.Forest

namespace FractionCalculator

-- Values and operators take turns, with a value at either end.
def Alternating : List Token → Prop
  | [.value _ _] => True
  | .value _ _ :: .operator _ :: tokens => Alternating tokens
  | _ => False

theorem exists_followers (tokens : List Token) (h : Alternating tokens) :
    ∃ x text followers, tokens = .value x text :: followerTokens followers := by
  fun_induction Alternating tokens with
  | case1 x text => exact ⟨x, text, [], rfl⟩
  | case2 x text op tokens ih =>
      obtain ⟨y, text', followers, rfl⟩ := ih h
      exact ⟨x, text, (op, y, text') :: followers, rfl⟩
  | case3 => exact h.elim

-- The second way to evaluate: cut at plus and minus, multiply and divide along each piece, then add
-- and subtract along the results. It knows neither stacks nor ranks.
namespace TermSum

-- What stands before the first plus or minus, and the pieces after each one.
def cut : List Token → List Token × List (Operator × List Token)
  | [] => ([], [])
  | .operator .add :: tokens => ([], (.add, (cut tokens).1) :: (cut tokens).2)
  | .operator .subtract :: tokens => ([], (.subtract, (cut tokens).1) :: (cut tokens).2)
  | token :: tokens => (token :: (cut tokens).1, (cut tokens).2)

def factors : Number → List Token → Option Number
  | x, [] => some x
  | x, .operator .multiply :: .value y _ :: tokens => factors (x.multiply y) tokens
  | x, .operator .divide :: .value y _ :: tokens => factors (x.divide y) tokens
  | _, _ => none

def term : List Token → Option Number
  | .value x _ :: tokens => factors x tokens
  | _ => none

def terms : Number → List (Operator × List Token) → Option Number
  | x, [] => some x
  | x, (.add, piece) :: pieces => (term piece).bind fun y => terms (x.add y) pieces
  | x, (.subtract, piece) :: pieces => (term piece).bind fun y => terms (x.subtract y) pieces
  | _, _ => none

def value (tokens : List Token) : Option Number :=
  (term (cut tokens).1).bind fun x => terms x (cut tokens).2

-- The partial results of both folds: the finished terms with the sign that follows them, if any,
-- and the term that is read.
def join : Option (Number × Operator) → Number → Number
  | none, x => x
  | some (total, op), x => op.apply total x

def continued (total : Option (Number × Operator)) (x : Number) :
    List (Operator × Number × String) → Number
  | [] => join total x
  | (op, y, _) :: followers =>
    if op.rank = 1 then continued (some (join total x, op)) y followers
    else continued total (op.apply x y) followers

theorem value_from (total : Option (Number × Operator)) (x : Number)
    (followers : List (Operator × Number × String)) :
    ((factors x (cut (followerTokens followers)).1).bind fun y =>
      terms (join total y) (cut (followerTokens followers)).2) =
      some (continued total x followers) := by
  induction followers generalizing total x with
  | nil => rfl
  | cons follower followers ih =>
      obtain ⟨op, y, text⟩ := follower
      cases op with
      | add => exact ih (some (join total x, .add)) y
      | subtract => exact ih (some (join total x, .subtract)) y
      | multiply => exact ih total (x.multiply y)
      | divide => exact ih total (x.divide y)

theorem value_followers (x : Number) (text : String)
    (followers : List (Operator × Number × String)) :
    value (.value x text :: followerTokens followers) = some (continued none x followers) :=
  value_from none x followers

end TermSum

theorem Operator.rank_cases (op : Operator) : op.rank = 1 ∨ op.rank = 2 := by
  cases op <;> decide

namespace Forest

theorem release_release {low high : Nat} (hle : low ≤ high) (pending : List (Operator × Tree))
    (current : Tree) :
    release low (release high pending current).pending (release high pending current).current =
      release low pending current := by
  induction pending generalizing current with
  | nil => rfl
  | cons entry pending ih =>
      obtain ⟨op, left⟩ := entry
      by_cases hhigh : high ≤ op.rank
      · simp [release, hhigh, hle.trans hhigh, ih]
      · simp [release, hhigh]

-- Behind the operators of rank two waits at most one sum: the terms before the one that is read,
-- and the sign that follows them.
structure Folded (f : Forest) (total : Option (Number × Operator)) (x : Number) : Prop where
  sums : ((release 2 f.pending f.current).pending.map fun entry => (entry.2.eval, entry.1)) =
    total.toList
  rank_one : ∀ entry ∈ total, entry.2.rank = 1
  current : (release 2 f.pending f.current).current.eval = x

theorem folded_ofValue (x : Number) (text : String) : Folded (.ofValue x text) none x :=
  ⟨rfl, by simp, rfl⟩

variable {f : Forest} {total : Option (Number × Operator)} {x : Number}

-- The sum takes the term as its right operand, and then nothing waits.
theorem Folded.release_low (h : f.Folded total x) {low : Nat} (hlow : low ≤ 1) :
    (release low f.pending f.current).pending = [] ∧
      (release low f.pending f.current).current.eval = TermSum.join total x := by
  obtain ⟨hsums, hrank, hcurrent⟩ := h
  -- the products are released first, as the invariant has them
  rw [← release_release (show low ≤ 2 by omega)]
  cases total with
  | none =>
      have hnone : (release 2 f.pending f.current).pending = [] := by simpa using hsums
      rw [hnone]
      exact ⟨rfl, hcurrent⟩
  | some sum =>
      obtain ⟨total, op⟩ := sum
      obtain ⟨entry, hone, hentry⟩ := List.map_eq_singleton_iff.mp hsums
      obtain ⟨op', left⟩ := entry
      simp only [Prod.mk.injEq] at hentry
      obtain ⟨rfl, rfl⟩ := hentry
      have hop : low ≤ op'.rank := hlow.trans_eq (hrank _ rfl).symm
      rw [hone, release, if_pos hop]
      exact ⟨rfl, congrArg (op'.apply left.eval) hcurrent⟩

-- A sum does not take part in a product.
theorem Folded.release_sums (h : f.Folded total x) (current : Tree) :
    release 2 (release 2 f.pending f.current).pending current =
      ⟨(release 2 f.pending f.current).pending, current⟩ := by
  obtain ⟨hsums, hrank, -⟩ := h
  cases hpending : (release 2 f.pending f.current).pending with
  | nil => rfl
  | cons entry pending =>
      rw [hpending, List.map_cons] at hsums
      have hmem : (entry.2.eval, entry.1) ∈ total.toList := by
        rw [← hsums]
        exact List.mem_cons_self
      have hone : entry.1.rank = 1 := hrank _ (Option.mem_toList.mp hmem)
      rw [release, if_neg (by omega)]

theorem Folded.extend_factor (h : f.Folded total x) {op : Operator} (hop : op.rank = 2)
    (y : Number) (text : String) :
    (f.extend (op, y, text)).Folded total (op.apply x y) := by
  have hrelease : release 2 (f.extend (op, y, text)).pending (f.extend (op, y, text)).current =
      ⟨(release 2 f.pending f.current).pending,
        .node op (release 2 f.pending f.current).current (.leaf y text)⟩ := by
    simp only [extend, hop, release, le_refl, if_true]
    exact h.release_sums _
  constructor
  · rw [hrelease]
    exact h.sums
  · exact h.rank_one
  · rw [hrelease, Tree.eval, h.current, Tree.eval]

theorem Folded.extend_term (h : f.Folded total x) {op : Operator} (hop : op.rank = 1)
    (y : Number) (text : String) :
    (f.extend (op, y, text)).Folded (some (TermSum.join total x, op)) y := by
  obtain ⟨hpending, hcurrent⟩ := h.release_low (le_refl 1)
  have hrelease : release 2 (f.extend (op, y, text)).pending (f.extend (op, y, text)).current =
      ⟨[(op, (release 1 f.pending f.current).current)], .leaf y text⟩ := by
    simp [extend, hop, release, hpending]
  constructor
  · rw [hrelease, List.map_singleton, hcurrent]
    rfl
  · rintro _ ⟨rfl⟩
    exact hop
  · rw [hrelease, Tree.eval]

-- The forest and the two folds stay in step to the end of the expression.
theorem Folded.close_eval (h : f.Folded total x) (followers : List (Operator × Number × String)) :
    (followers.foldl extend f).close.eval = TermSum.continued total x followers := by
  induction followers generalizing f total x with
  | nil => exact (h.release_low (Nat.zero_le 1)).2
  | cons follower followers ih =>
      obtain ⟨op, y, text⟩ := follower
      rw [List.foldl_cons, TermSum.continued]
      rcases op.rank_cases with hop | hop
      · rw [if_pos hop]
        exact ih (h.extend_term hop y text)
      · rw [if_neg (by omega)]
        exact ih (h.extend_factor hop y text)

end Forest

theorem evaluate_eq_continued (x : Number) (text : String)
    (followers : List (Operator × Number × String)) :
    evaluate (.value x text :: followerTokens followers) =
      .ok (TermSum.continued none x followers) := by
  rw [evaluate_followers, treeOf, (Forest.folded_ofValue x text).close_eval followers]

theorem evaluate_eq_termSum (tokens : List Token) (h : Alternating tokens) :
    ∃ x, TermSum.value tokens = some x ∧ evaluate tokens = .ok x := by
  obtain ⟨x, text, followers, rfl⟩ := exists_followers tokens h
  exact ⟨_, TermSum.value_followers x text followers, evaluate_eq_continued x text followers⟩

-- The product comes first, and then the two differences from the left.
theorem evaluate_eq_termSum_differences :
    let tokens : List Token :=
      [.value (.finite 8 1) "8", .operator .subtract, .value (.finite 2 1) "2", .operator .multiply,
        .value (.finite 3 1) "3", .operator .subtract, .value (.finite 1 2) "1/2"]
    Alternating tokens ∧ TermSum.value tokens = some (.finite 3 2) ∧
      evaluate tokens = .ok (.finite 3 2) := by
  intro tokens
  have hvalue : TermSum.value tokens = some (.finite 3 2) := by decide
  obtain ⟨x, hsum, heval⟩ := evaluate_eq_termSum tokens trivial
  rw [hvalue] at hsum
  cases hsum
  exact ⟨trivial, hvalue, heval⟩

end FractionCalculator
