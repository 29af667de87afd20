import FractionCalculator.Proofs.Expression.Precedence
import FractionCalculator.Proofs.Number.RoundingError

namespace FractionCalculator

-- The exact sum of an expression, each value with the sign that stands before it.
def signedSum : List Token → ℚ
  | [] => 0
  | .operator .subtract :: .value x _ :: tokens => -x.value + signedSum tokens
  | .operator _ :: tokens => signedSum tokens
  | .value x _ :: tokens => x.value + signedSum tokens

def operatorCount : List Token → Nat
  | [] => 0
  | .operator _ :: tokens => operatorCount tokens + 1
  | .value _ _ :: tokens => operatorCount tokens

def Operator.signed (op : Operator) (x : ℚ) : ℚ :=
  if op = .subtract then -x else x

theorem Operator.rank_eq_one_iff (op : Operator) : op.rank = 1 ↔ op = .add ∨ op = .subtract := by
  cases op <;> decide

namespace SumError

def exact (followers : List (Operator × Number × String)) : ℚ :=
  (followers.map fun follower => follower.1.signed follower.2.1.value).sum

def extend (total : Number) (follower : Operator × Number × String) : Number :=
  follower.1.apply total follower.2.1

variable {x y : Number} {followers : List (Operator × Number × String)}

theorem apply_error {op : Operator} (hop : op.rank = 1) (hx : x.Canonical) (hy : y.Canonical)
    (h : (op.apply x y).isFinite = true) :
    x.isFinite = true ∧
      |(op.apply x y).value - (x.value + op.signed y.value)| ≤ 1 / (2 * wordMax) := by
  rcases op.rank_eq_one_iff.mp hop with rfl | rfl
  · exact ⟨(Number.isFinite_of_add h).1, Number.abs_value_add_sub_le hx hy h⟩
  · have herror := Number.abs_value_subtract_sub_le hx hy h
    rw [sub_eq_add_neg x.value] at herror
    exact ⟨(Number.isFinite_of_subtract h).1, herror⟩

-- Each step adds its own error to those before, and a total that is finite at the end was finite
-- all along.
theorem foldl_error (hops : ∀ follower ∈ followers, follower.1.rank = 1)
    (hvalues : ∀ follower ∈ followers, follower.2.1.Canonical) (hx : x.Canonical)
    (h : (followers.foldl extend x).isFinite = true) :
    x.isFinite = true ∧
      |(followers.foldl extend x).value - (x.value + exact followers)| ≤
        followers.length / (2 * wordMax) := by
  induction followers generalizing x with
  | nil => exact ⟨h, by simp [exact]⟩
  | cons follower followers ih =>
      obtain ⟨op, y, text⟩ := follower
      obtain ⟨hop, hops⟩ := List.forall_mem_cons.mp hops
      obtain ⟨hy, hvalues⟩ := List.forall_mem_cons.mp hvalues
      obtain ⟨hfinite, hrest⟩ := ih hops hvalues (apply_canonical op x y) h
      obtain ⟨hx, hstep⟩ := apply_error hop hx hy hfinite
      refine ⟨hx, ?_⟩
      have hsplit : (followers.foldl extend (op.apply x y)).value -
          (x.value + exact ((op, y, text) :: followers)) =
          ((followers.foldl extend (op.apply x y)).value -
            ((op.apply x y).value + exact followers)) +
          ((op.apply x y).value - (x.value + op.signed y.value)) := by
        rw [exact, List.map_cons, List.sum_cons, ← exact]
        ring
      calc |(followers.foldl extend (op.apply x y)).value -
            (x.value + exact ((op, y, text) :: followers))|
          ≤ followers.length / (2 * wordMax) + 1 / (2 * wordMax) := by
            rw [hsplit]
            exact (abs_add_le _ _).trans (add_le_add hrest hstep)
        _ = (followers.length + 1 : Nat) / (2 * wordMax) := by
            rw [← add_div, Nat.cast_succ]

theorem continued_eq_foldl (total : Option (Number × Operator))
    (hops : ∀ follower ∈ followers, follower.1.rank = 1) :
    TermSum.continued total x followers = followers.foldl extend (TermSum.join total x) := by
  induction followers generalizing total x with
  | nil => rfl
  | cons follower followers ih =>
      obtain ⟨op, y, text⟩ := follower
      obtain ⟨hop, hops⟩ := List.forall_mem_cons.mp hops
      rw [TermSum.continued, if_pos hop, ih _ hops]
      rfl

theorem signedSum_followers (hops : ∀ follower ∈ followers, follower.1.rank = 1) :
    signedSum (followerTokens followers) = exact followers := by
  induction followers with
  | nil => rfl
  | cons follower followers ih =>
      obtain ⟨op, y, text⟩ := follower
      obtain ⟨hop, hops⟩ := List.forall_mem_cons.mp hops
      rw [exact, List.map_cons, List.sum_cons, ← exact, ← ih hops]
      rcases op.rank_eq_one_iff.mp hop with rfl | rfl <;> rfl

theorem operatorCount_followers (followers : List (Operator × Number × String)) :
    operatorCount (followerTokens followers) = followers.length := by
  induction followers with
  | nil => rfl
  | cons follower followers ih => exact congrArg (· + 1) ih

theorem mem_followerTokens {op : Operator} {text : String}
    (h : (op, y, text) ∈ followers) :
    Token.operator op ∈ followerTokens followers ∧
      Token.value y text ∈ followerTokens followers := by
  induction followers with
  | nil => cases h
  | cons follower followers ih =>
      rcases List.mem_cons.mp h with rfl | h
      · simp [followerTokens]
      · have hrest := ih h
        simp [followerTokens, hrest]

end SumError

-- A sum of words moves by half a unit at most for each plus and minus in it.
theorem evaluate_sum_error (tokens : List Token) (h : Alternating tokens)
    (hops : ∀ op, Token.operator op ∈ tokens → op = .add ∨ op = .subtract)
    (hvalues : ∀ x text, Token.value x text ∈ tokens → Reachable x ∧ x.isFinite = true) :
    ∃ result, evaluate tokens = .ok result ∧ (result.isFinite = true →
      |result.value - signedSum tokens| ≤ operatorCount tokens / (2 * wordMax)) := by
  obtain ⟨x, text, followers, rfl⟩ := exists_followers tokens h
  have hranks : ∀ follower ∈ followers, follower.1.rank = 1 := by
    intro follower hmem
    have hop := (SumError.mem_followerTokens hmem).1
    exact (Operator.rank_eq_one_iff _).mpr (hops _ (List.mem_cons_of_mem _ hop))
  have hcanonical : ∀ follower ∈ followers, follower.2.1.Canonical := by
    intro follower hmem
    have hvalue := (SumError.mem_followerTokens hmem).2
    exact (hvalues _ _ (List.mem_cons_of_mem _ hvalue)).1.canonical
  have hx : x.Canonical := (hvalues x text List.mem_cons_self).1.canonical
  refine ⟨_, evaluate_eq_continued x text followers, fun hfinite => ?_⟩
  rw [SumError.continued_eq_foldl none hranks] at hfinite ⊢
  have herror := (SumError.foldl_error hranks hcanonical hx hfinite).2
  rwa [← SumError.signedSum_followers hranks, ← SumError.operatorCount_followers] at herror

-- Two of the smallest fractions, whose sum has to be rounded, less a third.
theorem evaluate_sum_error_rounded :
    let tokens : List Token :=
      [.value (.finite 1 2147483647) "1/2147483647", .operator .add,
        .value (.finite 1 2147483646) "1/2147483646", .operator .subtract,
        .value (.finite 1 3) "1/3"]
    let result : Number := .finite (-357913940) 1073741823
    evaluate tokens = .ok result ∧ result.value ≠ signedSum tokens ∧
      |result.value - signedSum tokens| ≤ (2 : Nat) / (2 * wordMax) := by
  intro tokens result
  have hresult : evaluate tokens = .ok result := by decide +kernel
  have hops : ∀ op, Token.operator op ∈ tokens → op = .add ∨ op = .subtract := by
    intro op hop
    simpa [tokens] using hop
  have hvalues : ∀ x text, Token.value x text ∈ tokens → Reachable x ∧ x.isFinite = true := by
    intro x text hx
    simp only [tokens, List.mem_cons, Token.value.injEq, reduceCtorEq, List.not_mem_nil, false_or,
      or_false] at hx
    rcases hx with ⟨rfl, -⟩ | ⟨rfl, -⟩ | ⟨rfl, -⟩
    · exact ⟨(reachable_iff_canonical _).mpr (by decide), rfl⟩
    · exact ⟨(reachable_iff_canonical _).mpr (by decide), rfl⟩
    · exact ⟨(reachable_iff_canonical _).mpr (by decide), rfl⟩
  have hne : result.value ≠ signedSum tokens := by
    simp only [result, tokens, signedSum, Number.value, Number.numerator, Number.denominator]
    norm_num
  obtain ⟨y, hy, herror⟩ := evaluate_sum_error tokens trivial hops hvalues
  rw [hresult] at hy
  cases hy
  exact ⟨hresult, hne, herror rfl⟩

end FractionCalculator
