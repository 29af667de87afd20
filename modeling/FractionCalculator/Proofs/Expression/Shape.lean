import FractionCalculator.Proofs.Expression.Precedence
import FractionCalculator.Proofs.Outcome

namespace FractionCalculator

def CalcError.IsMalformedExpression (e : CalcError) : Prop :=
  e.reportName? = some "MalformedExpressionError"

theorem Alternating.append {tokens : List Token} (h : Alternating tokens) (op : Operator)
    (x : Number) (text : String) : Alternating (tokens ++ [.operator op, .value x text]) := by
  fun_induction Alternating tokens with
  | case1 y other => trivial
  | case2 y other op' tokens ih => exact ih h
  | case3 => exact h.elim

namespace Conversion

-- What a conversion has taken so far alternates, and its counts tell where it stopped.
structure Accepted (done : List Token) (s : Conversion) : Prop where
  afterValue : s.expectsValue = false → Alternating done ∧ s.values = s.operators + 1
  beforeValue : s.expectsValue = true → s.values = s.operators ∧
    (done = [] ∨ ∃ earlier op, Alternating earlier ∧ done = earlier ++ [.operator op])

theorem accepted_start : start.Accepted [] :=
  ⟨nofun, fun _ => ⟨rfl, .inl rfl⟩⟩

theorem Accepted.step {done : List Token} {s s' : Conversion} {token : Token}
    (h : s.Accepted done) (hstep : s.step token = .ok s') : s'.Accepted (done ++ [token]) := by
  unfold Conversion.step at hstep
  split at hstep
  · rename_i x text hexpects
    cases hstep
    refine ⟨fun _ => ?_, nofun⟩
    obtain ⟨hbalance, rfl | ⟨earlier, op, hearlier, rfl⟩⟩ := h.beforeValue hexpects
    · exact ⟨trivial, congrArg (· + 1) hbalance⟩
    · rw [List.append_assoc]
      exact ⟨hearlier.append op x text, congrArg (· + 1) hbalance⟩
  · rename_i op hexpects
    cases hstep
    obtain ⟨hdone, hbalance⟩ := h.afterValue hexpects
    exact ⟨nofun, fun _ => ⟨hbalance, .inr ⟨done, op, hdone, rfl⟩⟩⟩
  · cases hstep

theorem Accepted.alternating {done out : List Token} {s : Conversion} (h : s.Accepted done)
    (hfinish : s.finish = .ok out) : Alternating done := by
  unfold finish at hfinish
  split_ifs at hfinish with hbalance
  cases hexpects : s.expectsValue with
  | false => exact (h.afterValue hexpects).1
  | true =>
      have := (h.beforeValue hexpects).1
      omega

theorem step_error {s : Conversion} {token : Token} {e : CalcError} (h : s.step token = .error e) :
    e.IsMalformedExpression := by
  unfold Conversion.step at h
  split at h <;> cases h
  cases s.previous <;> rfl

theorem finish_error {s : Conversion} {e : CalcError} (h : s.finish = .error e) :
    e.IsMalformedExpression := by
  unfold finish at h
  split_ifs at h
  cases h
  rfl

end Conversion

theorem alternating_of_toPostfix {tokens out : List Token} (h : toPostfix tokens = .ok out) :
    Alternating tokens := by
  obtain ⟨s, hrun, hfinish⟩ := bind_eq_ok.mp h
  have haccepted : s.Accepted tokens :=
    foldlM_induction (motive := fun done s => s.Accepted done)
      (fun done s token s' hs hstep => hs.step hstep) tokens Conversion.accepted_start hrun
  exact haccepted.alternating hfinish

-- A conversion fails in one of its steps or at the end, and only because of the shape.
theorem toPostfix_error {tokens : List Token} {e : CalcError} (h : toPostfix tokens = .error e) :
    e.IsMalformedExpression := by
  rcases bind_eq_error.mp h with hrun | ⟨s, -, hfinish⟩
  · obtain ⟨-, token, -, s, -, -, hstep⟩ := foldlM_eq_error_iff.mp hrun
    exact Conversion.step_error hstep
  · exact Conversion.finish_error hfinish

theorem evaluate_of_not_alternating {tokens : List Token} (h : ¬ Alternating tokens) :
    ∃ e, evaluate tokens = .error e ∧ e.IsMalformedExpression := by
  cases hpostfix : toPostfix tokens with
  | ok out => exact absurd (alternating_of_toPostfix hpostfix) h
  | error e => exact ⟨e, bind_eq_error.mpr (.inl hpostfix), toPostfix_error hpostfix⟩

end FractionCalculator
