import FractionCalculator.Expression.Evaluate
import FractionCalculator.Proofs.Outcome
import Mathlib.Algebra.Order.Group.Multiset

namespace FractionCalculator

namespace Conversion

-- All that a conversion has read is in its output or waits.
def tokensRead (s : Conversion) : Multiset Token :=
  s.output + s.waiting.map Token.operator

theorem step_tokensRead (s s' : Conversion) (token : Token) (h : s.step token = .ok s') :
    s'.tokensRead = s.tokensRead + {token} := by
  unfold step at h
  split at h
  · cases h
    simp only [tokensRead, ← Multiset.coe_add, ← Multiset.coe_singleton]
    ac_rfl
  · rename_i op _
    cases h
    have hwaiting := congrArg (List.map Token.operator)
      (List.takeWhile_append_dropWhile (p := fun o : Operator => op.rank ≤ o.rank) (l := s.waiting))
    rw [List.map_append] at hwaiting
    simp only [tokensRead, ← hwaiting, List.map_cons, ← Multiset.cons_coe, ← Multiset.coe_add,
      ← Multiset.singleton_add]
    ac_rfl
  · cases h

end Conversion

-- Conversion only reorders: every token once, none new.
theorem toPostfix_perm (tokens out : List Token) (h : toPostfix tokens = .ok out) :
    out.Perm tokens := by
  obtain ⟨s, hrun, hfinish⟩ := bind_eq_ok.mp h
  have hread : s.tokensRead = ↑tokens := by
    simpa using foldlM_induction (motive := fun done s => s.tokensRead = ↑done)
      (fun done s token s' hs hstep => by
        rw [Conversion.step_tokensRead s s' token hstep, hs, ← Multiset.coe_singleton,
          Multiset.coe_add])
      tokens rfl hrun
  unfold Conversion.finish at hfinish
  split at hfinish
  · cases hfinish
    exact Multiset.coe_eq_coe.mp (by rw [← hread, Conversion.tokensRead, Multiset.coe_add])
  · cases hfinish

-- One step leaves on the stack only what operations make of what it finds there.
theorem runToken_closed {p : Number → Prop} (hop : ∀ op x y, p x → p y → p (Operator.apply op x y))
    {stack stack' : List Number} {token : Token} (hstack : ∀ x ∈ stack, p x)
    (htoken : ∀ x text, token = .value x text → p x) (h : runToken stack token = .ok stack') :
    ∀ x ∈ stack', p x := by
  unfold runToken at h
  split at h
  · cases h
    exact List.forall_mem_cons.mpr ⟨htoken _ _ rfl, hstack⟩
  · cases h
    obtain ⟨hright, hrest⟩ := List.forall_mem_cons.mp hstack
    obtain ⟨hleft, hrest⟩ := List.forall_mem_cons.mp hrest
    exact List.forall_mem_cons.mpr ⟨hop _ _ _ hleft hright, hrest⟩
  · cases h

-- What holds of all values of an expression and is kept by the operations holds of the result.
theorem evaluate_closed {p : Number → Prop}
    (hop : ∀ op x y, p x → p y → p (Operator.apply op x y)) {tokens : List Token}
    (htokens : ∀ x text, Token.value x text ∈ tokens → p x) {result : Number}
    (h : evaluate tokens = .ok result) : p result := by
  obtain ⟨out, hout, hrun⟩ := bind_eq_ok.mp h
  obtain ⟨stack, hstack, htop⟩ := bind_eq_ok.mp hrun
  have hall : ∀ x ∈ stack, p x := by
    refine foldlM_induction
      (motive := fun done stack => (∀ x text, Token.value x text ∈ done → p x) → ∀ x ∈ stack, p x)
      (fun done stack token stack' ih hstep hdone => ?_) out (by simp) hstack
      (fun x text hmem => htokens x text ((toPostfix_perm tokens out hout).mem_iff.mp hmem))
    refine runToken_closed hop (ih fun x text hmem => hdone x text (by simp [hmem])) ?_ hstep
    rintro x text rfl
    exact hdone x text (by simp)
  cases stack with
  | nil => cases htop
  | cons top rest =>
      cases htop
      exact hall _ (List.mem_cons_self)

end FractionCalculator
