import FractionCalculator.Proofs.Expression.Grouping

namespace FractionCalculator

namespace Tree

-- The most values that the postfix order of a tree needs on the stack at a time. The right operand
-- runs on top of the value of the left one.
def room : Tree → Nat
  | leaf _ _ => 1
  | node _ left right => max left.room (right.room + 1)

theorem room_pos (t : Tree) : 1 ≤ t.room := by
  cases t with
  | leaf number text => exact le_refl 1
  | node op left right => exact (Nat.le_add_left 1 right.room).trans (le_max_right ..)

-- Each step to a right operand costs one more place and leads to a higher rank, of which there are
-- only two.
theorem Grouped.room_add_le {t : Tree} (h : t.Grouped) (rank : Nat) (hrank : rank ≤ 3)
    (hroot : ∀ o ∈ t.root?, rank ≤ o.rank) : t.room + rank ≤ 4 := by
  induction t generalizing rank with
  | leaf number text =>
      rw [room]
      omega
  | node op left right ihl ihr =>
      obtain ⟨hleft, hright, hleftGrouped, hrightGrouped⟩ := h
      have hle : rank ≤ op.rank := hroot op rfl
      have hop : op.rank ≤ 2 := by
        rcases op.rank_cases with hop | hop <;> omega
      have hleftRoom := ihl hleftGrouped op.rank (by omega) hleft
      have hrightRoom := ihr hrightGrouped (op.rank + 1) (by omega) hright
      rw [room]
      omega

theorem Grouped.room_le {t : Tree} (h : t.Grouped) : t.room ≤ 3 := by
  have hroot : ∀ o ∈ t.root?, 1 ≤ o.rank := by
    intro o _
    rcases o.rank_cases with ho | ho <;> omega
  have hroom := h.room_add_le 1 (by omega) hroot
  omega

-- Wherever the run of a postfix order is stopped, its own values lie on top of what was there
-- before, and there are no more of them than the tree has room for.
theorem run_prefix (t : Tree) (stack : List Number) {done : List Token}
    (h : done <+: t.postorder) :
    ∃ values, done.foldlM runToken stack = .ok (values ++ stack) ∧ values.length ≤ t.room := by
  induction t generalizing stack done with
  | leaf number text =>
      rcases List.prefix_cons_iff.mp h with rfl | ⟨rest, rfl, hrest⟩
      · exact ⟨[], rfl, Nat.zero_le 1⟩
      · obtain rfl := List.prefix_nil.mp hrest
        exact ⟨[number], rfl, le_refl 1⟩
  | node op left right ihl ihr =>
      rcases List.prefix_concat_iff.mp h with rfl | hdone
      · exact ⟨[(node op left right).eval], run_postorder (node op left right) stack,
          room_pos (node op left right)⟩
      · obtain ⟨rest, hrest⟩ := hdone
        rcases List.append_eq_append_iff.mp hrest with ⟨left', hleft, -⟩ | ⟨right', hdone, hright⟩
        · obtain ⟨values, hrun, hlength⟩ := ihl stack ⟨left', hleft.symm⟩
          exact ⟨values, hrun, hlength.trans (le_max_left ..)⟩
        · obtain ⟨values, hrun, hlength⟩ := ihr (left.eval :: stack) ⟨rest, hright.symm⟩
          refine ⟨values ++ [left.eval], ?_, ?_⟩
          · rw [hdone, List.foldlM_append, run_postorder, List.append_assoc]
            exact hrun
          · rw [List.length_append, List.length_singleton]
            exact (Nat.add_le_add_right hlength 1).trans (le_max_right ..)

end Tree

namespace Conversion

-- Operators that wait, their top first: each binds more tightly than those below it.
def Ascending (waiting : List Operator) : Prop :=
  waiting.Pairwise fun upper lower => lower.rank < upper.rank

variable {waiting : List Operator}

theorem Ascending.rank_lt (h : Ascending waiting) (rank : Nat) :
    ∀ o ∈ waiting.dropWhile fun o => rank ≤ o.rank, o.rank < rank := by
  induction waiting with
  | nil => simp
  | cons upper waiting ih =>
      obtain ⟨hupper, hwaiting⟩ := List.pairwise_cons.mp h
      by_cases hrank : rank ≤ upper.rank
      · rw [List.dropWhile_cons_of_pos (by simpa using hrank)]
        exact ih hwaiting
      · rw [List.dropWhile_cons_of_neg (by simpa using hrank)]
        have hlt : upper.rank < rank := not_le.mp hrank
        exact List.forall_mem_cons.mpr ⟨hlt, fun o ho => (hupper o ho).trans hlt⟩

theorem ascending_start : Ascending start.waiting :=
  List.Pairwise.nil

-- An operator first releases whatever would be in its way.
theorem Ascending.step {s s' : Conversion} {token : Token} (h : Ascending s.waiting)
    (hstep : s.step token = .ok s') : Ascending s'.waiting := by
  unfold Conversion.step at hstep
  split at hstep <;> cases hstep
  · exact h
  · exact List.pairwise_cons.mpr ⟨h.rank_lt _, h.sublist (List.dropWhile_sublist _)⟩

theorem ascending_of_run {tokens : List Token} {s : Conversion}
    (h : tokens.foldlM step start = .ok s) : Ascending s.waiting :=
  foldlM_induction (motive := fun (_ : List Token) (s : Conversion) => Ascending s.waiting)
    (fun _ _ _ _ hs hstep => hs.step hstep) tokens ascending_start h

-- Only two ranks, so only two operators.
theorem Ascending.length_le (h : Ascending waiting) : waiting.length ≤ 2 := by
  rcases waiting with _ | ⟨first, _ | ⟨second, _ | ⟨third, rest⟩⟩⟩
  · simp
  · simp
  · simp
  · obtain ⟨hfirst, htail⟩ := List.pairwise_cons.mp h
    obtain ⟨hsecond, -⟩ := List.pairwise_cons.mp htail
    have hone := hfirst second List.mem_cons_self
    have htwo := hsecond third List.mem_cons_self
    rcases first.rank_cases with h1 | h1 <;> rcases third.rank_cases with h3 | h3 <;> omega

theorem Ascending.ranks (h : Ascending waiting) :
    (waiting.reverse.map Operator.rank).Pairwise (· < ·) :=
  List.pairwise_map.mpr (List.pairwise_reverse.mpr h)

end Conversion

theorem exists_grouped_postorder {tokens out : List Token} (h : toPostfix tokens = .ok out) :
    ∃ t : Tree, t.Grouped ∧ out = t.postorder := by
  obtain ⟨x, text, followers, rfl⟩ := exists_followers tokens (alternating_of_toPostfix h)
  rw [toPostfix_followers, Except.ok.injEq] at h
  exact ⟨treeOf x text followers, grouped_treeOf x text followers, h.symm⟩

-- However far a conversion has come, and however many of the waiting operators it has released, the
-- ranks of those left go up from the bottom and there are two at most. Running what comes out never
-- fails on the way and never has more than three values on the stack.
theorem stacks_shallow (tokens : List Token) :
    (∀ done s, done <+: tokens → done.foldlM Conversion.step Conversion.start = .ok s →
      ∀ stack, stack <:+ s.waiting →
        (stack.reverse.map Operator.rank).Pairwise (· < ·) ∧ stack.length ≤ 2) ∧
    ∀ out, toPostfix tokens = .ok out → ∀ done, done <+: out →
      ∃ values, done.foldlM runToken [] = .ok values ∧ values.length ≤ 3 := by
  constructor
  · intro done s _ hrun stack hstack
    have hascending : Conversion.Ascending stack :=
      (Conversion.ascending_of_run hrun).sublist hstack.sublist
    exact ⟨hascending.ranks, hascending.length_le⟩
  · intro out hout done hdone
    obtain ⟨t, hgrouped, rfl⟩ := exists_grouped_postorder hout
    obtain ⟨values, hrun, hlength⟩ := t.run_prefix [] hdone
    rw [List.append_nil] at hrun
    exact ⟨values, hrun, hlength.trans hgrouped.room_le⟩

-- Both bounds are reached by a product that is added.
theorem stacks_shallow_reached :
    let one : Token := .value .one "1"
    let tokens := [one, .operator .add, one, .operator .multiply, one]
    let out := [one, one, one, .operator .multiply, .operator .add]
    (∃ s, tokens.foldlM Conversion.step Conversion.start = .ok s ∧
      s.waiting = [.multiply, .add] ∧
      (s.waiting.reverse.map Operator.rank).Pairwise (· < ·) ∧ s.waiting.length ≤ 2) ∧
    toPostfix tokens = .ok out ∧
    ∃ values, (out.take 3).foldlM runToken [] = .ok values ∧ values = [.one, .one, .one] ∧
      values.length ≤ 3 := by
  intro one tokens out
  have hout : toPostfix tokens = .ok out := by decide
  obtain ⟨hconversion, hevaluation⟩ := stacks_shallow tokens
  obtain ⟨s, hrun, hwaiting⟩ : ∃ s, tokens.foldlM Conversion.step Conversion.start = .ok s ∧
      s.waiting = [.multiply, .add] := ⟨_, rfl, rfl⟩
  obtain ⟨values, hvalues, hlength⟩ := hevaluation out hout (out.take 3) (List.take_prefix 3 out)
  refine ⟨⟨s, hrun, hwaiting, hconversion tokens s List.prefix_rfl hrun s.waiting
    List.suffix_rfl⟩, hout, values, hvalues, ?_, hlength⟩
  have hthree : (out.take 3).foldlM runToken [] = .ok [.one, .one, .one] := rfl
  exact Except.ok.inj (hvalues.symm.trans hthree)

end FractionCalculator
