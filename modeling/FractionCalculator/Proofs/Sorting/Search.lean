import FractionCalculator.Proofs.Outcome
import FractionCalculator.Sorting.Search

namespace FractionCalculator.Sorting

variable {α ε : Type} {p : α → Bool} {items : List α} {k : Nat}

-- The first k items pass a test, and the others fail it.
structure Turns (p : α → Bool) (items : List α) (k : Nat) : Prop where
  le_length : k ≤ items.length
  passes : ∀ a ∈ items.take k, p a = true
  fails : ∀ a ∈ items.drop k, p a = false

theorem exists_turns (h : items.Pairwise fun a b => p b = true → p a = true) :
    ∃ k, Turns p items k := by
  induction items with
  | nil => exact ⟨0, Nat.le_refl 0, by simp, by simp⟩
  | cons a items ih =>
      obtain ⟨hfirst, hrest⟩ := List.pairwise_cons.mp h
      by_cases ha : p a = true
      · obtain ⟨k, hle, hpasses, hfails⟩ := ih hrest
        refine ⟨k + 1, Nat.succ_le_succ hle, ?_, hfails⟩
        rw [List.take_succ_cons]
        exact List.forall_mem_cons.mpr ⟨ha, hpasses⟩
      · refine ⟨0, Nat.zero_le _, by simp, ?_⟩
        rw [List.drop_zero]
        refine List.forall_mem_cons.mpr ⟨Bool.eq_false_iff.mpr ha, fun b hb => ?_⟩
        exact Bool.eq_false_iff.mpr fun hpass => ha (hfirst b hb hpass)

namespace Turns

theorem iff_lt (h : Turns p items k) {i : Nat} {a : α} (ha : items[i]? = some a) :
    p a = true ↔ i < k := by
  constructor
  · intro hpass
    by_contra hle
    have hmem : a ∈ items.drop k := by
      rw [List.mem_iff_getElem?]
      exact ⟨i - k, by rw [List.getElem?_drop, Nat.add_sub_of_le (by omega), ha]⟩
    rw [h.fails a hmem] at hpass
    cases hpass
  · intro hlt
    apply h.passes a
    rw [List.mem_iff_getElem?]
    exact ⟨i, by rw [List.getElem?_take_of_lt hlt, ha]⟩

end Turns

variable {passes : α → Except ε Bool}

theorem halve_eq (course : Course) (h : Turns p items k)
    (hpasses : ∀ a ∈ items, passes a = .ok (p a)) {lo hi : Nat} (hlo : lo ≤ k) (hhi : k ≤ hi)
    (hlength : hi ≤ items.length) : halve course passes items lo hi = .ok k := by
  induction lo, hi using halve.induct course items with
  | case1 lo hi hlt hnone =>
      have hmiddle := course.middle_lt hlt
      have := List.getElem?_eq_none_iff.mp hnone
      omega
  | case2 lo hi hlt item hitem ihRight ihLeft =>
      have hmiddle := course.middle_lt hlt
      have hturn := h.iff_lt hitem
      rw [halve, dif_pos hlt]
      simp only [hitem, hpasses item (List.mem_of_getElem? hitem)]
      change (if p item = true then _ else _) = _
      split_ifs with hpass
      · exact ihRight (hturn.mp hpass) hhi hlength
      · have hle := mt hturn.mpr hpass
        exact ihLeft hlo (by omega) (by omega)
  | case3 lo hi hle =>
      rw [halve, dif_neg hle]
      exact congrArg Except.ok (by omega)

-- The test turns between the two positions that are found.
theorem exists_widen (h : Turns p items k) (hpasses : ∀ a ∈ items, passes a = .ok (p a))
    (last next : Nat) (hlast : last < k) : ∃ lo hi, widen passes items last next = .ok (lo, hi) ∧
      lo < k ∧ k ≤ hi ∧ hi ≤ items.length := by
  induction last, next using widen.induct items with
  | case1 last next hlt ih =>
      have hturn := h.iff_lt (List.getElem?_eq_getElem hlt)
      rw [widen, dif_pos hlt, hpasses _ (List.getElem_mem hlt)]
      change ∃ lo hi, (if p items[next] = true then _ else _) = _ ∧ _
      split_ifs with hpass
      · exact ih (hturn.mp hpass)
      · have hle := mt hturn.mpr hpass
        exact ⟨last, next, rfl, hlast, by omega, by omega⟩
  | case2 last next hle =>
      rw [widen, dif_neg hle]
      exact ⟨last, items.length, rfl, hlast, h.le_length, Nat.le_refl _⟩

theorem gallop_eq (course : Course) (h : Turns p items k)
    (hpasses : ∀ a ∈ items, passes a = .ok (p a)) : gallop course passes items = .ok k := by
  cases items with
  | nil => exact congrArg Except.ok (Nat.le_zero.mp h.le_length).symm
  | cons first rest =>
      have hturn := h.iff_lt (i := 0) (a := first) rfl
      rw [gallop, hpasses first List.mem_cons_self]
      change (if p first = true then _ else _) = _
      split_ifs with hpass
      · obtain ⟨lo, hi, hwiden, hlo, hhi, hlength⟩ :=
          exists_widen h hpasses 0 1 (hturn.mp hpass)
        rw [hwiden]
        exact halve_eq course h hpasses hlo hhi hlength
      · have hle := mt hturn.mpr hpass
        exact congrArg Except.ok (by omega)

end FractionCalculator.Sorting
