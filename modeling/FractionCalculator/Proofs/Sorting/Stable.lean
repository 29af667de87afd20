import Mathlib.Data.List.Perm.Basic
import Mathlib.Order.Lattice

namespace FractionCalculator.Sorting

variable {α β ε : Type} [LinearOrder β] {place : α → β}

def Ascends (place : α → β) (items : List α) : Prop :=
  items.Pairwise fun a b => place a ≤ place b

theorem ascends_append {xs ys : List α} : Ascends place (xs ++ ys) ↔
    Ascends place xs ∧ Ascends place ys ∧ ∀ a ∈ xs, ∀ b ∈ ys, place a ≤ place b :=
  List.pairwise_append

-- The first item has the lowest place.
theorem Ascends.head_le {first : α} {items : List α} (h : Ascends place (first :: items)) :
    ∀ a ∈ first :: items, place first ≤ place a :=
  List.forall_mem_cons.mpr ⟨le_rfl, (List.pairwise_cons.mp h).1⟩

theorem Ascends.le_getLast {items : List α} {last : α} (h : Ascends place items)
    (hlast : items.getLast? = some last) : ∀ a ∈ items, place a ≤ place last := by
  obtain ⟨init, rfl⟩ := List.getLast?_eq_some_iff.mp hlast
  obtain ⟨-, -, hacross⟩ := ascends_append.mp h
  intro a ha
  rcases List.mem_append.mp ha with ha | ha
  · exact hacross a ha last (List.mem_singleton_self last)
  · rw [List.mem_singleton.mp ha]

-- Seen from its end, a row ascends in the dual order.
theorem Ascends.reverse {items : List α} (h : Ascends place items) :
    Ascends (fun a => OrderDual.toDual (place a)) items.reverse :=
  List.pairwise_reverse.mpr h

-- The items are the same, and those that share a place stand in the same order.
def Stable (place : α → β) (before after : List α) : Prop :=
  ∀ p, after.filter (fun a => place a = p) = before.filter fun a => place a = p

namespace Stable

variable {before middle after : List α}

theorem refl (items : List α) : Stable place items items :=
  fun _ => rfl

theorem trans (h : Stable place before middle) (h' : Stable place middle after) :
    Stable place before after :=
  fun p => (h' p).trans (h p)

theorem append {before' after' : List α} (h : Stable place before after)
    (h' : Stable place before' after') : Stable place (before ++ before') (after ++ after') := by
  intro p
  rw [List.filter_append, List.filter_append, h p, h' p]

theorem reverse (h : Stable place before after) : Stable place before.reverse after.reverse := by
  intro p
  rw [List.filter_reverse, List.filter_reverse, h p]

-- Stretches without a common place may change sides.
theorem swap {xs ys : List α} (h : ∀ a ∈ xs, ∀ b ∈ ys, place a ≠ place b) :
    Stable place (xs ++ ys) (ys ++ xs) := by
  intro p
  rw [List.filter_append, List.filter_append]
  by_cases hmem : ∃ a ∈ xs, place a = p
  · obtain ⟨a, ha, rfl⟩ := hmem
    have hnone : ys.filter (fun b => place b = place a) = [] := by
      simpa using fun b hb => (h a ha b hb).symm
    rw [hnone, List.nil_append, List.append_nil]
  · have hnone : xs.filter (fun a => place a = p) = [] := by simpa using hmem
    rw [hnone, List.nil_append, List.append_nil]

-- Where no two items share a place, the row may be turned round.
theorem of_descending {items : List α} (h : items.Pairwise fun a b => place b < place a) :
    Stable place items items.reverse := by
  induction items with
  | nil => exact .refl []
  | cons a items ih =>
      obtain ⟨hfirst, hrest⟩ := List.pairwise_cons.mp h
      have hturned : Stable place ([a] ++ items) ([a] ++ items.reverse) :=
        (Stable.refl [a]).append (ih hrest)
      rw [List.reverse_cons]
      refine hturned.trans (.swap fun b hb c hc => ?_)
      rw [List.mem_singleton.mp hb]
      exact (hfirst c (List.mem_reverse.mp hc)).ne'

theorem perm (h : Stable place before after) : after.Perm before := by
  classical
  refine List.perm_iff_count.mpr fun a => ?_
  have hcount := congrArg (List.count a) (h (place a))
  rwa [List.count_filter (by simp), List.count_filter (by simp)] at hcount

theorem mem_iff (h : Stable place before after) {a : α} : a ∈ after ↔ a ∈ before :=
  h.perm.mem_iff

end Stable

-- The comparison of two items does not fail, and says which of them has the lower place.
def Compares (lt : α → α → Except ε Bool) (place : α → β) (a b : α) : Prop :=
  lt a b = .ok (decide (place a < place b)) ∧ lt b a = .ok (decide (place b < place a))

-- The comparisons between the items do not fail. No item is compared with itself.
def Comparable (lt : α → α → Except ε Bool) (place : α → β) (items : List α) : Prop :=
  items.Pairwise (Compares lt place)

namespace Comparable

variable {lt : α → α → Except ε Bool} {items before after xs ys : List α}

theorem perm (h : Comparable lt place before) (hperm : after.Perm before) :
    Comparable lt place after :=
  (hperm.pairwise_iff fun hab => hab.symm).mpr h

theorem stable (h : Comparable lt place before) (hstable : Stable place before after) :
    Comparable lt place after :=
  h.perm hstable.perm

theorem left (h : Comparable lt place (xs ++ ys)) : Comparable lt place xs :=
  (List.pairwise_append.mp h).1

theorem right (h : Comparable lt place (xs ++ ys)) : Comparable lt place ys :=
  (List.pairwise_append.mp h).2.1

theorem across (h : Comparable lt place (xs ++ ys)) {a b : α} (ha : a ∈ xs) (hb : b ∈ ys) :
    Compares lt place a b :=
  (List.pairwise_append.mp h).2.2 a ha b hb

end Comparable

end FractionCalculator.Sorting
