import FractionCalculator.Proofs.Sorting.Search
import FractionCalculator.Proofs.Sorting.Stable
import FractionCalculator.Sorting.Run
import Mathlib.Data.List.Chain

namespace FractionCalculator.Sorting

variable {α β ε : Type} [LinearOrder β] {place : α → β} {lt : α → α → Except ε Bool}
  {items run : List α} {item : α}

-- In an ascending row the items up to a place come first.
theorem exists_turns_le (h : Ascends place items) (a : α) :
    ∃ k, Turns (fun b => !decide (place a < place b)) items k := by
  refine exists_turns (h.imp fun hle => ?_)
  simpa using hle.trans

theorem exists_turns_lt (h : Ascends place items) (a : α) :
    ∃ k, Turns (fun b => decide (place b < place a)) items k := by
  refine exists_turns (h.imp fun hle => ?_)
  simpa using hle.trans_lt

-- An item goes behind the items of its own place.
theorem exists_insertItem (hrun : Ascends place run)
    (hcompares : ∀ other ∈ run, Compares lt place other item) :
    ∃ longer, insertItem lt run item = .ok longer ∧ Ascends place longer ∧
      Stable place (run ++ [item]) longer := by
  obtain ⟨k, hturns⟩ := exists_turns_le hrun item
  have hpasses : ∀ other ∈ run,
      (lt item other).map (!·) = .ok (!decide (place item < place other)) := fun other hother => by
    rw [(hcompares other hother).2]
    rfl
  have hhalve := halve_eq .forward hturns hpasses (Nat.zero_le k) hturns.le_length le_rfl
  have hbelow : ∀ a ∈ run.take k, place a ≤ place item := fun a ha => by
    simpa using hturns.passes a ha
  have habove : ∀ b ∈ run.drop k, place item < place b := fun b hb => by
    simpa using hturns.fails b hb
  have hsplit := List.take_append_drop k run
  rw [← hsplit] at hrun
  obtain ⟨hleft, hright, hacross⟩ := ascends_append.mp hrun
  refine ⟨run.take k ++ item :: run.drop k, ?_, ?_, ?_⟩
  · rw [insertItem, hhalve]
    rfl
  · refine ascends_append.mpr ⟨hleft, List.pairwise_cons.mpr ⟨fun b hb => (habove b hb).le, hright⟩,
      fun a ha b hb => ?_⟩
    rcases List.mem_cons.mp hb with rfl | hb
    · exact hbelow a ha
    · exact hacross a ha b hb
  · have hswap : Stable place (run.drop k ++ [item]) ([item] ++ run.drop k) :=
      .swap fun b hb a ha => by
        rw [List.mem_singleton.mp ha]
        exact (habove b hb).ne'
    have hstable := (Stable.refl (run.take k)).append hswap
    rwa [← List.append_assoc, hsplit] at hstable

theorem exists_insertItems (hrun : Ascends place run) (h : Comparable lt place (run ++ items)) :
    ∃ longer, items.foldlM (insertItem lt) run = .ok longer ∧ Ascends place longer ∧
      Stable place (run ++ items) longer := by
  induction items generalizing run with
  | nil => exact ⟨run, rfl, hrun, by rw [List.append_nil]; exact .refl run⟩
  | cons item items ih =>
      obtain ⟨next, hinsert, hnext, hstable⟩ :=
        exists_insertItem hrun fun other hother => h.across hother List.mem_cons_self
      have hmoved : Stable place (run ++ item :: items) (next ++ items) := by
        rw [List.append_cons]
        exact hstable.append (.refl items)
      obtain ⟨longer, hfold, hlonger, hrest⟩ := ih hnext (h.stable hmoved)
      refine ⟨longer, ?_, hlonger, hmoved.trans hrest⟩
      rw [List.foldlM_cons, hinsert]
      exact hfold

-- The neighbours in a stretch all compare in one way.
theorem exists_stretch (descending : Bool) (last : α) (items : List α)
    (h : Comparable lt place (last :: items)) :
    ∃ stretched rest, stretch lt descending last items = .ok (stretched, rest) ∧
      items = stretched ++ rest ∧
      (last :: stretched).IsChain fun a b => decide (place b < place a) = descending := by
  induction items generalizing last with
  | nil => exact ⟨[], [], rfl, rfl, .singleton last⟩
  | cons item items ih =>
      obtain ⟨hlast, hrest⟩ := List.pairwise_cons.mp h
      rw [stretch, (hlast item List.mem_cons_self).2]
      change ∃ stretched rest, (if decide (place item < place last) = descending then _ else _) =
        _ ∧ _
      split_ifs with hsame
      · obtain ⟨stretched, rest, hstretch, rfl, hchain⟩ := ih item hrest
        rw [hstretch]
        exact ⟨item :: stretched, rest, rfl, rfl, .cons_cons hsame hchain⟩
      · exact ⟨[], item :: items, rfl, rfl, .singleton last⟩

-- A stretch becomes an ascending run. One that descends does so strictly, so it may be turned
-- round.
theorem exists_ascends_of_isChain {descending : Bool} {stretched : List α}
    (h : stretched.IsChain fun a b => decide (place b < place a) = descending) :
    Ascends place (if descending then stretched.reverse else stretched) ∧
      Stable place stretched (if descending then stretched.reverse else stretched) := by
  cases descending with
  | true =>
      have : IsTrans α fun a b => place b < place a := ⟨fun _ _ _ hab hbc => hbc.trans hab⟩
      have hstrict : stretched.Pairwise fun a b => place b < place a :=
        List.isChain_iff_pairwise.mp (h.imp fun a b hab => by simpa using hab)
      refine ⟨?_, .of_descending hstrict⟩
      exact List.pairwise_reverse.mpr (hstrict.imp le_of_lt)
  | false =>
      have : IsTrans α fun a b => place a ≤ place b := ⟨fun _ _ _ => le_trans⟩
      refine ⟨?_, .refl stretched⟩
      exact List.isChain_iff_pairwise.mp (h.imp fun a b hab => by simpa using hab)

theorem exists_nextRun (shortest : Nat) (h : Comparable lt place items) :
    ∃ run taken rest, nextRun lt shortest items = .ok (run, rest) ∧ items = taken ++ rest ∧
      Ascends place run ∧ Stable place taken run ∧ (items ≠ [] → taken ≠ []) := by
  match items, h with
  | [], _ => exact ⟨[], [], [], rfl, rfl, .nil, .refl [], id⟩
  | [a], _ => exact ⟨[a], [a], [], rfl, rfl, List.pairwise_singleton .., .refl [a], id⟩
  | first :: second :: items, h =>
      obtain ⟨hfirst, hsecond⟩ := List.pairwise_cons.mp h
      obtain ⟨more, rest, hstretch, rfl, hchain⟩ :=
        exists_stretch (decide (place second < place first)) second items hsecond
      obtain ⟨hascends, hstable⟩ := exists_ascends_of_isChain (List.IsChain.cons_cons rfl hchain)
      -- The items behind the stretch that make it long enough.
      let lacking := shortest - (first :: second :: more).length
      have hsplit : first :: second :: (more ++ rest) =
          (first :: second :: more) ++ rest.take lacking ++ rest.drop lacking := by
        rw [List.append_assoc, List.take_append_drop]
        rfl
      have hfilled := hstable.append (.refl (rest.take lacking))
      have hcomparable : Comparable lt place ((first :: second :: more) ++ rest.take lacking) := by
        rw [hsplit] at h
        exact h.left
      obtain ⟨run, hfold, hrun, hinserted⟩ :=
        exists_insertItems hascends (hcomparable.stable hfilled)
      refine ⟨run, (first :: second :: more) ++ rest.take lacking, rest.drop lacking, ?_, hsplit,
        hrun, hfilled.trans hinserted, fun _ => nofun⟩
      rw [nextRun]
      exact bind_eq_ok.mpr ⟨_, (hfirst second List.mem_cons_self).2, bind_eq_ok.mpr ⟨_, hstretch,
        bind_eq_ok.mpr ⟨run, hfold, rfl⟩⟩⟩

end FractionCalculator.Sorting
