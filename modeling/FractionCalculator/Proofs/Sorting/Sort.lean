import FractionCalculator.Proofs.Sorting.Merge
import FractionCalculator.Proofs.Sorting.Run
import FractionCalculator.Sorting.Basic

namespace FractionCalculator.Sorting

variable {α β ε : Type} [LinearOrder β] {place : α → β} {lt : α → α → Except ε Bool}
  {base items : List α} {runs others : List (Pending α)} {later earlier : Pending α}

-- The items of the runs that wait, of which the latest comes first.
def content (runs : List (Pending α)) : List α :=
  (runs.reverse.map Pending.items).flatten

@[simp]
theorem content_nil : content ([] : List (Pending α)) = [] :=
  rfl

@[simp]
theorem content_append (runs runs' : List (Pending α)) :
    content (runs ++ runs') = content runs' ++ content runs := by
  simp [content]

@[simp]
theorem content_cons (run : Pending α) (runs : List (Pending α)) :
    content (run :: runs) = content runs ++ run.items := by
  simp [content]

-- Ascending runs hold the items of a row, and those that share a place as they stood.
structure Covers (place : α → β) (base : List α) (runs : List (Pending α)) : Prop where
  ascend : ∀ run ∈ runs, Ascends place run.items
  stable : Stable place base (content runs)

theorem Covers.nil : Covers place [] [] :=
  ⟨fun _ => nofun, .refl []⟩

theorem Covers.cons (h : Covers place base runs) (depth : Nat) {run taken : List α}
    (hrun : Ascends place run) (hstable : Stable place taken run) :
    Covers place (base ++ taken) (⟨run, depth⟩ :: runs) := by
  refine ⟨List.forall_mem_cons.mpr ⟨hrun, h.ascend⟩, ?_⟩
  rw [content_cons]
  exact h.stable.append hstable

-- Two neighbouring runs become one where they stand.
theorem Covers.exists_merge (after : List (Pending α))
    (h : Covers place base (after ++ later :: earlier :: others))
    (hbase : Comparable lt place base) (patience : Nat) :
    ∃ items rest, merge lt patience earlier.items later.items = .ok (items, rest) ∧
      ∀ depth, Covers place base (after ++ ⟨items, depth⟩ :: others) := by
  obtain ⟨hafter, hlater, hearlier, hothers⟩ : _ ∧ _ ∧ _ ∧ _ := by
    simpa only [List.forall_mem_append, List.forall_mem_cons] using h.ascend
  have hstable := h.stable
  simp only [content_append, content_cons] at hstable
  obtain ⟨items, rest, hmerge, hitems, hmerged⟩ := Sorting.exists_merge patience hearlier hlater
    fun a ha b hb => (hbase.stable hstable).left.across (List.mem_append_right _ ha) hb
  refine ⟨items, rest, hmerge, fun depth => ⟨?_, hstable.trans ?_⟩⟩
  · simpa only [List.forall_mem_append, List.forall_mem_cons] using ⟨hafter, hitems, hothers⟩
  · have hplaced := ((Stable.refl (content others)).append hmerged).append (.refl (content after))
    simpa only [content_append, content_cons, List.append_assoc] using hplaced

theorem Covers.exists_mergeDeeper {latest : Pending α} (h : Covers place base (latest :: others))
    (hbase : Comparable lt place base) (depth patience : Nat) :
    ∃ runs rest, mergeDeeper lt depth patience latest others = .ok (runs, rest) ∧
      Covers place base runs := by
  induction others generalizing patience latest with
  | nil => exact ⟨[latest], patience, rfl, h⟩
  | cons earlier others ih =>
      by_cases hdeeper : depth < latest.depth
      · obtain ⟨items, rest, hmerge, hcovers⟩ := h.exists_merge [] hbase patience
        obtain ⟨runs, rest', hruns, h'⟩ := ih (hcovers earlier.depth) rest
        exact ⟨runs, rest', (if_pos hdeeper).trans (bind_eq_ok.mpr ⟨_, hmerge, hruns⟩), h'⟩
      · exact ⟨_, patience, if_neg hdeeper, h⟩

theorem Covers.exists_mergeAll {runs : List (Pending α)} (h : Covers place base runs)
    (hbase : Comparable lt place base) (patience : Nat) :
    ∃ items, mergeAll lt patience runs = .ok items ∧ Ascends place items ∧
      Stable place base items := by
  match runs with
  | [] => exact ⟨[], mergeAll.eq_1 .., .nil, h.stable⟩
  | [run] =>
      refine ⟨run.items, mergeAll.eq_2 .., h.ascend run List.mem_cons_self, ?_⟩
      simpa using h.stable
  | [latest, earlier] =>
      obtain ⟨items, rest, hmerge, hcovers⟩ := h.exists_merge [] hbase patience
      refine ⟨items, ?_, ?_, ?_⟩
      · rw [mergeAll, hmerge]
        rfl
      · exact (hcovers 0).ascend _ List.mem_cons_self
      · simpa using (hcovers 0).stable
  | latest :: earlier :: earliest :: others =>
      by_cases hshorter : earliest.items.length < latest.items.length
      · obtain ⟨items, rest, hmerge, hcovers⟩ := h.exists_merge [latest] hbase patience
        obtain ⟨sorted, hsorted, h'⟩ := (hcovers earliest.depth).exists_mergeAll hbase rest
        refine ⟨sorted, ?_, h'⟩
        rw [mergeAll, if_pos hshorter, hmerge]
        exact hsorted
      · obtain ⟨items, rest, hmerge, hcovers⟩ := h.exists_merge [] hbase patience
        obtain ⟨sorted, hsorted, h'⟩ := (hcovers earlier.depth).exists_mergeAll hbase rest
        refine ⟨sorted, ?_, h'⟩
        rw [mergeAll, if_neg hshorter, hmerge]
        exact hsorted
termination_by runs.length

theorem exists_collect (count : Nat) {more : Nat} (position patience : Nat)
    (hmore : items.length ≤ more) (h : Covers place base runs)
    (hbase : Comparable lt place (base ++ items)) :
    ∃ sorted, collect lt count more position patience runs items = .ok sorted ∧
      Ascends place sorted ∧ Stable place (base ++ items) sorted := by
  induction more generalizing position patience base runs items with
  | zero =>
      obtain rfl := List.length_eq_zero_iff.mp (Nat.le_zero.mp hmore)
      rw [List.append_nil] at hbase ⊢
      exact h.exists_mergeAll hbase patience
  | succ more ih =>
      cases items with
      | nil =>
          rw [List.append_nil] at hbase ⊢
          exact h.exists_mergeAll hbase patience
      | cons item items =>
          obtain ⟨run, taken, rest, hrun, htaken, hascends, hstable, hsome⟩ :=
            exists_nextRun (shortestRun count false) hbase.right
          have hless : rest.length ≤ more := by
            have hpositive := List.length_pos_of_ne_nil (hsome nofun)
            have hlengths := congrArg List.length htaken
            rw [List.length_append] at hlengths
            simp only [List.length_cons] at hlengths hmore
            omega
          have hsplit : base ++ item :: items = base ++ taken ++ rest := by
            rw [htaken, List.append_assoc]
          rw [hsplit] at hbase ⊢
          cases runs with
          | nil =>
              obtain ⟨sorted, hsorted, h'⟩ :=
                ih (position + run.length) patience hless (h.cons 0 hascends hstable) hbase
              exact ⟨sorted, bind_eq_ok.mpr ⟨_, hrun, hsorted⟩, h'⟩
          | cons latest others =>
              let depth := boundaryDepth count (2 * position - latest.items.length)
                (2 * position + run.length) count
              obtain ⟨runs, patience', hruns, hcovers⟩ :=
                h.exists_mergeDeeper hbase.left.left depth patience
              obtain ⟨sorted, hsorted, h'⟩ := ih (position + run.length) patience' hless
                (hcovers.cons depth hascends hstable) hbase
              exact ⟨sorted, bind_eq_ok.mpr ⟨_, hrun, bind_eq_ok.mpr ⟨_, hruns, hsorted⟩⟩, h'⟩

-- Where no comparison fails, the items come out in ascending order, equal ones as they stood.
theorem exists_sort (h : Comparable lt place items) : ∃ sorted, sort lt items = .ok sorted ∧
    sorted.Perm items ∧ Ascends place sorted ∧ Stable place items sorted := by
  obtain ⟨sorted, hsort, hascends, hstable⟩ := exists_collect items.length 0 7 le_rfl .nil h
  exact ⟨sorted, hsort, hstable.perm, hascends, hstable⟩

end FractionCalculator.Sorting
