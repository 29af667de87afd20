import FractionCalculator.Proofs.Sorting.Run
import FractionCalculator.Sorting.Merge

namespace FractionCalculator.Sorting

variable {α β ε : Type} [LinearOrder β]

namespace Merging

variable {place : α → β} {otherFirst : α → α → Except ε Bool} {base : List α} {m : Merging α}

-- What stays true in the course of a merge. The base is what there was to merge, the kept run
-- before the other one.
structure Progress (otherFirst : α → α → Except ε Bool) (place : α → β) (base : List α)
    (m : Merging α) : Prop where
  compares : ∀ kept ∈ m.kept, ∀ other ∈ m.others,
    otherFirst kept other = .ok (decide (place other < place kept))
  kept_ascends : Ascends place (m.placed.reverse ++ m.kept)
  others_ascend : Ascends place (m.placed.reverse ++ m.others)
  last : ∀ last ∈ m.kept.getLast?, ∀ other ∈ m.others, place other < place last
  stable : Stable place base (m.placed.reverse ++ m.kept ++ m.others)

def remaining (m : Merging α) : Nat :=
  m.kept.length + m.others.length

theorem remaining_placeKept_le (m : Merging α) (count : Nat) :
    (m.placeKept count).remaining ≤ m.remaining :=
  Nat.add_le_add_right (List.drop_sublist count m.kept).length_le _

theorem remaining_placeOthers_le (m : Merging α) (count : Nat) :
    (m.placeOthers count).remaining ≤ m.remaining :=
  Nat.add_le_add_left (List.drop_sublist count m.others).length_le _

-- A stride ends the merge or places an item.
structure Advances (otherFirst : α → α → Except ε Bool) (place : α → β) (base : List α)
    (m next : Merging α) : Prop where
  progress : Progress otherFirst place base next
  shorter : next.finished = true ∨ next.remaining < m.remaining

-- A way to stride that always advances.
def Sound (otherFirst : α → α → Except ε Bool) (place : α → β) (base : List α)
    (stride : Merging α → Except ε (Nat × Merging α)) : Prop :=
  ∀ m, Progress otherFirst place base m →
    ∃ count next, stride m = .ok (count, next) ∧ Advances otherFirst place base m next

namespace Progress

theorem placeKept (h : Progress otherFirst place base m) {count : Nat}
    (hfirst : ∀ kept ∈ m.kept.take count, ∀ other ∈ m.others, place kept ≤ place other) :
    Progress otherFirst place base (m.placeKept count) := by
  have hplaced : (m.placeKept count).placed.reverse = m.placed.reverse ++ m.kept.take count := by
    simp [Merging.placeKept]
  have hrow : (m.placeKept count).placed.reverse ++ (m.placeKept count).kept =
      m.placed.reverse ++ m.kept := by
    rw [hplaced, List.append_assoc]
    exact congrArg _ (List.take_append_drop count m.kept)
  obtain ⟨-, hothers, hacross⟩ := ascends_append.mp h.others_ascend
  constructor
  case compares =>
    intro kept hkept
    exact h.compares kept (List.mem_of_mem_drop hkept)
  case kept_ascends =>
    rw [hrow]
    exact h.kept_ascends
  case others_ascend =>
    have hleft := h.kept_ascends
    rw [← hrow] at hleft
    refine ascends_append.mpr ⟨(ascends_append.mp hleft).1, hothers, fun a ha b hb => ?_⟩
    rw [hplaced] at ha
    rcases List.mem_append.mp ha with ha | ha
    · exact hacross a ha b hb
    · exact hfirst a ha b hb
  case last =>
    intro last hlast
    have hdrop : last ∈ (m.kept.drop count).getLast? := hlast
    rw [List.getLast?_drop] at hdrop
    split_ifs at hdrop
    · cases hdrop
    · exact h.last last hdrop
  case stable =>
    rw [hrow]
    exact h.stable

theorem placeOthers (h : Progress otherFirst place base m) {count : Nat}
    (hfirst : ∀ other ∈ m.others.take count, ∀ kept ∈ m.kept, place other < place kept) :
    Progress otherFirst place base (m.placeOthers count) := by
  have hplaced : (m.placeOthers count).placed.reverse =
      m.placed.reverse ++ m.others.take count := by
    simp [Merging.placeOthers]
  have hrow : (m.placeOthers count).placed.reverse ++ (m.placeOthers count).others =
      m.placed.reverse ++ m.others := by
    rw [hplaced, List.append_assoc]
    exact congrArg _ (List.take_append_drop count m.others)
  obtain ⟨-, hkept, hacross⟩ := ascends_append.mp h.kept_ascends
  constructor
  case compares =>
    intro kept hkept other hother
    exact h.compares kept hkept other (List.mem_of_mem_drop hother)
  case kept_ascends =>
    have hleft := h.others_ascend
    rw [← hrow] at hleft
    refine ascends_append.mpr ⟨(ascends_append.mp hleft).1, hkept, fun a ha b hb => ?_⟩
    rw [hplaced] at ha
    rcases List.mem_append.mp ha with ha | ha
    · exact hacross a ha b hb
    · exact (hfirst a ha b hb).le
  case others_ascend =>
    rw [hrow]
    exact h.others_ascend
  case last =>
    intro last hlast other hother
    exact h.last last hlast other (List.mem_of_mem_drop hother)
  case stable =>
    -- the kept run moves behind the others that are placed
    have hswap : Stable place (m.kept ++ m.others.take count) (m.others.take count ++ m.kept) :=
      .swap fun a ha b hb => (hfirst b hb a ha).ne'
    have hmoved := ((Stable.refl m.placed.reverse).append hswap).append
      (.refl (m.others.drop count))
    change Stable place base
      ((m.placeOthers count).placed.reverse ++ m.kept ++ m.others.drop count)
    rw [hplaced]
    refine h.stable.trans ?_
    simpa only [List.append_assoc, List.take_append_drop] using hmoved

theorem placeFirstKept (h : Progress otherFirst place base m) {first : α} {kept : List α}
    (hkept : m.kept = first :: kept) (hfirst : ∀ other ∈ m.others, place first ≤ place other) :
    Progress otherFirst place base (m.placeKept 1) ∧ (m.placeKept 1).remaining < m.remaining := by
  constructor
  · refine h.placeKept fun a ha => ?_
    rw [hkept, List.take_succ_cons, List.take_zero, List.mem_singleton] at ha
    rw [ha]
    exact hfirst
  · simp [remaining, Merging.placeKept, hkept]

theorem placeFirstOther (h : Progress otherFirst place base m) {first : α} {others : List α}
    (hothers : m.others = first :: others) (hfirst : ∀ kept ∈ m.kept, place first < place kept) :
    Progress otherFirst place base (m.placeOthers 1) ∧
      (m.placeOthers 1).remaining < m.remaining := by
  constructor
  · refine h.placeOthers fun a ha => ?_
    rw [hothers, List.take_succ_cons, List.take_zero, List.mem_singleton] at ha
    rw [ha]
    exact hfirst
  · simp [remaining, Merging.placeOthers, hothers]

-- What is left of either run comes behind all that is placed.
theorem result (h : Progress otherFirst place base m) (hfinished : m.finished = true) :
    Ascends place m.result ∧ Stable place base m.result := by
  have hbefore : ∀ kept ∈ m.kept, ∀ other ∈ m.others, place other < place kept := by
    intro kept hkept other hother
    simp only [finished, Bool.or_eq_true, List.isEmpty_iff, decide_eq_true_eq] at hfinished
    rcases hfinished with hnone | hshort
    · rw [hnone] at hother
      cases hother
    · obtain ⟨only, honly⟩ := List.length_eq_one_iff.mp
        (Nat.le_antisymm hshort (List.length_pos_of_mem hkept))
      refine h.last kept ?_ other hother
      rw [honly] at hkept ⊢
      exact congrArg some (List.mem_singleton.mp hkept).symm
  obtain ⟨-, hkept, hacross⟩ := ascends_append.mp h.kept_ascends
  constructor
  · refine ascends_append.mpr ⟨h.others_ascend, hkept, fun a ha b hb => ?_⟩
    rcases List.mem_append.mp ha with ha | ha
    · exact hacross a ha b hb
    · exact (hbefore b hb a ha).le
  · have hswap : Stable place (m.kept ++ m.others) (m.others ++ m.kept) :=
      .swap fun a ha b hb => (hbefore a ha b hb).ne'
    have hmoved := (Stable.refl m.placed.reverse).append hswap
    rw [← List.append_assoc, ← List.append_assoc] at hmoved
    exact h.stable.trans hmoved

theorem ascends_kept (h : Progress otherFirst place base m) : Ascends place m.kept :=
  (ascends_append.mp h.kept_ascends).2.1

theorem ascends_others (h : Progress otherFirst place base m) : Ascends place m.others :=
  (ascends_append.mp h.others_ascend).2.1

end Progress

theorem sound_strideKept (course : Course) :
    Sound otherFirst place base (strideKept course otherFirst) := by
  intro m h
  cases hothers : m.others with
  | nil =>
      refine ⟨0, m, ?_, h, .inl ?_⟩
      · rw [strideKept, hothers]
        rfl
      · rw [finished, hothers]
        rfl
  | cons other others =>
      have hother : other ∈ m.others := by
        rw [hothers]
        exact List.mem_cons_self
      have hascend := h.ascends_others
      rw [hothers] at hascend
      obtain ⟨count, hturns⟩ := exists_turns_le h.ascends_kept other
      have hgallop : gallop course (fun kept => (otherFirst kept other).map (!·)) m.kept =
          .ok count :=
        gallop_eq course hturns fun kept hkept => by
          rw [h.compares kept hkept other hother]
          rfl
      have hplaced : Progress otherFirst place base (m.placeKept count) := by
        refine h.placeKept fun kept hkept other' hother' => ?_
        have hle : place kept ≤ place other := by simpa using hturns.passes kept hkept
        exact hle.trans (hascend.head_le other' (hothers ▸ hother'))
      have hstride : m.strideKept course otherFirst = .ok (count,
          if (m.placeKept count).finished then m.placeKept count
          else (m.placeKept count).placeOthers 1) := by
        rw [strideKept, hothers]
        exact bind_eq_ok.mpr ⟨count, hgallop, rfl⟩
      refine ⟨count, _, hstride, ?_⟩
      split_ifs with hfinished
      · exact ⟨hplaced, .inl hfinished⟩
      · obtain ⟨hnext, hshorter⟩ := hplaced.placeFirstOther hothers fun kept hkept => by
          simpa using hturns.fails kept hkept
        exact ⟨hnext, .inr (hshorter.trans_le (m.remaining_placeKept_le count))⟩

theorem sound_strideOthers (course : Course) :
    Sound otherFirst place base (strideOthers course otherFirst) := by
  intro m h
  cases hkept : m.kept with
  | nil =>
      refine ⟨0, m, ?_, h, .inl ?_⟩
      · rw [strideOthers, hkept]
        rfl
      · simp [finished, hkept]
  | cons kept keptRest =>
      have hmem : kept ∈ m.kept := by
        rw [hkept]
        exact List.mem_cons_self
      have hascend := h.ascends_kept
      rw [hkept] at hascend
      obtain ⟨count, hturns⟩ := exists_turns_lt h.ascends_others kept
      have hgallop : gallop course (otherFirst kept) m.others = .ok count :=
        gallop_eq course hturns (h.compares kept hmem)
      have hplaced : Progress otherFirst place base (m.placeOthers count) := by
        refine h.placeOthers fun other hother kept' hkept' => ?_
        have hlt : place other < place kept := by simpa using hturns.passes other hother
        exact hlt.trans_le (hascend.head_le kept' (hkept ▸ hkept'))
      have hstride : m.strideOthers course otherFirst = .ok (count,
          if (m.placeOthers count).finished then m.placeOthers count
          else (m.placeOthers count).placeKept 1) := by
        rw [strideOthers, hkept]
        exact bind_eq_ok.mpr ⟨count, hgallop, rfl⟩
      refine ⟨count, _, hstride, ?_⟩
      split_ifs with hfinished
      · exact ⟨hplaced, .inl hfinished⟩
      · obtain ⟨hnext, hshorter⟩ := hplaced.placeFirstKept hkept fun other hother => by
          simpa using hturns.fails other hother
        exact ⟨hnext, .inr (hshorter.trans_le (m.remaining_placeOthers_le count))⟩

theorem Progress.exists_inTurn {first second : Merging α → Except ε (Nat × Merging α)}
    (hfirst : Sound otherFirst place base first) (hsecond : Sound otherFirst place base second)
    (h : Progress otherFirst place base m) : ∃ long next, m.inTurn first second = .ok (long, next) ∧
      Advances otherFirst place base m next := by
  obtain ⟨count, between, hbetween, hprogress, hshorter⟩ := hfirst m h
  rw [inTurn, hbetween]
  change ∃ long next, (if between.finished = true then _ else _) = _ ∧ _
  split_ifs with hfinished
  · exact ⟨false, between, rfl, hprogress, .inl hfinished⟩
  · obtain ⟨count', next, hnext, hprogress', hshorter'⟩ := hsecond between hprogress
    rw [hnext]
    refine ⟨_, next, rfl, hprogress', hshorter'.imp_right fun hlt => ?_⟩
    exact hlt.trans (hshorter.resolve_left hfinished)

theorem Progress.exists_strides (course : Course) (h : Progress otherFirst place base m) :
    ∃ long next, strides course otherFirst m = .ok (long, next) ∧
      Advances otherFirst place base m next := by
  cases course with
  | forward => exact h.exists_inTurn (sound_strideKept .forward) (sound_strideOthers .forward)
  | backward => exact h.exists_inTurn (sound_strideOthers .backward) (sound_strideKept .backward)

theorem exists_of_not_finished (h : ¬ m.finished = true) :
    ∃ first second kept other others, m.kept = first :: second :: kept ∧
      m.others = other :: others := by
  obtain ⟨kept, others, placed⟩ := m
  match kept, others with
  | [], _ => simp [finished] at h
  | [_], _ => simp [finished] at h
  | _, [] => simp [finished] at h
  | first :: second :: kept, other :: others => exact ⟨first, second, kept, other, others, rfl, rfl⟩

theorem run_of_finished (course : Course) (rounds : Nat) (pace : Pace) (patience : Nat)
    (h : m.finished = true) :
    run course otherFirst rounds pace patience m = .ok (m.result, patience) := by
  cases rounds with
  | zero => rfl
  | succ rounds =>
      cases pace with
      | walk otherGave inRow =>
          rw [run]
          split
          · rename_i hkept hothers
            simp [finished, hkept, hothers] at h
          · rfl
      | stride =>
          rw [run, if_pos h]
          rfl

-- The lower of the two first items is placed, and of two that share a place the kept one.
theorem Progress.walk (h : Progress otherFirst place base m) {first other : α}
    {kept others : List α} (hkept : m.kept = first :: kept) (hothers : m.others = other :: others) :
    otherFirst first other = .ok (decide (place other < place first)) ∧
      Progress otherFirst place base
        (if decide (place other < place first) then m.placeOthers 1 else m.placeKept 1) ∧
      (if decide (place other < place first) then m.placeOthers 1 else m.placeKept 1).remaining <
        m.remaining := by
  have hkeptAscends := h.ascends_kept
  have hothersAscend := h.ascends_others
  rw [hkept] at hkeptAscends
  rw [hothers] at hothersAscend
  refine ⟨h.compares first (hkept ▸ List.mem_cons_self) other (hothers ▸ List.mem_cons_self), ?_⟩
  split_ifs with hbefore
  · rw [decide_eq_true_eq] at hbefore
    exact h.placeFirstOther hothers fun a ha =>
      hbefore.trans_le (hkeptAscends.head_le a (hkept ▸ ha))
  · rw [decide_eq_true_eq, not_lt] at hbefore
    exact h.placeFirstKept hkept fun b hb =>
      hbefore.trans (hothersAscend.head_le b (hothers ▸ hb))

-- Each round places an item or is the last.
theorem Progress.exists_run (course : Course) {rounds : Nat} (pace : Pace) (patience : Nat)
    (h : Progress otherFirst place base m) (hrounds : m.remaining ≤ rounds) :
    ∃ items left, run course otherFirst rounds pace patience m = .ok (items, left) ∧
      Ascends place items ∧ Stable place base items := by
  induction rounds generalizing m pace patience with
  | zero =>
      have hfinished : m.finished = true := by
        by_contra hnot
        obtain ⟨first, second, kept, other, others, hkept, -⟩ := exists_of_not_finished hnot
        simp [remaining, hkept] at hrounds
      exact ⟨_, _, run_of_finished course 0 pace patience hfinished, h.result hfinished⟩
  | succ rounds ih =>
      by_cases hfinished : m.finished = true
      · exact ⟨_, _, run_of_finished course _ pace patience hfinished, h.result hfinished⟩
      · cases pace with
        | walk otherGave inRow =>
            obtain ⟨first, second, kept, other, others, hkept, hothers⟩ :=
              exists_of_not_finished hfinished
            obtain ⟨hcompares, hprogress, hshorter⟩ := h.walk hkept hothers
            rw [run]
            simp only [hkept, hothers, hcompares]
            exact ih _ _ hprogress (by omega)
        | stride =>
            obtain ⟨long, next, hstrides, hprogress, hshorter⟩ := h.exists_strides course
            rw [run, if_neg hfinished]
            rw [hstrides]
            change ∃ items left, (if next.finished = true then _ else _) = _ ∧ _
            by_cases hnext : next.finished = true
            · rw [if_pos hnext]
              exact ⟨_, _, rfl, hprogress.result hnext⟩
            · have hless := hshorter.resolve_left hnext
              rw [if_neg hnext]
              cases long with
              | true => exact ih _ _ hprogress (by omega)
              | false => exact ih _ _ hprogress (by omega)

-- A merge that starts with the first of the others.
theorem exists_run_placeOthers (course : Course) {kept others : List α} (patience : Nat)
    {rounds : Nat} (hrounds : kept.length + others.length ≤ rounds)
    (hkept : Ascends place kept) (hothers : Ascends place others)
    (hcompares : ∀ a ∈ kept, ∀ b ∈ others, otherFirst a b = .ok (decide (place b < place a)))
    (hfirst : ∀ first ∈ others.head?, ∀ a ∈ kept, place first < place a)
    (hlast : ∀ last ∈ kept.getLast?, ∀ b ∈ others, place b < place last) :
    ∃ items left,
      ((⟨kept, others, []⟩ : Merging α).placeOthers 1).run course otherFirst rounds (.walk false 0)
        patience = .ok (items, left) ∧
      Ascends place items ∧ Stable place (kept ++ others) items := by
  have hstart : Progress otherFirst place (kept ++ others) ⟨kept, others, []⟩ :=
    ⟨hcompares, hkept, hothers, hlast, .refl _⟩
  refine (hstart.placeOthers fun b hb a ha => ?_).exists_run course _ patience
    ((remaining_placeOthers_le _ 1).trans hrounds)
  cases others with
  | nil => cases hb
  | cons first others =>
      rw [List.take_succ_cons, List.take_zero, List.mem_singleton] at hb
      rw [hb]
      exact hfirst first rfl a ha

end Merging

variable {place : α → β} {lt : α → α → Except ε Bool} {left right : List α}

theorem exists_mergeCrossed (patience : Nat) (hleft : Ascends place left)
    (hright : Ascends place right) (hcompares : ∀ a ∈ left, ∀ b ∈ right, Compares lt place a b)
    (hfirst : ∀ first ∈ right.head?, ∀ a ∈ left, place first < place a)
    (hlast : ∀ last ∈ left.getLast?, ∀ b ∈ right, place b < place last) :
    ∃ items rest, mergeCrossed lt patience left right = .ok (items, rest) ∧
      Ascends place items ∧ Stable place (left ++ right) items := by
  unfold mergeCrossed
  split_ifs
  · exact Merging.exists_run_placeOthers .forward patience le_rfl hleft hright
      (fun a ha b hb => (hcompares a ha b hb).2) hfirst hlast
  · have hends : ∀ b ∈ right.reverse, ∀ a ∈ left.reverse,
        lt b a = .ok (decide (place b < place a)) := fun b hb a ha =>
      (hcompares a (List.mem_reverse.mp ha) b (List.mem_reverse.mp hb)).2
    obtain ⟨items, rest, hrun, hascends, hstable⟩ :=
      Merging.exists_run_placeOthers .backward patience
        (by simp [Nat.add_comm] : _ ≤ left.length + right.length)
        hright.reverse hleft.reverse hends
        (fun first h b hb => hlast first (by simpa using h) b (by simpa using hb))
        (fun last h a ha => hfirst last (by simpa using h) a (by simpa using ha))
    have hturned : Stable place (right.reverse ++ left.reverse) items := hstable
    refine ⟨items.reverse, rest, bind_eq_ok.mpr ⟨_, hrun, rfl⟩, hascends.reverse, ?_⟩
    simpa using hturned.reverse

-- What the left run holds up to an item of the right one.
theorem exists_below (hleft : Ascends place left) {first : α}
    (hcompares : ∀ a ∈ left, Compares lt place a first) :
    ∃ below, gallop .forward (fun item => (lt first item).map (!·)) left = .ok below ∧
      (∀ a ∈ left.take below, place a ≤ place first) ∧
      ∀ a ∈ left.drop below, place first < place a := by
  obtain ⟨below, hturns⟩ := exists_turns_le hleft first
  refine ⟨below, gallop_eq .forward hturns fun a ha => ?_, fun a ha => ?_, fun a ha => ?_⟩
  · rw [(hcompares a ha).2]
    rfl
  · simpa using hturns.passes a ha
  · simpa using hturns.fails a ha

-- What the right run holds from an item of the left one on.
theorem exists_above (hright : Ascends place right) {last : α}
    (hcompares : ∀ b ∈ right, Compares lt place last b) :
    ∃ above, gallop .backward (fun item => (lt item last).map (!·)) right.reverse = .ok above ∧
      (∀ b ∈ right.take (right.length - above), place b < place last) ∧
      ∀ b ∈ right.drop (right.length - above), place last ≤ place b := by
  obtain ⟨above, hturns⟩ := exists_turns_le hright.reverse last
  refine ⟨above, gallop_eq .backward hturns fun b hb => ?_, fun b hb => ?_, fun b hb => ?_⟩
  · rw [(hcompares b (List.mem_reverse.mp hb)).2]
    rfl
  · rw [← List.mem_reverse, ← List.drop_reverse] at hb
    simpa using hturns.fails b hb
  · rw [← List.mem_reverse, ← List.take_reverse] at hb
    simpa using hturns.passes b hb

-- What is cut off both runs goes round what is merged.
theorem exists_mergeCrossed_between (patience : Nat) {low high under beyond : List α}
    {first last : α} (hleft : Ascends place (low ++ high))
    (hright : Ascends place (under ++ beyond))
    (hcompares : ∀ a ∈ high, ∀ b ∈ under, Compares lt place a b)
    (hfirst : (under ++ beyond).head? = some first) (hlast : (low ++ high).getLast? = some last)
    (hlow : ∀ a ∈ low, place a ≤ place first) (hhigh : ∀ a ∈ high, place first < place a)
    (hunder : ∀ b ∈ under, place b < place last) (hbeyond : ∀ b ∈ beyond, place last ≤ place b) :
    ∃ items rest, mergeCrossed lt patience high under = .ok (items, rest) ∧
      Ascends place (low ++ items ++ beyond) ∧
      Stable place (low ++ high ++ (under ++ beyond)) (low ++ items ++ beyond) := by
  obtain ⟨hlows, hhighs, hlefts⟩ := ascends_append.mp hleft
  obtain ⟨hunders, hbeyonds, hrights⟩ := ascends_append.mp hright
  have hbehind : ∀ b ∈ under ++ beyond, place first ≤ place b := by
    obtain ⟨tail, htail⟩ := List.head?_eq_some_iff.mp hfirst
    rw [htail] at hright ⊢
    exact hright.head_le
  obtain ⟨items, rest, hmerge, hitems, hstable⟩ :=
    exists_mergeCrossed patience hhighs hunders hcompares
      (fun b hb => by
        obtain rfl : b = first := by simpa [List.head?_append, Option.mem_def.mp hb] using hfirst
        exact hhigh)
      (fun a ha => by
        obtain rfl : a = last := by simpa [List.getLast?_append, Option.mem_def.mp ha] using hlast
        exact hunder)
  refine ⟨items, rest, hmerge, ?_, ?_⟩
  · refine ascends_append.mpr ⟨ascends_append.mpr ⟨hlows, hitems, fun a ha b hb => ?_⟩, hbeyonds,
      fun a ha b hb => ?_⟩
    · rcases List.mem_append.mp (hstable.mem_iff.mp hb) with hb | hb
      · exact hlefts a ha b hb
      · exact (hlow a ha).trans (hbehind b (List.mem_append_left beyond hb))
    · have hmem : a ∈ low ++ high ∨ a ∈ under := by
        rw [List.mem_append, hstable.mem_iff, List.mem_append] at ha
        rwa [List.mem_append, or_assoc]
      rcases hmem with ha | ha
      · exact (hleft.le_getLast hlast a ha).trans (hbeyond b hb)
      · exact hrights a ha b hb
  · have hplaced := ((Stable.refl low).append hstable).append (.refl beyond)
    simpa only [List.append_assoc] using hplaced

theorem exists_merge (patience : Nat) (hleft : Ascends place left) (hright : Ascends place right)
    (hcompares : ∀ a ∈ left, ∀ b ∈ right, Compares lt place a b) :
    ∃ items rest, merge lt patience left right = .ok (items, rest) ∧ Ascends place items ∧
      Stable place (left ++ right) items := by
  cases right with
  | nil =>
      refine ⟨left, patience, rfl, hleft, ?_⟩
      rw [List.append_nil]
      exact .refl left
  | cons first tail =>
      obtain ⟨below, hbelow, hlow, hhigh⟩ :=
        exists_below hleft fun a ha => hcompares a ha first List.mem_cons_self
      rw [merge, hbelow]
      cases hlast : left.getLast? with
      | none =>
          rw [List.getLast?_eq_none_iff.mp hlast]
          exact ⟨_, _, rfl, hright, .refl _⟩
      | some last =>
          have hleLast := hleft.le_getLast hlast
          obtain ⟨above, habove, hunder, hbeyond⟩ :=
            exists_above hright (hcompares last (List.mem_of_getLast? hlast))
          by_cases hshort : left.length ≤ below
          · rw [List.take_of_length_le hshort] at hlow
            refine ⟨_, _, if_pos hshort, ascends_append.mpr ⟨hleft, hright, fun a ha b hb => ?_⟩,
              .refl _⟩
            exact (hlow a ha).trans (hright.head_le b hb)
          by_cases hapart : (first :: tail).length - above = 0
          · rw [hapart, List.drop_zero] at hbeyond
            refine ⟨_, _, (if_neg hshort).trans (bind_eq_ok.mpr ⟨above, habove, if_pos hapart⟩),
              ascends_append.mpr ⟨hleft, hright, fun a ha b hb => ?_⟩, .refl _⟩
            exact (hleLast a ha).trans (hbeyond b hb)
          have hleftSplit := List.take_append_drop below left
          have hrightSplit := List.take_append_drop ((first :: tail).length - above) (first :: tail)
          rw [← hleftSplit] at hleft hlast
          rw [← hrightSplit] at hright
          obtain ⟨items, rest, hcrossed, hascends, hstable⟩ :=
            exists_mergeCrossed_between patience hleft hright
              (fun a ha b hb => hcompares a (List.mem_of_mem_drop ha) b (List.mem_of_mem_take hb))
              (congrArg List.head? hrightSplit) hlast hlow hhigh hunder hbeyond
          rw [hleftSplit, hrightSplit] at hstable
          exact ⟨_, rest, (if_neg hshort).trans (bind_eq_ok.mpr ⟨above, habove,
            (if_neg hapart).trans (bind_eq_ok.mpr ⟨_, hcrossed, rfl⟩)⟩), hascends, hstable⟩

end FractionCalculator.Sorting
