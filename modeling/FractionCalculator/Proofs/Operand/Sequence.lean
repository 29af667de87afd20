import FractionCalculator.Operand.Sequence
import FractionCalculator.Proofs.Number.IntegerOrder
import FractionCalculator.Proofs.Sorting.Sort

namespace FractionCalculator.Operand

open Number

variable {a b : Operand} {x : Number} {k : Int} {o : Ordering} {relation : Relation}
  {items : List Operand}

-- Where an operand stands in a row that can be ordered. An integer stands at its value, however
-- large it is, and null comes last. What compares with no number, or only with null, may stand
-- anywhere before it.
def place : Operand → WithTop (WithBot (WithTop ℚ))
  | null => ⊤
  | other => ((other.wide?.bind position?).getD ⊥ : WithBot (WithTop ℚ))

theorem place_of_position? {p : WithBot (WithTop ℚ)} (hp : x.position? = some p) :
    (number x).place = p := by
  simp [place, wide?, hp]

theorem place_of_toInt? (hk : b.toInt? = some k) :
    b.place = (((k : ℚ) : WithTop ℚ) : WithBot (WithTop ℚ)) := by
  cases b <;> cases hk <;> simp [place, wide?, toInt?, position?]

-- An infinity compares in the same way with whatever it compares with at all.
theorem compare_infinite {negative : Bool} {y : Number}
    (h : (infinite negative).compare y = .ok o) : o = if negative then .lt else .gt := by
  cases y with
  | nan => cases h
  | infinite t => cases negative <;> cases t <;> cases h <;> rfl
  | finite num den => cases h; rfl

theorem eq_cmp_of_compare_ofInt (hx : x.Canonical) (hk : b.toInt? = some k)
    (h : x.compare (ofInt k) = .ok o) : o = cmp (number x).place b.place := by
  rw [place_of_toInt? hk]
  cases x with
  | nan => cases h
  | infinite negative =>
      rw [compare_infinite h]
      cases negative with
      | true =>
          rw [place_of_position? rfl, WithTop.coe_strictMono.cmp_map_eq]
          exact ((cmp_eq_lt_iff _ _).mpr (WithBot.bot_lt_coe _)).symm
      | false =>
          rw [place_of_position? rfl, WithTop.coe_strictMono.cmp_map_eq]
          exact ((cmp_eq_gt_iff _ _).mpr (WithBot.coe_lt_coe.mpr (WithTop.coe_lt_top _))).symm
  | finite num den =>
      rw [compare_ofInt hx rfl, Except.ok.injEq] at h
      rw [place_of_position? rfl, WithTop.coe_strictMono.cmp_map_eq,
        WithBot.coe_strictMono.cmp_map_eq, WithTop.coe_strictMono.cmp_map_eq]
      exact h.symm

def Canonical : Operand → Prop
  | number x => x.Canonical
  | _ => True

theorem eq_cmp_of_compareWith? (hx : x.Canonical) (hb : b.Canonical)
    (h : compareWith? x b = some (.ok o)) : o = cmp (number x).place b.place := by
  cases b with
  | number y =>
      obtain ⟨-, p, q, hp, hq, ho⟩ := (compare_eq_ok_iff hx hb).mp (Option.some.inj h)
      rw [place_of_position? hp, place_of_position? hq, WithTop.coe_strictMono.cmp_map_eq, ho]
  | integer k => exact eq_cmp_of_compare_ofInt hx rfl (Option.some.inj h)
  | truth t => exact eq_cmp_of_compare_ofInt hx rfl (Option.some.inj h)
  | null =>
      cases h
      exact ((cmp_eq_lt_iff _ _).mpr (WithTop.coe_lt_top _)).symm
  | _ => cases h

theorem order_number_eq_ok_iff :
    (number x).order relation b = .ok o ↔ compareWith? x b = some (.ok o) := by
  cases h : compareWith? x b <;> simp [order, h]

-- A number answers for an operand that is none, and its answer is turned round.
theorem order_eq_ok_iff_swap (hb : ∀ y, b ≠ number y) :
    b.order relation (number x) = .ok o ↔ (number x).order relation b = .ok o.swap := by
  have hswap : b.order relation (number x) =
      ((compareWith? x b).map (Except.map Ordering.swap)).getD
        (.error (.cannotOrder relation b (number x))) := by
    cases b with
    | number y => exact absurd rfl (hb y)
    | _ => rfl
  rw [hswap, order_number_eq_ok_iff]
  cases compareWith? x b with
  | none => simp
  | some answer => cases answer <;> simp [Except.map, Ordering.swap_eq_iff_eq_swap]

theorem order_number_eq_ok (hx : x.Canonical) (hb : b.Canonical)
    (h : (number x).order relation b = .ok o) :
    o = cmp (number x).place b.place ∧ b.order relation (number x) = .ok o.swap := by
  refine ⟨eq_cmp_of_compareWith? hx hb (order_number_eq_ok_iff.mp h), ?_⟩
  by_cases hnumber : ∃ y, b = number y
  · obtain ⟨y, rfl⟩ := hnumber
    have hcompare : x.compare y = .ok o := Option.some.inj (order_number_eq_ok_iff.mp h)
    exact order_number_eq_ok_iff.mpr (congrArg some (compare_swap hx hb hcompare))
  · rw [order_eq_ok_iff_swap fun y hy => hnumber ⟨y, hy⟩, Ordering.swap_swap]
    exact h

theorem order_eq_ok_iff_toInt? (ha : ∀ x, a ≠ number x) (hb : ∀ y, b ≠ number y) :
    a.order relation b = .ok o ↔
      ∃ m k, a.toInt? = some m ∧ b.toInt? = some k ∧ compare m k = o := by
  unfold order
  split
  · exact absurd rfl (ha _)
  · exact absurd rfl (hb _)
  · cases a.toInt? <;> cases b.toInt? <;> simp

theorem order_integers_eq_ok (ha : ∀ x, a ≠ number x) (hb : ∀ y, b ≠ number y)
    (h : a.order relation b = .ok o) :
    o = cmp a.place b.place ∧ b.order relation a = .ok o.swap := by
  obtain ⟨m, k, hm, hk, rfl⟩ := (order_eq_ok_iff_toInt? ha hb).mp h
  constructor
  · rw [place_of_toInt? hm, place_of_toInt? hk, WithTop.coe_strictMono.cmp_map_eq,
      WithBot.coe_strictMono.cmp_map_eq, WithTop.coe_strictMono.cmp_map_eq,
      Int.cast_strictMono.cmp_map_eq, cmp_eq_compare]
  · refine (order_eq_ok_iff_toInt? hb ha).mpr ⟨k, m, hk, hm, ?_⟩
    rw [← cmp_eq_compare, ← cmp_eq_compare, cmp_swap]

-- Operands that can be ordered are ordered as they stand, whichever of them is on the left.
theorem order_eq_ok (ha : a.Canonical) (hb : b.Canonical) (h : a.order relation b = .ok o) :
    o = cmp a.place b.place ∧ b.order relation a = .ok o.swap := by
  by_cases hleft : ∃ x, a = number x
  · obtain ⟨x, rfl⟩ := hleft
    exact order_number_eq_ok ha hb h
  · have hnone : ∀ x, a ≠ number x := fun x hx => hleft ⟨x, hx⟩
    by_cases hright : ∃ y, b = number y
    · obtain ⟨y, rfl⟩ := hright
      have hswap := (order_eq_ok_iff_swap hnone).mp h
      have hcmp := (order_number_eq_ok hb ha hswap).1
      rw [Ordering.swap_eq_iff_eq_swap, cmp_swap] at hcmp
      exact ⟨hcmp, hswap⟩
    · exact order_integers_eq_ok hnone (fun y hy => hright ⟨y, hy⟩) h

theorem isLT_cmp {β : Type} [LinearOrder β] (p q : β) : (cmp p q).isLT = decide (p < q) := by
  rw [Bool.eq_iff_iff, Ordering.isLT_iff_eq_lt, cmp_eq_lt_iff, decide_eq_true_iff]

theorem compares_of_holds (ha : a.Canonical) (hb : b.Canonical)
    (h : ∃ answer, Relation.lt.holds a b = .ok answer) :
    Sorting.Compares Relation.lt.holds place a b := by
  obtain ⟨answer, hanswer⟩ := h
  simp only [Sorting.Compares, Relation.holds] at hanswer ⊢
  cases horder : a.order .lt b with
  | error e =>
      rw [horder] at hanswer
      cases hanswer
  | ok o =>
      obtain ⟨rfl, hswap⟩ := order_eq_ok ha hb horder
      rw [hswap, cmp_swap, ← isLT_cmp, ← isLT_cmp]
      exact ⟨rfl, rfl⟩

-- Where any two items can be ordered, all of them are put in order: none comes behind one that it
-- is less than, and items that stand in one place keep their order.
theorem sort_ascends (hitems : ∀ x, number x ∈ items → Reachable x)
    (h : items.Pairwise fun a b => ∃ answer, Relation.lt.holds a b = .ok answer) :
    ∃ sorted, sort items = .ok sorted ∧ sorted.Perm items ∧
      (sorted.Pairwise fun a b => Relation.lt.holds b a = .ok false) ∧
      Sorting.Stable place items sorted := by
  have hcanonical : ∀ a ∈ items, a.Canonical := by
    intro a ha
    cases a with
    | number x => exact (hitems x ha).canonical
    | _ => trivial
  have hcompares : Sorting.Comparable Relation.lt.holds place items :=
    h.imp_of_mem fun ha hb => compares_of_holds (hcanonical _ ha) (hcanonical _ hb)
  obtain ⟨sorted, hsort, hperm, hascends, hstable⟩ := Sorting.exists_sort hcompares
  refine ⟨sorted, hsort, hperm, ?_, hstable⟩
  refine (List.pairwise_and_iff.mpr ⟨hascends, hcompares.perm hperm⟩).imp fun ⟨hle, hcompare⟩ => ?_
  rw [hcompare.2, decide_eq_false hle.not_gt]

theorem dedupe_append_singleton (items : List Operand) (a : Operand) : dedupe (items ++ [a]) =
    if (dedupe items).any (·.same a) then dedupe items else dedupe items ++ [a] := by
  rw [dedupe, List.foldl_append]
  rfl

-- Of the items that are the same as one before them none is left, and every other one is.
theorem dedupe_distinct (items : List Operand) : (dedupe items).Sublist items ∧
    (dedupe items).Pairwise (fun a b => a.same b = false) ∧
    ∀ a ∈ items, a ∈ dedupe items ∨ ∃ kept ∈ dedupe items, kept.same a = true := by
  induction items using List.reverseRecOn with
  | nil => exact ⟨.slnil, .nil, nofun⟩
  | append_singleton items a ih =>
      obtain ⟨hsublist, hdistinct, hkept⟩ := ih
      rw [dedupe_append_singleton]
      split_ifs with hsame
      · refine ⟨hsublist.trans (List.sublist_append_left items [a]), hdistinct, fun b hb => ?_⟩
        rcases List.mem_append.mp hb with hb | hb
        · exact hkept b hb
        · rw [List.mem_singleton.mp hb]
          exact .inr (List.any_eq_true.mp hsame)
      · have hnew : ∀ kept ∈ dedupe items, kept.same a = false := by simpa using hsame
        refine ⟨hsublist.append (.refl [a]), ?_, fun b hb => ?_⟩
        · refine List.pairwise_append.mpr ⟨hdistinct, List.pairwise_singleton .., ?_⟩
          simpa using hnew
        · rcases List.mem_append.mp hb with hb | hb
          · refine (hkept b hb).imp (List.mem_append_left _) ?_
            rintro ⟨kept, hmem, hsame⟩
            exact ⟨kept, List.mem_append_left _ hmem, hsame⟩
          · exact .inl (List.mem_append_right _ hb)

end FractionCalculator.Operand
