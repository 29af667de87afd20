import FractionCalculator.Operand.Operators
import FractionCalculator.Proofs.Number.Arithmetic
import FractionCalculator.Proofs.Reachable
import Mathlib.Order.Compare
import Mathlib.Order.WithBot

namespace FractionCalculator

def CalcError.IsInvalidOperation (e : CalcError) : Prop :=
  e.reportName? = some "InvalidOperationError"

namespace Number

-- Where a number stands on the line of fractions, which has an infinity at either end. NaN stands
-- nowhere.
def position? : Number → Option (WithBot (WithTop ℚ))
  | nan => none
  | infinite true => some ⊥
  | infinite false => some ⊤
  | finite num den => some ((num / den : ℚ) : WithTop ℚ)

def Incomparable (x y : Number) : Prop :=
  x = nan ∨ y = nan ∨ x = y ∧ x.isInfinite = true

variable {x y z : Number} {o : Ordering}

theorem Incomparable.symm (h : x.Incomparable y) : y.Incomparable x := by
  rcases h with rfl | rfl | ⟨rfl, hinfinite⟩
  · exact .inr (.inl rfl)
  · exact .inl rfl
  · exact .inr (.inr ⟨rfl, hinfinite⟩)

theorem position?_eq_none_iff : x.position? = none ↔ x = nan := by
  cases x with
  | infinite negative => cases negative <;> simp [position?]
  | _ => simp [position?]

theorem exists_position? (h : x ≠ nan) : ∃ a, x.position? = some a :=
  Option.ne_none_iff_exists'.mp (mt position?_eq_none_iff.mp h)

-- A position belongs to one number only: a fraction has one pair in lowest terms.
theorem Canonical.eq_of_position? (hx : x.Canonical) (hy : y.Canonical)
    (h : x.position? = y.position?) : x = y := by
  cases x with
  | nan => exact (position?_eq_none_iff.mp h.symm).symm
  | infinite s =>
      cases y with
      | nan => cases s <;> cases h
      | infinite t => cases s <;> cases t <;> simp_all [position?]
      | finite c d => cases s <;> cases h
  | finite a b =>
      cases y with
      | nan => cases h
      | infinite t => cases t <;> cases h
      | finite c d =>
          simp only [position?, Option.some.injEq, WithBot.coe_inj, WithTop.coe_inj] at h
          rw [← reduced_div hx, h, reduced_div hy]

-- Over positive denominators the crosswise products are ordered as the fractions are.
theorem compare_finite {a c : Int} {b d : Nat} (hx : (finite a b).Canonical)
    (hy : (finite c d).Canonical) :
    (finite a b).compare (finite c d) = .ok (cmp (a / b : ℚ) (c / d)) := by
  have hb : (0 : ℚ) < b := by exact_mod_cast hx.1
  have hd : (0 : ℚ) < d := by exact_mod_cast hy.1
  have hleft : ((a * d : Int) : ℚ) = a / b * (b * d) := by
    push_cast
    field_simp
  have hright : ((b * c : Int) : ℚ) = c / d * (b * d) := by
    push_cast
    field_simp
  refine congrArg Except.ok ?_
  calc Ord.compare (a * d) (b * c)
    _ = cmp (a * d) (b * c) := (cmp_eq_compare _ _).symm
    _ = cmp ((a * d : Int) : ℚ) ((b * c : Int) : ℚ) :=
        (Int.cast_strictMono.cmp_map_eq _ _).symm
    _ = cmp (a / b * (b * d) : ℚ) (c / d * (b * d)) := by rw [hleft, hright]
    _ = cmp (a / b : ℚ) (c / d) := cmp_mul_pos_right (mul_pos hb hd) _ _

theorem compare_eq_cmp {p q : WithBot (WithTop ℚ)} (hx : x.Canonical) (hy : y.Canonical)
    (hp : x.position? = some p) (hq : y.position? = some q) (h : ¬ x.Incomparable y) :
    x.compare y = .ok (cmp p q) := by
  cases x with
  | nan => cases hp
  | infinite s =>
      cases y with
      | nan => cases hq
      | infinite t =>
          have hne : s ≠ t := by
            rintro rfl
            exact h (.inr (.inr ⟨rfl, rfl⟩))
          cases s <;> cases t
          · exact absurd rfl hne
          · cases hp
            cases hq
            rfl
          · cases hp
            cases hq
            rfl
          · exact absurd rfl hne
      | finite c d => cases s <;> cases hp <;> cases hq <;> rfl
  | finite a b =>
      cases y with
      | nan => cases hq
      | infinite t => cases t <;> cases hp <;> cases hq <;> rfl
      | finite c d =>
          cases hp
          cases hq
          rw [compare_finite hx hy, WithBot.coe_strictMono.cmp_map_eq,
            WithTop.coe_strictMono.cmp_map_eq]

theorem compare_of_incomparable (h : x.Incomparable y) :
    ∃ e, x.compare y = .error e ∧ e.IsInvalidOperation := by
  rcases h with rfl | rfl | ⟨rfl, hinfinite⟩
  · exact ⟨_, rfl, rfl⟩
  · cases x <;> exact ⟨_, rfl, rfl⟩
  · cases x with
    | infinite negative => exact ⟨.infinitiesCompared, if_pos rfl, rfl⟩
    | _ => cases hinfinite

theorem compare_of_not_incomparable (hx : x.Canonical) (hy : y.Canonical)
    (h : ¬ x.Incomparable y) :
    ∃ p q, x.position? = some p ∧ y.position? = some q ∧ x.compare y = .ok (cmp p q) := by
  obtain ⟨p, hp⟩ := exists_position? fun hnan => h (.inl hnan)
  obtain ⟨q, hq⟩ := exists_position? fun hnan => h (.inr (.inl hnan))
  exact ⟨p, q, hp, hq, compare_eq_cmp hx hy hp hq h⟩

-- Only the positions of two numbers decide how they compare, as long as they can be compared.
theorem compare_eq_ok_iff (hx : x.Canonical) (hy : y.Canonical) :
    x.compare y = .ok o ↔ ¬ x.Incomparable y ∧
      ∃ p q, x.position? = some p ∧ y.position? = some q ∧ cmp p q = o := by
  by_cases h : x.Incomparable y
  · obtain ⟨e, he, -⟩ := compare_of_incomparable h
    rw [he]
    constructor
    · intro hok
      cases hok
    · exact fun hok => absurd h hok.1
  · obtain ⟨p, q, hp, hq, hcompare⟩ := compare_of_not_incomparable hx hy h
    rw [hcompare, Except.ok.injEq]
    constructor
    · exact fun ho => ⟨h, p, q, hp, hq, ho⟩
    · rintro ⟨-, p', q', hp', hq', ho⟩
      cases hp.symm.trans hp'
      cases hq.symm.trans hq'
      exact ho

theorem compare_swap (hx : x.Canonical) (hy : y.Canonical) (h : x.compare y = .ok o) :
    y.compare x = .ok o.swap := by
  obtain ⟨hcomparable, p, q, hp, hq, rfl⟩ := (compare_eq_ok_iff hx hy).mp h
  rw [cmp_swap]
  exact compare_eq_cmp hy hx hq hp fun h => hcomparable h.symm

theorem compare_eq_eq_iff (hx : x.Canonical) (hy : y.Canonical) (h : x.compare y = .ok o) :
    o = .eq ↔ x = y := by
  obtain ⟨-, p, q, hp, hq, rfl⟩ := (compare_eq_ok_iff hx hy).mp h
  rw [cmp_eq_eq_iff]
  constructor
  · rintro rfl
    exact hx.eq_of_position? hy (hp.trans hq.symm)
  · rintro rfl
    exact Option.some.inj (hp.symm.trans hq)

theorem cmp_then {α : Type} [LinearOrder α] {p q r : α} (hpq : cmp p q ≠ .gt)
    (hqr : cmp q r ≠ .gt) : cmp p r = (cmp p q).then (cmp q r) := by
  rw [ne_eq, cmp_eq_gt_iff, not_lt] at hpq hqr
  rcases hpq.lt_or_eq with hlt | rfl
  · rw [(cmp_eq_lt_iff p q).mpr hlt, (cmp_eq_lt_iff p r).mpr (hlt.trans_le hqr)]
    rfl
  · rw [cmp_self_eq_eq]
    rfl

-- Two numbers with one between them can be compared: were both the same infinity, so would be the
-- one between.
theorem compare_then {o₁ o₂ : Ordering} (hx : x.Canonical) (hy : y.Canonical) (hz : z.Canonical)
    (hxy : x.compare y = .ok o₁) (hyz : y.compare z = .ok o₂) (h₁ : o₁ ≠ .gt) (h₂ : o₂ ≠ .gt) :
    x.compare z = .ok (o₁.then o₂) := by
  obtain ⟨hcxy, p, q, hp, hq, rfl⟩ := (compare_eq_ok_iff hx hy).mp hxy
  obtain ⟨hcyz, q', r, hq', hr, rfl⟩ := (compare_eq_ok_iff hy hz).mp hyz
  cases hq.symm.trans hq'
  rw [← cmp_then h₁ h₂]
  refine compare_eq_cmp hx hz hp hr ?_
  rintro (rfl | rfl | ⟨rfl, hinfinite⟩)
  · exact hcxy (.inl rfl)
  · exact hcyz (.inr (.inl rfl))
  · cases hp.symm.trans hr
    rw [ne_eq, cmp_eq_gt_iff, not_lt] at h₁ h₂
    have hxy : x = y := hx.eq_of_position? hy (by rw [hp, hq, le_antisymm h₁ h₂])
    exact hcxy (.inr (.inr ⟨hxy, hinfinite⟩))

theorem swap_then_swap {o₁ o₂ : Ordering} (h₁ : o₁ ≠ .lt) (h₂ : o₂ ≠ .lt) :
    (o₂.swap.then o₁.swap).swap = o₁.then o₂ := by
  cases o₁ <;> cases o₂ <;> simp_all

-- Downwards the same, seen from the other side.
theorem compare_then_of_ne_lt {o₁ o₂ : Ordering} (hx : x.Canonical) (hy : y.Canonical)
    (hz : z.Canonical) (hxy : x.compare y = .ok o₁) (hyz : y.compare z = .ok o₂) (h₁ : o₁ ≠ .lt)
    (h₂ : o₂ ≠ .lt) : x.compare z = .ok (o₁.then o₂) := by
  have hzx := compare_then hz hy hx (compare_swap hy hz hyz) (compare_swap hx hy hxy)
    (by simpa using h₂) (by simpa using h₁)
  rw [compare_swap hz hx hzx, swap_then_swap h₁ h₂]

def Stands (relation : Relation) (x y : Number) : Prop :=
  relation.holds (.number x) (.number y) = .ok true

theorem stands_lt_iff (h : x.compare y = .ok o) : Stands .lt x y ↔ o = .lt := by
  have hlt : Relation.lt.holds (.number x) (.number y) = (x.compare y).map Ordering.isLT := rfl
  rw [Stands, hlt, h]
  cases o <;> simp [Except.map]

theorem stands_gt_iff (h : x.compare y = .ok o) : Stands .gt x y ↔ o = .gt := by
  have hgt : Relation.gt.holds (.number x) (.number y) = (x.compare y).map Ordering.isGT := rfl
  rw [Stands, hgt, h]
  cases o <;> simp [Except.map]

theorem stands_eq_iff : Stands .eq x y ↔ x = y := by
  simp [Stands, Relation.holds, Operand.same]

theorem existsUnique_stands (hx : x.Canonical) (hy : y.Canonical) (h : x.compare y = .ok o) :
    ∃! relation, relation ∈ [Relation.lt, .eq, .gt] ∧ Stands relation x y := by
  have heq := compare_eq_eq_iff hx hy h
  simp only [List.mem_cons, List.not_mem_nil, or_false]
  cases o with
  | lt =>
      refine ⟨.lt, ⟨.inl rfl, (stands_lt_iff h).mpr rfl⟩, ?_⟩
      rintro _ ⟨rfl | rfl | rfl, hstands⟩
      · rfl
      · exact nomatch heq.mpr (stands_eq_iff.mp hstands)
      · exact nomatch (stands_gt_iff h).mp hstands
  | eq =>
      refine ⟨.eq, ⟨.inr (.inl rfl), stands_eq_iff.mpr (heq.mp rfl)⟩, ?_⟩
      rintro _ ⟨rfl | rfl | rfl, hstands⟩
      · exact nomatch (stands_lt_iff h).mp hstands
      · rfl
      · exact nomatch (stands_gt_iff h).mp hstands
  | gt =>
      refine ⟨.gt, ⟨.inr (.inr rfl), (stands_gt_iff h).mpr rfl⟩, ?_⟩
      rintro _ ⟨rfl | rfl | rfl, hstands⟩
      · exact nomatch (stands_lt_iff h).mp hstands
      · exact nomatch heq.mpr (stands_eq_iff.mp hstands)
      · rfl

-- How two numbers compare. Where they can be compared at all, their positions decide, and exactly
-- one of less, equal and greater holds between them.
structure Ordered (x y : Number) : Prop where
  refused_iff : (∃ e, x.compare y = .error e ∧ e.IsInvalidOperation) ↔ x.Incomparable y
  numeric : ¬ x.Incomparable y →
    ∃ p q, x.position? = some p ∧ y.position? = some q ∧ x.compare y = .ok (cmp p q)
  swap : ∀ o, x.compare y = .ok o → y.compare x = .ok o.swap
  equal : ∀ o, x.compare y = .ok o → (o = .eq ↔ Stands .eq x y)
  trichotomy : ¬ x.Incomparable y →
    ∃! relation, relation ∈ [Relation.lt, .eq, .gt] ∧ Stands relation x y

theorem ordered_of_canonical (hx : x.Canonical) (hy : y.Canonical) : Ordered x y where
  refused_iff := by
    refine ⟨fun ⟨e, he, _⟩ => ?_, compare_of_incomparable⟩
    by_contra h
    obtain ⟨p, q, -, -, hcompare⟩ := compare_of_not_incomparable hx hy h
    rw [hcompare] at he
    cases he
  numeric := compare_of_not_incomparable hx hy
  swap _ := compare_swap hx hy
  equal _ h := (compare_eq_eq_iff hx hy h).trans stands_eq_iff.symm
  trichotomy h := by
    obtain ⟨p, q, -, -, hcompare⟩ := compare_of_not_incomparable hx hy h
    exact existsUnique_stands hx hy hcompare

-- Numbers compare as they stand on the line, and along it in either direction a comparison carries
-- over from one pair to the next.
theorem compare_numeric (hx : Reachable x) (hy : Reachable y) :
    Ordered x y ∧ ∀ z o₁ o₂, Reachable z → x.compare y = .ok o₁ → y.compare z = .ok o₂ →
      (o₁ ≠ .gt ∧ o₂ ≠ .gt ∨ o₁ ≠ .lt ∧ o₂ ≠ .lt) → x.compare z = .ok (o₁.then o₂) := by
  refine ⟨ordered_of_canonical hx.canonical hy.canonical, fun z o₁ o₂ hz hxy hyz h => ?_⟩
  rcases h with ⟨h₁, h₂⟩ | ⟨h₁, h₂⟩
  · exact compare_then hx.canonical hy.canonical hz.canonical hxy hyz h₁ h₂
  · exact compare_then_of_ne_lt hx.canonical hy.canonical hz.canonical hxy hyz h₁ h₂

-- Two fractions just below minus one, the second with the smallest numerator and yet the larger,
-- and an infinity above them.
theorem compare_numeric_neighbours :
    let x : Number := .finite (-2147483647) 2147483646
    let y : Number := .finite (-2147483648) 2147483647
    x.compare y = .ok .lt ∧ y.compare x = .ok .gt ∧ x.compare posInfinity = .ok .lt ∧
      (∃! relation, relation ∈ [Relation.lt, .eq, .gt] ∧ Stands relation x y) ∧
      ∃ e, posInfinity.compare posInfinity = .error e ∧ e.IsInvalidOperation := by
  intro x y
  have hx : Reachable x := (reachable_iff_canonical _).mpr (by decide)
  have hy : Reachable y := (reachable_iff_canonical _).mpr (by decide)
  have hinfinity : Reachable posInfinity := (reachable_iff_canonical _).mpr trivial
  have hxy : x.compare y = .ok .lt := by decide
  have hcomparable : ¬ x.Incomparable y := by simp [Incomparable, x, y]
  obtain ⟨hordered, hthen⟩ := compare_numeric hx hy
  exact ⟨hxy, hordered.swap _ hxy,
    hthen posInfinity .lt .lt hinfinity hxy rfl (.inl ⟨by decide, by decide⟩),
    hordered.trichotomy hcomparable,
    (compare_numeric hinfinity hinfinity).1.refused_iff.mpr (.inr (.inr ⟨rfl, rfl⟩))⟩

end Number

end FractionCalculator
