import FractionCalculator.Proofs.Number.Ordering
import FractionCalculator.Proofs.Number.RoundingError

namespace FractionCalculator

namespace Ratio

-- The nearest fractions of two numbers do not cross. If they did, the first number would lie above
-- their middle or on it, and the second below it or on it. Both would then be the middle itself,
-- where the tie goes one way only.
theorem IsNearest.value_le {limit : Nat} {x y : ℚ} {f g : Ratio} (hf : f.IsNearest limit x)
    (hg : g.IsNearest limit y) (h : x ≤ y) : f.value ≤ g.value := by
  by_contra hcrossed
  rw [not_le] at hcrossed
  have hleft := sq_le_sq.mpr (hf.closest g hg.den_pos hg.den_le)
  have hright := sq_le_sq.mpr (hg.closest f hf.den_pos hf.den_le)
  have hproduct : (f.value - g.value) * (y - x) ≤ 0 := by linarith
  have hle : y - x ≤ 0 := nonpos_of_mul_nonpos_right hproduct (sub_pos.mpr hcrossed)
  have heq : x = y := by linarith
  subst heq
  rw [hf.unique hg] at hcrossed
  exact lt_irrefl _ hcrossed

end Ratio

namespace Number

def AtMost (x y : Number) : Prop :=
  ∃ o, x.compare y = .ok o ∧ o ≠ .gt

variable {x y z : Number}

theorem atMost_iff_value_le (hx : x.Canonical) (hy : y.Canonical) (hfx : x.isFinite = true)
    (hfy : y.isFinite = true) : x.AtMost y ↔ x.value ≤ y.value := by
  obtain ⟨a, b, rfl⟩ := exists_of_isFinite hfx
  obtain ⟨c, d, rfl⟩ := exists_of_isFinite hfy
  have hvalues : cmp (a / b : ℚ) (c / d) ≠ .gt ↔ (a / b : ℚ) ≤ c / d := by
    rw [ne_eq, cmp_eq_gt_iff, not_lt]
  rw [AtMost, compare_finite hx hy]
  constructor
  · rintro ⟨o, ho, hle⟩
    cases ho
    exact hvalues.mp hle
  · exact fun hle => ⟨_, rfl, hvalues.mpr hle⟩

-- The range decision keeps the order of what stays finite.
theorem ofRat_atMost {p q : ℚ} (h : p ≤ q) (hp : (ofRat p).isFinite = true)
    (hq : (ofRat q).isFinite = true) : (ofRat p).AtMost (ofRat q) := by
  have hfp := Ratio.fitted_isNearest p
  have hfq := Ratio.fitted_isNearest q
  rw [atMost_iff_value_le (ofRat_canonical p) (ofRat_canonical q) hp hq, ofRat, ofRat,
    Ratio.value_saturate hfp.den_pos hp, Ratio.value_saturate hfq.den_pos hq]
  exact hfp.value_le hfq h

theorem zero_le_value_iff (hz : z.Canonical) (hfz : z.isFinite = true) :
    Relation.ge.holds (.number z) (.integer 0) = .ok true ↔ 0 ≤ z.value := by
  obtain ⟨a, b, rfl⟩ := exists_of_isFinite hfz
  have hge : Relation.ge.holds (.number (finite a b)) (.integer 0) =
      ((finite a b).compare zero).map Ordering.isGE := rfl
  have hzero : ((0 : Int) / (1 : Nat) : ℚ) = 0 := by norm_num
  rw [hge, zero, compare_finite hz canonical_zero, hzero]
  change Except.ok (cmp (a / b : ℚ) 0).isGE = .ok true ↔ (0 : ℚ) ≤ a / b
  rw [Except.ok.injEq, Ordering.isGE_iff_ne_lt, cmp_eq_lt_iff, not_lt]

-- Both sides round on their own, and the results still do not cross.
theorem add_multiply_monotone (hx : Reachable x) (hy : Reachable y) (hz : Reachable z)
    (hfx : x.isFinite = true) (hfy : y.isFinite = true) (hfz : z.isFinite = true)
    (h : x.AtMost y) :
    ((x.add z).isFinite = true → (y.add z).isFinite = true → (x.add z).AtMost (y.add z)) ∧
    (Relation.ge.holds (.number z) (.integer 0) = .ok true →
      (x.multiply z).isFinite = true → (y.multiply z).isFinite = true →
        (x.multiply z).AtMost (y.multiply z)) := by
  have hcx := hx.canonical
  have hcy := hy.canonical
  have hcz := hz.canonical
  rw [atMost_iff_value_le hcx hcy hfx hfy] at h
  rw [zero_le_value_iff hcz hfz]
  obtain ⟨a, b, rfl⟩ := exists_of_isFinite hfx
  obtain ⟨c, d, rfl⟩ := exists_of_isFinite hfy
  obtain ⟨e, k, rfl⟩ := exists_of_isFinite hfz
  rw [(add_decidedOnce hcx hcz).eq_ofRat, (add_decidedOnce hcy hcz).eq_ofRat,
    (multiply_decidedOnce hcx hcz).eq_ofRat, (multiply_decidedOnce hcy hcz).eq_ofRat]
  exact ⟨ofRat_atMost (add_le_add_left h _), fun hsign =>
    ofRat_atMost (mul_le_mul_of_nonneg_right h hsign)⟩

-- Half of the smallest fraction is an exact tie and becomes zero, half of the one above it does
-- not, and beside a common summand the two are rounded to the same fraction.
theorem add_multiply_monotone_tie :
    let x : Number := .finite 1 2147483647
    let y : Number := .finite 1 2147483646
    let z : Number := .finite 1 2
    x.multiply z = zero ∧ y.multiply z = x ∧ (x.multiply z).AtMost (y.multiply z) ∧
      (x.add z).AtMost (y.add z) := by
  intro x y z
  have hx : Reachable x := (reachable_iff_canonical _).mpr (by decide)
  have hy : Reachable y := (reachable_iff_canonical _).mpr (by decide)
  have hz : Reachable z := (reachable_iff_canonical _).mpr (by decide)
  have hle : x.AtMost y := ⟨.lt, by decide, by decide⟩
  have hzero : x.multiply z = zero := by decide +kernel
  have hhalf : y.multiply z = x := by decide +kernel
  obtain ⟨hadd, hmultiply⟩ := add_multiply_monotone hx hy hz rfl rfl rfl hle
  exact ⟨hzero, hhalf, hmultiply (by decide) (by rw [hzero]; rfl) (by rw [hhalf]; rfl),
    hadd (by decide +kernel) (by decide +kernel)⟩

end Number

end FractionCalculator
