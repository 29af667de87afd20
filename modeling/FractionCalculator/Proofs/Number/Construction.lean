import FractionCalculator.Proofs.Number.Word
import Mathlib.Data.Nat.GCD.Basic

namespace FractionCalculator

theorem isWritable_iff {n : Int} : isWritable n = true ↔ n.natAbs < 10 ^ digitLimit := by
  unfold isWritable
  -- Nothing may compute the power.
  generalize digitLimit = limit
  exact decide_eq_true_iff

namespace Ratio

theorem value_neg (f : Ratio) : (⟨-f.num, f.den⟩ : Ratio).value = -f.value := by
  simp [value, neg_div]

-- Signs do not matter to distances.
theorem IsNearest.neg {limit : Nat} {x : ℚ} {f : Ratio} (h : f.IsNearest limit x) :
    (⟨-f.num, f.den⟩ : Ratio).IsNearest limit (-x) := by
  have hswap (y z : ℚ) : |-y - z| = |y - -z| := by
    rw [← abs_neg]
    congr 1
    ring
  constructor
  · exact h.den_pos
  · exact h.den_le
  · simpa using h.coprime
  · intro g hpos hle
    have hclosest := h.closest ⟨-g.num, g.den⟩ hpos hle
    rwa [value_neg, hswap, hswap, neg_neg, ← value_neg]
  · intro g hpos hcoprime hne heq
    refine h.tie ⟨-g.num, g.den⟩ hpos (by simpa using hcoprime) ?_ ?_
    · rintro rfl
      exact hne (by simp)
    · rw [value_neg, ← hswap, heq, hswap, value_neg, neg_neg]

-- Rounding a fraction above zero never makes its numerator larger: one less would be nearer.
theorem IsNearest.num_le {limit : Nat} {x : ℚ} {f : Ratio} (h : f.IsNearest limit x)
    (hwide : limit < x.den) (hx : 0 ≤ x) : f.num ≤ x.num := by
  by_contra hlt
  have hden : (0 : ℚ) < f.den := by exact_mod_cast h.den_pos
  have hle : (f.den : ℚ) ≤ x.den := by exact_mod_cast h.den_le.trans (Int.ofNat_le.mpr hwide.le)
  have hnum : (0 : ℚ) ≤ x.num := by exact_mod_cast Rat.num_nonneg.mpr hx
  have hstep : (x.num : ℚ) ≤ f.num - 1 := by exact_mod_cast Int.le_sub_one_of_lt (not_le.mp hlt)
  have hbetween : x ≤ (f.num - 1) / f.den := calc
    x = x.num / x.den := (Rat.num_div_den x).symm
    _ ≤ x.num / f.den := div_le_div_of_nonneg_left hnum hden hle
    _ ≤ (f.num - 1) / f.den := div_le_div_of_nonneg_right hstep hden.le
  have hless : (f.num - 1 : ℚ) / f.den < f.num / f.den :=
    div_lt_div_of_pos_right (by linarith) hden
  have hclosest := h.closest ⟨f.num - 1, f.den⟩ h.den_pos h.den_le
  simp only [value, Int.cast_sub, Int.cast_one] at hclosest
  rw [abs_of_nonpos (by linarith), abs_of_nonpos (by linarith)] at hclosest
  linarith

-- A rounded fraction is no longer than the one it stands for.
theorem IsNearest.natAbs_num_le {limit : Nat} {x : ℚ} {f : Ratio} (h : f.IsNearest limit x)
    (hlimit : 1 ≤ limit) (hwide : limit < x.den) : f.num.natAbs ≤ x.num.natAbs := by
  rcases le_total 0 x with hx | hx
  · have hle := h.num_le hwide hx
    have hnonneg := h.num_nonneg hlimit hx
    omega
  · have hle : -f.num ≤ (-x).num := h.neg.num_le hwide (neg_nonneg.mpr hx)
    have hnonpos := h.num_nonpos hlimit hx
    rw [Rat.num_neg_eq_neg_num] at hle
    omega

end Ratio

namespace Exact

-- The integers in the announcement that x is rounded.
def announced (x : ℚ) : List Int :=
  [x.num, x.den, (Ratio.fitted x).num, (Ratio.fitted x).den]

-- The denominator of x has to be rounded, and the announcement would show an integer of too many
-- digits.
def Unannounceable (x : ℚ) : Prop :=
  wordMax < x.den ∧ ∃ n ∈ announced x, isWritable n = false

-- The rounded fraction is short enough whenever x is.
theorem unannounceable_iff (x : ℚ) :
    Unannounceable x ↔
      wordMax < x.den ∧ (isWritable x.num = false ∨ isWritable x.den = false) := by
  unfold Unannounceable
  constructor
  · rintro ⟨hwide, n, hn, hlong⟩
    refine ⟨hwide, ?_⟩
    by_contra hshort
    simp only [not_or, Bool.not_eq_false] at hshort
    obtain ⟨hnum, hden⟩ := hshort
    have hnearest := Ratio.fitted_isNearest x
    have hdenLe : (Ratio.fitted x).den.natAbs ≤ (x.den : Int).natAbs := by
      have := hnearest.den_le
      have := hnearest.den_pos
      omega
    rw [← Bool.not_eq_true] at hlong
    apply hlong
    simp only [announced, List.mem_cons, List.not_mem_nil, or_false] at hn
    rcases hn with rfl | rfl | rfl | rfl
    · exact hnum
    · exact hden
    · exact isWritable_mono (hnearest.natAbs_num_le (by decide) hwide) hnum
    · exact isWritable_mono hdenLe hden
  · rintro ⟨hwide, hlong | hlong⟩
    · exact ⟨hwide, x.num, by simp [announced], hlong⟩
    · exact ⟨hwide, x.den, by simp [announced], hlong⟩

theorem unannounceable_neg (x : ℚ) : Unannounceable (-x) ↔ Unannounceable x := by
  have hnum : isWritable (-x).num = isWritable x.num := by
    rw [Rat.num_neg_eq_neg_num, isWritable, Int.natAbs_neg, isWritable]
  rw [unannounceable_iff, unannounceable_iff, hnum, Rat.neg_den]

theorem toNumber_of_unannounceable {num den : Int} (hd : den ≠ 0)
    (h : Unannounceable (num / den)) : (ratio num den).toNumber = .error .digitsUnwritable := by
  obtain ⟨hwide, hlong⟩ := (unannounceable_iff _).mp h
  have hrefused :
      (isWritable (num / den : ℚ).num && isWritable (num / den : ℚ).den) = false := by
    rwa [Bool.and_eq_false_iff]
  rw [toNumber, rounding?_ratio num den hd, if_neg (not_le.mpr hwide)]
  simp only [hrefused, Bool.false_eq_true, if_false]

theorem toNumber_of_not_unannounceable {num den : Int} (hd : den ≠ 0)
    (h : ¬ Unannounceable (num / den)) :
    (ratio num den).toNumber = .ok (Number.ofRat (num / den)) := by
  rw [← fit_ratio num den hd, toNumber, rounding?_ratio num den hd]
  by_cases hwide : wordMax < (num / den : ℚ).den
  · rw [unannounceable_iff, not_and, not_or, Bool.not_eq_false, Bool.not_eq_false] at h
    obtain ⟨hnum, hden⟩ := h hwide
    simp only [if_neg (not_le.mpr hwide), hnum, hden, Bool.and_self, if_true]
  · rw [if_pos (not_lt.mp hwide)]

end Exact

namespace Number

-- An integer is its own lowest terms, so there is nothing to round or to announce.
theorem toNumber_ofInt (n : Int) : (Exact.ofInt n).toNumber = .ok (ofInt n) := by
  have hden : (n / (1 : Int) : ℚ).den = 1 := by
    rw [Int.cast_one, div_one, Rat.den_intCast]
  have hone : 1 ≤ wordMax := by decide
  rw [Exact.toNumber, Exact.ofInt, Exact.rounding?_ratio n 1 one_ne_zero, hden, if_pos hone, ofInt,
    Exact.ofInt]

-- What a constructor comes to that fails for one reason only.
structure CanonicalUnless (unwritable : Prop) (outcome : Except CalcError Number) : Prop where
  canonical : ¬ unwritable → ∃ x, outcome = .ok x ∧ x.Canonical
  refused : unwritable → outcome = .error .digitsUnwritable

theorem CanonicalUnless.ok {x : Number} (h : x.Canonical) {den : Int} (hd : den = 0) (p : Prop) :
    CanonicalUnless (den ≠ 0 ∧ p) (.ok x) where
  canonical _ := ⟨x, rfl, h⟩
  refused hrefused := absurd hd hrefused.1

theorem canonicalUnless_ratio (num : Int) {den : Int} (hd : den ≠ 0) :
    CanonicalUnless (Exact.Unannounceable (num / den)) (Exact.ratio num den).toNumber where
  canonical h := ⟨_, Exact.toNumber_of_not_unannounceable hd h, ofRat_canonical _⟩
  refused h := Exact.toNumber_of_unannounceable hd h

theorem canonicalUnless_ofRatio (num den : Int) :
    CanonicalUnless (den ≠ 0 ∧ Exact.Unannounceable (num / den)) (ofRatio num den) := by
  by_cases hd : den = 0
  · subst hd
    rw [ofRatio_zero]
    exact .ok (by split_ifs <;> trivial) rfl _
  · rw [ofRatio, Exact.ofRatio, if_neg hd]
    simpa only [ne_eq, hd, not_false_eq_true, true_and] using canonicalUnless_ratio num hd

-- The sign of a mixed number does not matter to what its announcement needs.
theorem canonicalUnless_ofMixed (whole num den : Int) :
    CanonicalUnless
      (den ≠ 0 ∧ Exact.Unannounceable (whole.natAbs + num.natAbs / den.natAbs))
      (ofMixed whole num den) := by
  by_cases hd : den = 0
  · subst hd
    rw [ofMixed_zero]
    exact .ok canonical_nan rfl _
  · have hdNat : den.natAbs ≠ 0 := Int.natAbs_ne_zero.mpr hd
    have hdInt : (den.natAbs : Int) ≠ 0 := Int.natCast_ne_zero.mpr hdNat
    have hvalue := mixed_size_div whole num hdNat
    simp only [ne_eq, hd, not_false_eq_true, true_and, ofMixed, Exact.ofMixed]
    rw [← hvalue]
    split_ifs with hneg
    · rw [← Exact.unannounceable_neg, ← neg_div, ← Int.cast_neg]
      exact canonicalUnless_ratio _ hdInt
    · exact canonicalUnless_ratio _ hdInt

-- An integer always becomes a canonical number, and so does a fraction or a mixed number of any
-- size unless its rounding cannot be announced.
theorem construct_canonical (whole num den : Int) :
    (Exact.ofInt num).toNumber = .ok (ofInt num) ∧ (ofInt num).Canonical ∧
    CanonicalUnless (den ≠ 0 ∧ Exact.Unannounceable (num / den)) (ofRatio num den) ∧
    CanonicalUnless (den ≠ 0 ∧ Exact.Unannounceable (whole.natAbs + num.natAbs / den.natAbs))
      (ofMixed whole num den) :=
  ⟨toNumber_ofInt num, ofInt_canonical num, canonicalUnless_ofRatio num den,
    canonicalUnless_ofMixed whole num den⟩

-- Over a common denominator the whole part has about twice its digits.
theorem ofMixed_square_fails {d : Nat} (hwide : wordMax < d) (hlong : 10 ^ digitLimit ≤ d * d) :
    ofMixed d 1 d = .error .digitsUnwritable := by
  have hpos : (0 : Int) < d := by omega
  have hcoprime : ((d * d + 1 : Int).natAbs).Coprime (d : Int).natAbs := by
    have hnat : (d * d + 1 : Int).natAbs = 1 + d * d := by omega
    rw [hnat, Int.natAbs_natCast]
    exact (Nat.coprime_add_mul_left_left 1 d d).mpr (Nat.coprime_one_left d)
  have hnum := Rat.num_div_eq_of_coprime hpos hcoprime
  have hden := Rat.den_div_eq_of_coprime hpos hcoprime
  have hexact : Exact.ofMixed d 1 d = .ratio (d * d + 1) d := by
    simp [Exact.ofMixed, hpos.not_gt]
  rw [ofMixed, hexact]
  apply Exact.toNumber_of_unannounceable hpos.ne'
  rw [Exact.unannounceable_iff, hnum]
  refine ⟨by omega, .inl ?_⟩
  rw [← Bool.not_eq_true, isWritable_iff]
  omega

-- Here no part of the mixed number passes the limit, only the numerator does.
theorem ofMixed_half_limit_fails :
    ¬ ∃ x, ofMixed (10 ^ 2150) 1 (10 ^ 2150) = .ok x ∧ x.Canonical := by
  have hhalf : digitLimit = 2150 + 2150 := rfl
  have hten : 10 ≤ 2150 := by decide
  -- Nothing may compute the power.
  generalize 2150 = half at *
  have hlong : 10 ^ digitLimit ≤ 10 ^ half * 10 ^ half := by
    rw [← Nat.pow_add, hhalf]
  have hwide : wordMax < 10 ^ half :=
    (show wordMax < 10 ^ 10 by decide).trans_le (Nat.pow_le_pow_right (by decide) hten)
  have hfails := ofMixed_square_fails hwide hlong
  rw [Nat.cast_pow, Nat.cast_ofNat] at hfails
  rintro ⟨x, hx, -⟩
  rw [hfails] at hx
  cases hx

end Number

end FractionCalculator
