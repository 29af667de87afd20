import FractionCalculator.Proofs.Number.Arithmetic
import FractionCalculator.Proofs.Number.Canonical

namespace FractionCalculator

-- There is one word more below zero than above it.
theorem wordMin_eq : wordMin = -wordMax - 1 := by
  decide

namespace Exact

theorem negation_denotes (num : Int) (den : Nat) (hd : den ≠ 0) :
    (negation (.finite num den)).Denotes (-(num / den)) := by
  refine ⟨-num, den, rfl, Int.natCast_ne_zero.mpr hd, ?_⟩
  push_cast
  rw [neg_div]

theorem reciprocal_denotes (num : Int) (den : Nat) (hnum : num ≠ 0) :
    (reciprocal (.finite num den)).Denotes (den / num) :=
  ⟨den, num, by simp only [reciprocal, if_neg hnum], hnum, by rw [Int.cast_natCast]⟩

end Exact

namespace Ratio

-- Minus one is within every limit, so rounding never crosses it.
theorem IsNearest.neg_den_le_num {limit : Nat} {x : ℚ} {f : Ratio} (hf : f.IsNearest limit x)
    (hlimit : 1 ≤ limit) (hx : -1 ≤ x) : -f.den ≤ f.num := by
  have hden : (0 : ℚ) < f.den := by exact_mod_cast hf.den_pos
  have hone : |x - f.value| ≤ |x + 1| := by
    simpa [value] using hf.closest ⟨-1, 1⟩ one_pos (Int.ofNat_le.mpr hlimit)
  rw [abs_of_nonneg (by linarith : 0 ≤ x + 1)] at hone
  have hval : -1 ≤ f.value := by linarith [le_abs_self (x - f.value)]
  rw [value, le_div_iff₀ hden, neg_one_mul] at hval
  exact_mod_cast hval

end Ratio

namespace Number

variable {num : Int} {den : Nat}

theorem negate_eq_ofRat (num : Int) (hd : den ≠ 0) :
    (finite num den).negate = ofRat (-(num / den)) :=
  (Exact.negation_denotes num den hd).fit_eq

theorem reciprocal_eq_ofRat (den : Nat) (hnum : num ≠ 0) :
    (finite num den).reciprocal = ofRat (den / num) :=
  (Exact.reciprocal_denotes num den hnum).fit_eq

-- Every numerator but the smallest has a negative among the words.
theorem Canonical.neg (h : (finite num den).Canonical) (hmin : num ≠ wordMin) :
    (finite (-num) den).Canonical := by
  obtain ⟨hpos, hle, hlow, hhigh, hcop⟩ := h
  have hword := wordMin_eq
  exact ⟨hpos, hle, by omega, by omega, by rwa [Int.natAbs_neg]⟩

theorem negate_eq_finite (h : (finite num den).Canonical) (hmin : num ≠ wordMin) :
    (finite num den).negate = finite (-num) den := by
  have hneg := ofRat_div (h.neg hmin)
  rwa [Int.cast_neg, neg_div, ← negate_eq_ofRat num h.den_ne_zero] at hneg

-- The negative of the smallest numerator is one above the largest word, over any denominator.
theorem negate_wordMin (h : (finite wordMin den).Canonical) :
    (finite wordMin den).negate = posInfinity := by
  rw [negate_eq_ofRat wordMin h.den_ne_zero, ofRat, Ratio.fitted_of_den_le]
  · have hnum : (-(wordMin / den : ℚ)).num = -wordMin := by
      rw [Rat.num_neg_eq_neg_num, h.num_div]
    exact Ratio.saturate_above (lt_of_lt_of_eq (by decide) hnum.symm)
  · rw [Rat.den_neg_eq_den, h.den_div]
    exact h.2.1

theorem natAbs_sign_mul (den : Nat) (hnum : num ≠ 0) : (num.sign * den).natAbs = den := by
  rw [Int.natAbs_mul, Int.natAbs_sign_of_ne_zero hnum, one_mul, Int.natAbs_natCast]

theorem div_eq_sign_mul_div (den : Nat) (hnum : num ≠ 0) :
    (den / num : ℚ) = (num.sign * den : Int) / (num.natAbs : Int) := by
  have hnumq : (num : ℚ) ≠ 0 := by exact_mod_cast hnum
  have hsign : (num.sign : ℚ) ≠ 0 := by exact_mod_cast mt Int.sign_eq_zero_iff_zero.mp hnum
  rw [← Int.sign_mul_self_eq_natAbs num]
  push_cast
  field_simp

-- Exchanging the parts moves the sign and leaves them without a common divisor.
theorem Canonical.den_div_den (h : (finite num den).Canonical) (hnum : num ≠ 0) :
    (den / num : ℚ).den = num.natAbs := by
  have hpos : (0 : Int) < num.natAbs := by
    exact_mod_cast Int.natAbs_pos.mpr hnum
  have hcop : (num.sign * den).natAbs.Coprime (num.natAbs : Int).natAbs := by
    rw [natAbs_sign_mul den hnum, Int.natAbs_natCast]
    exact Nat.Coprime.symm h.2.2.2.2
  rw [div_eq_sign_mul_div den hnum]
  exact_mod_cast Rat.den_div_eq_of_coprime hpos hcop

-- Every numerator but the smallest is a denominator.
theorem Canonical.inv (h : (finite num den).Canonical) (hnum : num ≠ 0) (hmin : num ≠ wordMin) :
    (finite (num.sign * den) num.natAbs).Canonical := by
  obtain ⟨hpos, hle, hlow, hhigh, hcop⟩ := h
  have hword := wordMin_eq
  have hsize := natAbs_sign_mul den hnum
  exact ⟨Int.natAbs_pos.mpr hnum, by omega, by omega, by omega, by rwa [hsize, Nat.gcd_comm]⟩

theorem reciprocal_eq_finite (h : (finite num den).Canonical) (hnum : num ≠ 0)
    (hmin : num ≠ wordMin) :
    (finite num den).reciprocal = finite (num.sign * den) num.natAbs := by
  have hinv := ofRat_div (h.inv hnum hmin)
  rw [← Int.cast_natCast num.natAbs, ← div_eq_sign_mul_div den hnum] at hinv
  rw [reciprocal_eq_ofRat den hnum, hinv]

-- The smallest numerator is by one too large for a denominator, so its reciprocal is rounded, to a
-- fraction between minus one and zero.
theorem reciprocal_wordMin (h : (finite wordMin den).Canonical) :
    ∃ f : Ratio, RangeDecision (den / wordMin) f (finite wordMin den).reciprocal ∧
      wordMax < (den / wordMin : ℚ).den ∧
      (finite wordMin den).reciprocal = finite f.num f.den.toNat := by
  have hword := wordMin_eq
  have hmin : wordMin ≠ 0 := by decide
  have hneg : (wordMin : ℚ) < 0 := by exact_mod_cast (by decide : wordMin < 0)
  have hlow : (-1 : ℚ) ≤ den / wordMin := by
    have hle : (den : Int) ≤ -1 * wordMin := by
      have := h.2.1
      omega
    rw [le_div_iff_of_neg hneg]
    exact_mod_cast hle
  have hhigh : (den / wordMin : ℚ) ≤ 0 := div_nonpos_of_nonneg_of_nonpos den.cast_nonneg hneg.le
  have hdecision := rangeDecision_ofRat (den / wordMin)
  rw [← reciprocal_eq_ofRat den hmin] at hdecision
  have hle := hdecision.nearest.den_le
  have hnum := hdecision.nearest.neg_den_le_num (by decide) hlow
  have hnonpos := hdecision.nearest.num_nonpos (by decide) hhigh
  refine ⟨_, hdecision, ?_, hdecision.fits (by omega) (by omega)⟩
  rw [h.den_div_den hmin]
  decide

end Number

end FractionCalculator
