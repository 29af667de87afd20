import FractionCalculator.Number.Exact
import FractionCalculator.Proofs.Nearest.BestApproximation

namespace FractionCalculator

theorem lowestTerms_eq (num den : Int) (hd : den ≠ 0) :
    lowestTerms num den = ((num / den : ℚ).num, (num / den : ℚ).den) := by
  rw [← Rat.divInt_eq_div, Rat.num_divInt, Rat.den_divInt, if_neg hd, Int.gcd_comm den num]
  simp only [lowestTerms]
  split_ifs with hneg
  · rw [Int.sign_eq_neg_one_of_neg hneg, neg_one_mul]
  · rw [Int.sign_eq_one_of_pos (by omega), one_mul]

theorem lowestTerms_zero (num : Int) : (lowestTerms num 0).2 = 0 := by
  simp [lowestTerms]

namespace Ratio

-- The only fraction in lowest terms that denotes x.
def lowest (x : ℚ) : Ratio :=
  ⟨x.num, x.den⟩

theorem lowest_den_pos (x : ℚ) : 0 < (lowest x).den :=
  Int.natCast_pos.mpr x.den_pos

theorem lowest_coprime (x : ℚ) : Int.gcd (lowest x).num (lowest x).den = 1 :=
  x.reduced

@[simp] theorem value_lowest (x : ℚ) : (lowest x).value = x := by
  simp [value, lowest, Rat.num_div_den]

theorem lowest_isNearest (limit : Nat) (x : ℚ) (hle : x.den ≤ limit) :
    (lowest x).IsNearest limit x where
  den_pos := lowest_den_pos x
  den_le := Int.ofNat_le.mpr hle
  coprime := lowest_coprime x
  closest g _ _ := by
    rw [value_lowest, sub_self, abs_zero]
    exact abs_nonneg _
  tie g hpos hcop hne heq := by
    rw [value_lowest, sub_self, abs_zero, abs_eq_zero, sub_eq_zero] at heq
    have hg := eq_of_value_eq hpos (lowest_den_pos x) hcop (lowest_coprime x)
      (heq.symm.trans (value_lowest x).symm)
    exact absurd hg hne

theorem IsNearest.unique {limit : Nat} {x : ℚ} {f g : Ratio} (hf : f.IsNearest limit x)
    (hg : g.IsNearest limit x) : f = g := by
  by_contra hne
  have hle := hf.closest g hg.den_pos hg.den_le
  have hge := hg.closest f hf.den_pos hf.den_le
  have hlt := hf.tie g hg.den_pos hg.coprime (Ne.symm hne) (le_antisymm hge hle)
  have hgt := hg.tie f hf.den_pos hf.coprime hne (le_antisymm hle hge)
  omega

-- Zero is within every limit, so rounding never crosses it.
theorem IsNearest.abs_sub_le {limit : Nat} {x : ℚ} {f : Ratio} (hf : f.IsNearest limit x)
    (hlimit : 1 ≤ limit) : |x - f.value| ≤ |x| := by
  have hzero := hf.closest ⟨0, 1⟩ one_pos (Int.ofNat_le.mpr hlimit)
  simpa [value] using hzero

theorem IsNearest.num_nonneg {limit : Nat} {x : ℚ} {f : Ratio} (hf : f.IsNearest limit x)
    (hlimit : 1 ≤ limit) (hx : 0 ≤ x) : 0 ≤ f.num := by
  have hden : (0 : ℚ) < f.den := by exact_mod_cast hf.den_pos
  have hle := hf.abs_sub_le hlimit
  rw [abs_of_nonneg hx] at hle
  have hval : 0 ≤ f.value := by linarith [le_abs_self (x - f.value)]
  rw [value, le_div_iff₀ hden, zero_mul] at hval
  exact_mod_cast hval

theorem IsNearest.num_nonpos {limit : Nat} {x : ℚ} {f : Ratio} (hf : f.IsNearest limit x)
    (hlimit : 1 ≤ limit) (hx : x ≤ 0) : f.num ≤ 0 := by
  have hden : (0 : ℚ) < f.den := by exact_mod_cast hf.den_pos
  have hle := hf.abs_sub_le hlimit
  rw [abs_of_nonpos hx] at hle
  have hval : f.value ≤ 0 := by linarith [neg_abs_le (x - f.value)]
  rw [value, div_le_iff₀ hden, zero_mul] at hval
  exact_mod_cast hval

-- The fraction that stands for a number before its numerator is looked at.
def fitted (x : ℚ) : Ratio :=
  if x.den ≤ wordMax then lowest x else nearest wordMax x.num x.den

theorem fitted_of_den_le {x : ℚ} (hle : x.den ≤ wordMax) : fitted x = lowest x :=
  if_pos hle

theorem fitted_isNearest (x : ℚ) : (fitted x).IsNearest wordMax x := by
  unfold fitted
  split_ifs with hle
  · exact lowest_isNearest wordMax x hle
  · have h := nearest_isNearest wordMax (by decide) x.num x.den x.reduced (not_le.mp hle)
    rwa [Rat.num_div_den] at h

theorem saturate_of_mem {f : Ratio} (hmin : wordMin ≤ f.num) (hmax : f.num ≤ wordMax) :
    f.saturate = Number.finite f.num f.den.toNat := by
  rw [saturate, if_neg (not_lt.mpr hmax), if_neg (not_lt.mpr hmin)]

theorem saturate_above {f : Ratio} (hmax : (wordMax : Int) < f.num) :
    f.saturate = Number.posInfinity :=
  if_pos hmax

theorem saturate_below {f : Ratio} (hmin : f.num < wordMin) : f.saturate = Number.negInfinity := by
  have : wordMin < (wordMax : Int) := by decide
  rw [saturate, if_neg (by omega), if_pos hmin]

theorem saturate_canonical {f : Ratio} (hpos : 0 < f.den) (hle : f.den ≤ wordMax)
    (hcop : Int.gcd f.num f.den = 1) : f.saturate.Canonical := by
  unfold saturate
  split_ifs with hmax hmin
  · trivial
  · trivial
  · obtain ⟨d, hd⟩ := Int.eq_ofNat_of_zero_le hpos.le
    rw [hd] at hpos hle hcop ⊢
    exact ⟨by omega, by omega, by omega, by omega, hcop⟩

end Ratio

namespace Number

-- The number that stands for an exact one, with every range decision made.
def ofRat (x : ℚ) : Number :=
  (Ratio.fitted x).saturate

theorem ofRat_canonical (x : ℚ) : (ofRat x).Canonical :=
  let h := Ratio.fitted_isNearest x
  Ratio.saturate_canonical h.den_pos h.den_le h.coprime

-- The numerator left after the rounding tells the three outcomes apart.
theorem ofRat_cases (x : ℚ) :
    (ofRat x = posInfinity ∧ (wordMax : Int) < (Ratio.fitted x).num) ∨
    (ofRat x = negInfinity ∧ (Ratio.fitted x).num < wordMin) ∨
    (ofRat x = finite (Ratio.fitted x).num (Ratio.fitted x).den.toNat ∧
      wordMin ≤ (Ratio.fitted x).num ∧ (Ratio.fitted x).num ≤ wordMax) := by
  rcases lt_or_ge (wordMax : Int) (Ratio.fitted x).num with habove | hmax
  · exact .inl ⟨Ratio.saturate_above habove, habove⟩
  · rcases lt_or_ge (Ratio.fitted x).num wordMin with hbelow | hmin
    · exact .inr (.inl ⟨Ratio.saturate_below hbelow, hbelow⟩)
    · exact .inr (.inr ⟨Ratio.saturate_of_mem hmin hmax, hmin, hmax⟩)

end Number

-- What y has to be to stand for x, when f is the fraction that x is rounded to. The numerator is
-- looked at last, and an infinity keeps the sign of x.
structure RangeDecision (x : ℚ) (f : Ratio) (y : Number) : Prop where
  nearest : f.IsNearest wordMax x
  unrounded : x.den ≤ wordMax → f.num = x.num ∧ f.den = x.den
  fits : wordMin ≤ f.num → f.num ≤ wordMax → y = .finite f.num f.den.toNat
  above : (wordMax : Int) < f.num → y = .posInfinity ∧ 0 < x
  below : f.num < wordMin → y = .negInfinity ∧ x < 0

theorem rangeDecision_ofRat (x : ℚ) : RangeDecision x (Ratio.fitted x) (Number.ofRat x) where
  nearest := Ratio.fitted_isNearest x
  unrounded hle := by
    rw [Ratio.fitted_of_den_le hle]
    exact ⟨rfl, rfl⟩
  fits := Ratio.saturate_of_mem
  above hmax := by
    refine ⟨Ratio.saturate_above hmax, lt_of_not_ge fun hx => ?_⟩
    have := (Ratio.fitted_isNearest x).num_nonpos (by decide) hx
    omega
  below hmin := by
    refine ⟨Ratio.saturate_below hmin, lt_of_not_ge fun hx => ?_⟩
    have := (Ratio.fitted_isNearest x).num_nonneg (by decide) hx
    have : wordMin ≤ 0 := by decide
    omega

namespace Exact

-- Only the number that a pair denotes counts for the range decision.
theorem fit_ratio (num den : Int) (hd : den ≠ 0) :
    (ratio num den).fit = Number.ofRat (num / den) := by
  have hpos := (num / den : ℚ).den_ne_zero
  simp only [fit, lowestTerms_eq num den hd, if_neg hpos, Number.ofRat, Ratio.fitted]
  split_ifs <;> rfl

theorem fit_ratio_zero (num : Int) : (ratio num 0).fit = .nan := by
  simp [fit, lowestTerms_zero]

theorem rounding?_ratio (num den : Int) (hd : den ≠ 0) :
    (ratio num den).rounding? = if (num / den : ℚ).den ≤ wordMax then none
      else some ⟨(num / den : ℚ).num, (num / den : ℚ).den, Ratio.fitted (num / den)⟩ := by
  simp only [rounding?, lowestTerms_eq num den hd, Ratio.fitted]
  split_ifs <;> rfl

-- Rounding a denominator finds the nearest fraction, also for negative numbers, and of two at the
-- same distance the one of the smaller denominator. This fraction is known before it is announced:
-- where the announcement cannot be written, the failure comes before the replacement.
theorem rounding_nearest (num den : Int) (hd : den ≠ 0)
    (hwide : wordMax < (num / den : ℚ).den) :
    ∃ f : Ratio,
      (ratio num den).rounding? = some ⟨(num / den : ℚ).num, (num / den : ℚ).den, f⟩ ∧
      (ratio num den).fit = f.saturate ∧ f.IsNearest wordMax (num / den) := by
  refine ⟨Ratio.fitted (num / den), ?_, fit_ratio num den hd, Ratio.fitted_isNearest _⟩
  rw [rounding?_ratio num den hd, if_neg (not_le.mpr hwide)]

-- Halfway between zero and the negative fraction next to it, zero wins.
theorem rounding_nearest_halfway :
    wordMax < ((-1 : Int) / (4294967294 : Int) : ℚ).den ∧
    (ratio (-1) 4294967294).rounding? = some ⟨-1, 4294967294, ⟨0, 1⟩⟩ ∧
    (⟨0, 1⟩ : Ratio).IsNearest wordMax ((-1 : Int) / (4294967294 : Int)) := by
  have hwide : wordMax < ((-1 : Int) / (4294967294 : Int) : ℚ).den := by decide +kernel
  have hzero : (ratio (-1) 4294967294).rounding? = some ⟨-1, 4294967294, ⟨0, 1⟩⟩ := by
    decide +kernel
  obtain ⟨f, hf, -, hnearest⟩ := rounding_nearest (-1) 4294967294 (by decide) hwide
  rw [hzero] at hf
  have hresult : ⟨0, 1⟩ = f := congrArg Rounding.result (Option.some.inj hf)
  exact ⟨hwide, hzero, hresult ▸ hnearest⟩

end Exact

end FractionCalculator
