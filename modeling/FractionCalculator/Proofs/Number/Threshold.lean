import FractionCalculator.Proofs.Number.Laws

namespace FractionCalculator

namespace Ratio

variable {limit : Nat} {x : ℚ} {f : Ratio}

-- No other fraction within the limit is closer to zero than one over the limit.
theorem one_div_le_abs_value (hpos : 0 < f.den) (hle : f.den ≤ limit) (hnum : f.num ≠ 0) :
    1 / (limit : ℚ) ≤ |f.value| := by
  have hden : (0 : ℚ) < f.den := by exact_mod_cast hpos
  have hlimit : (f.den : ℚ) ≤ limit := by exact_mod_cast hle
  have hone : (1 : ℚ) ≤ |(f.num : ℚ)| := by exact_mod_cast Int.one_le_abs hnum
  rw [value, abs_div, abs_of_pos hden]
  exact div_le_div₀ (abs_nonneg _) hone hden hlimit

-- Halfway between zero and the fraction next to it zero still wins, for it has the smaller
-- denominator.
theorem IsNearest.num_eq_zero_iff (hf : f.IsNearest limit x) (hlimit : 1 ≤ limit) :
    f.num = 0 ↔ |x| ≤ 1 / (2 * limit) := by
  constructor
  · intro hnum
    simpa [value, hnum] using hf.abs_sub_le_half hlimit
  · intro hsmall
    by_contra hnum
    have hfar := one_div_le_abs_value hf.den_pos hf.den_le hnum
    have hhalf : 1 / (limit : ℚ) = 2 * (1 / (2 * limit)) := by ring
    have htriangle : |f.value| ≤ |x| + |x - f.value| := by
      simpa using abs_sub x (x - f.value)
    have hzero : (⟨0, 1⟩ : Ratio).value = 0 := by simp [value]
    have htie : |x - (⟨0, 1⟩ : Ratio).value| = |x - f.value| := by
      have hle := hf.abs_sub_le hlimit
      rw [hzero, sub_zero]
      linarith
    have hlt : f.den < 1 := hf.tie ⟨0, 1⟩ one_pos (by decide) (fun h => hnum (h ▸ rfl)) htie
    have := hf.den_pos
    omega

theorem IsNearest.num_sign (hf : f.IsNearest limit x) (hlimit : 1 ≤ limit) (hnum : f.num ≠ 0) :
    f.num.sign = x.num.sign := by
  rcases lt_trichotomy x 0 with hneg | rfl | hpos
  · have := hf.num_nonpos hlimit hneg.le
    rw [Int.sign_eq_neg_one_of_neg (by omega), Int.sign_eq_neg_one_of_neg (Rat.num_neg.mpr hneg)]
  · have := hf.num_nonneg hlimit le_rfl
    have := hf.num_nonpos hlimit le_rfl
    omega
  · have := hf.num_nonneg hlimit hpos.le
    rw [Int.sign_eq_one_of_pos (by omega), Int.sign_eq_one_of_pos (Rat.num_pos.mpr hpos)]

-- The numbers up to one are rounded to fractions up to one.
theorem IsNearest.num_le_den (hf : f.IsNearest limit x) (hlimit : 1 ≤ limit) (hx : x ≤ 1) :
    f.num ≤ f.den := by
  have hle : -f.den ≤ -f.num := hf.neg.neg_den_le_num hlimit (neg_le_neg hx)
  omega

end Ratio

namespace Number

-- What the range decision on x comes to. Around zero everything up to half of the smallest fraction
-- vanishes. Only numbers beyond one become infinite, and all others keep their sign.
structure Thresholds (x : ℚ) (y : Number) : Prop where
  zero_iff : y = zero ↔ |x| ≤ 1 / (2 * wordMax)
  above : y = posInfinity → 1 < x
  below : y = negInfinity → x < -1
  defined : y ≠ nan
  between : y ≠ zero → y ≠ posInfinity → y ≠ negInfinity →
    y.isFinite = true ∧ y.sign = x.num.sign
  small : |x| ≤ 1 → y.isFinite = true

variable {x : ℚ}

theorem one_lt_of_ofRat_eq_posInfinity (h : ofRat x = posInfinity) : 1 < x := by
  by_contra hle
  have hnearest := Ratio.fitted_isNearest x
  have hnum := hnearest.num_le_den (by decide) (not_lt.mp hle)
  have hden := hnearest.den_le
  rcases ofRat_cases x with ⟨-, habove⟩ | ⟨heq, -⟩ | ⟨heq, -⟩
  · omega
  · exact nomatch heq.symm.trans h
  · exact nomatch heq.symm.trans h

theorem lt_neg_one_of_ofRat_eq_negInfinity (h : ofRat x = negInfinity) : x < -1 := by
  by_contra hge
  have hnearest := Ratio.fitted_isNearest x
  have hnum := hnearest.neg_den_le_num (by decide) (not_lt.mp hge)
  have hden := hnearest.den_le
  have hword := wordMin_eq
  rcases ofRat_cases x with ⟨heq, -⟩ | ⟨-, hbelow⟩ | ⟨heq, -⟩
  · exact nomatch heq.symm.trans h
  · omega
  · exact nomatch heq.symm.trans h

theorem ofRat_eq_zero_iff : ofRat x = zero ↔ |x| ≤ 1 / (2 * wordMax) := by
  have hnearest := Ratio.fitted_isNearest x
  rw [← hnearest.num_eq_zero_iff (by decide)]
  constructor
  · intro h
    rcases ofRat_cases x with ⟨heq, -⟩ | ⟨heq, -⟩ | ⟨heq, -⟩
    · exact nomatch heq.symm.trans h
    · exact nomatch heq.symm.trans h
    · exact (Number.finite.inj (heq.symm.trans h)).1
  · intro hnum
    have hden := hnearest.coprime
    have hpos := hnearest.den_pos
    rw [hnum, Int.gcd_zero_left] at hden
    rw [ofRat, Ratio.saturate_of_mem (by rw [hnum]; decide) (by rw [hnum]; decide), hnum]
    exact congrArg (finite 0) (by omega)

theorem thresholds_ofRat (x : ℚ) : Thresholds x (ofRat x) where
  zero_iff := ofRat_eq_zero_iff
  above := one_lt_of_ofRat_eq_posInfinity
  below := lt_neg_one_of_ofRat_eq_negInfinity
  defined h := by
    rcases ofRat_cases x with ⟨heq, -⟩ | ⟨heq, -⟩ | ⟨heq, -⟩ <;> exact nomatch heq.symm.trans h
  between hzero habove hbelow := by
    have hnearest := Ratio.fitted_isNearest x
    rw [ne_eq, ofRat_eq_zero_iff, ← hnearest.num_eq_zero_iff (by decide)] at hzero
    rcases ofRat_cases x with ⟨heq, -⟩ | ⟨heq, -⟩ | ⟨heq, -⟩
    · exact absurd heq habove
    · exact absurd heq hbelow
    · rw [heq]
      exact ⟨rfl, hnearest.num_sign (by decide) hzero⟩
  small h := by
    obtain ⟨hlow, hhigh⟩ := abs_le.mp h
    rcases ofRat_cases x with ⟨heq, -⟩ | ⟨heq, -⟩ | ⟨heq, -⟩
    · exact absurd (one_lt_of_ofRat_eq_posInfinity heq) hhigh.not_gt
    · exact absurd (lt_neg_one_of_ofRat_eq_negInfinity heq) hlow.not_gt
    · rw [heq]
      rfl

-- The sum and the product of finite numbers keep to the thresholds of their exact values.
theorem add_multiply_thresholds {x y : Number} (hx : Reachable x) (hy : Reachable y)
    (hfx : x.isFinite = true) (hfy : y.isFinite = true) :
    Thresholds (x.value + y.value) (x.add y) ∧ Thresholds (x.value * y.value) (x.multiply y) := by
  rw [add_eq_ofRat hx.canonical hy.canonical hfx hfy,
    multiply_eq_ofRat hx.canonical hy.canonical hfx hfy]
  exact ⟨thresholds_ofRat _, thresholds_ofRat _⟩

-- Half of the smallest fraction vanishes. One more than it is barely beyond one and infinite.
theorem add_multiply_thresholds_ends :
    let x : Number := .finite 1 2147483647
    x.multiply (.finite 1 2) = zero ∧ |x.value * (finite 1 2).value| ≤ 1 / (2 * wordMax) ∧
      x.add one = posInfinity ∧ 1 < x.value + one.value := by
  intro x
  have hx : Reachable x := (reachable_iff_canonical _).mpr (by decide)
  have hhalf : Reachable (finite 1 2) := (reachable_iff_canonical _).mpr (by decide)
  have hone : Reachable one := (reachable_iff_canonical _).mpr (by decide)
  have hzero : x.multiply (.finite 1 2) = zero := by decide +kernel
  have hinfinite : x.add one = posInfinity := by decide +kernel
  exact ⟨hzero, (add_multiply_thresholds hx hhalf rfl rfl).2.zero_iff.mp hzero, hinfinite,
    (add_multiply_thresholds hx hone rfl rfl).1.above hinfinite⟩

end Number

end FractionCalculator
