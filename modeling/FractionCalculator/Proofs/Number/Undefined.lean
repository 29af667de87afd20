import FractionCalculator.Proofs.Number.Threshold

namespace FractionCalculator.Number

variable {x y : Number} {num : Int} {den : Nat}

def OppositeInfinities (x y : Number) : Prop :=
  ∃ negative, x = infinite negative ∧ y = infinite !negative

theorem ofRat_ne_nan (q : ℚ) : ofRat q ≠ nan :=
  (thresholds_ofRat q).defined

-- A pair of finite numbers is left to the range decision, which never answers NaN.
theorem add_eq_nan_iff (hx : x.Canonical) (hy : y.Canonical) :
    x.add y = nan ↔ x = nan ∨ y = nan ∨ OppositeInfinities x y := by
  cases x with
  | nan => exact iff_of_true rfl (.inl rfl)
  | infinite s =>
      cases y with
      | nan => exact iff_of_true rfl (.inr (.inl rfl))
      | infinite t =>
          cases s <;> cases t <;> simp [add, Exact.sum, Exact.fit, OppositeInfinities]
      | finite c d => simp [add, Exact.sum, Exact.fit, OppositeInfinities]
  | finite a b =>
      cases y with
      | nan => exact iff_of_true rfl (.inr (.inl rfl))
      | infinite t => simp [add, Exact.sum, Exact.fit, OppositeInfinities]
      | finite c d =>
          rw [add_eq_ofRat hx hy rfl rfl]
          simp [ofRat_ne_nan, OppositeInfinities]

theorem scaled_ne_nan (negative : Bool) (num : Int) : Exact.product.scaled negative num ≠ nan := by
  unfold Exact.product.scaled
  split_ifs <;> exact nofun

theorem multiply_eq_nan_iff (hx : x.Canonical) (hy : y.Canonical) :
    x.multiply y = nan ↔
      x = nan ∨ y = nan ∨ x.isInfinite = true ∧ y.isInfinite = true := by
  cases x with
  | nan => exact iff_of_true rfl (.inl rfl)
  | infinite s =>
      cases y with
      | nan => exact iff_of_true rfl (.inr (.inl rfl))
      | infinite t => exact iff_of_true rfl (.inr (.inr ⟨rfl, rfl⟩))
      | finite c d => simp [multiply, Exact.product, Exact.fit, scaled_ne_nan, isInfinite]
  | finite a b =>
      cases y with
      | nan => exact iff_of_true rfl (.inr (.inl rfl))
      | infinite t => simp [multiply, Exact.product, Exact.fit, scaled_ne_nan, isInfinite]
      | finite c d =>
          rw [multiply_eq_ofRat hx hy rfl rfl]
          simp [ofRat_ne_nan, isInfinite]

-- The largest numerator there is leaves a reciprocal that is still closer to the smallest fraction
-- than to zero.
theorem reciprocal_ne_zero (h : (finite num den).Canonical) (hnum : num ≠ 0) :
    (finite num den).reciprocal ≠ zero := by
  have hpos : (0 : ℚ) < |(num : ℚ)| := abs_pos.mpr (by exact_mod_cast hnum)
  have hsize : |(num : ℚ)| ≤ wordMax + 1 := by
    rw [← Int.cast_abs, Int.abs_eq_natAbs]
    exact_mod_cast h.isWord_num.natAbs_le
  have hone : (1 : ℚ) < wordMax := by exact_mod_cast (by decide : 1 < wordMax)
  rw [reciprocal_eq_ofRat den hnum, ne_eq, ofRat_eq_zero_iff, not_le, abs_div, Nat.abs_cast]
  calc (1 : ℚ) / (2 * wordMax) < 1 / (wordMax + 1) :=
        one_div_lt_one_div_of_lt (by linarith) (by linarith)
    _ ≤ den / |(num : ℚ)| := div_le_div₀ den.cast_nonneg h.one_le_den hpos hsize

-- No denominator is too large for a numerator, so a reciprocal never saturates.
theorem isFinite_reciprocal (h : (finite num den).Canonical) (hnum : num ≠ 0) :
    (finite num den).reciprocal.isFinite = true := by
  by_cases hmin : num = wordMin
  · subst hmin
    obtain ⟨f, -, -, hfinite⟩ := reciprocal_wordMin h
    rw [hfinite]
    rfl
  · rw [reciprocal_eq_finite h hnum hmin]
    rfl

theorem eq_zero_of_num_eq_zero (h : (finite 0 den).Canonical) : finite 0 den = zero := by
  have hden : den = 1 := by simpa using h.2.2.2.2
  rw [hden, zero]

theorem reciprocal_eq_nan_iff (hy : y.Canonical) : y.reciprocal = nan ↔ y = nan ∨ y = zero := by
  cases y with
  | nan => exact iff_of_true rfl (.inl rfl)
  | infinite s => exact iff_of_false nofun (by simp [zero])
  | finite num den =>
      rcases eq_or_ne num 0 with rfl | hnum
      · exact iff_of_true rfl (.inr (eq_zero_of_num_eq_zero hy))
      · rw [reciprocal_eq_ofRat den hnum]
        simp [ofRat_ne_nan, zero, hnum]

theorem isInfinite_reciprocal (hy : y.Canonical) : y.reciprocal.isInfinite = false := by
  cases y with
  | nan => rfl
  | infinite s => rfl
  | finite num den =>
      rcases eq_or_ne num 0 with rfl | hnum
      · rfl
      · obtain ⟨a, b, hfinite⟩ := exists_of_isFinite (isFinite_reciprocal hy hnum)
        rw [hfinite]
        rfl

-- The second factor of a division is never infinite, so an infinite divisor does no harm.
theorem divide_eq_nan_iff (hx : x.Canonical) (hy : y.Canonical) :
    x.divide y = nan ↔ x = nan ∨ y = nan ∨ y = zero := by
  rw [divide, multiply_eq_nan_iff hx (reciprocal_canonical y), reciprocal_eq_nan_iff hy,
    isInfinite_reciprocal hy]
  simp

-- Where NaN comes from. No pair of finite numbers yields it, except in a division by zero, and the
-- reciprocal of every other finite number is finite again and not zero.
theorem arithmetic_eq_nan_iff (hx : Reachable x) (hy : Reachable y) :
    (x.add y = nan ↔ x = nan ∨ y = nan ∨ OppositeInfinities x y) ∧
    (x.multiply y = nan ↔ x = nan ∨ y = nan ∨ x.isInfinite = true ∧ y.isInfinite = true) ∧
    (x.divide y = nan ↔ x = nan ∨ y = nan ∨ y = zero) ∧
    (y.isFinite = true → y ≠ zero →
      y.reciprocal.isFinite = true ∧ y.reciprocal ≠ zero) := by
  have hcx := hx.canonical
  have hcy := hy.canonical
  refine ⟨add_eq_nan_iff hcx hcy, multiply_eq_nan_iff hcx hcy, divide_eq_nan_iff hcx hcy,
    fun hfinite hne => ?_⟩
  obtain ⟨num, den, rfl⟩ := exists_of_isFinite hfinite
  have hnum : num ≠ 0 := by
    rintro rfl
    exact hne (eq_zero_of_num_eq_zero hcy)
  exact ⟨isFinite_reciprocal hcy hnum, reciprocal_ne_zero hcy hnum⟩

-- Opposite infinities have no sum and no product, and yet a quotient. The reciprocal of the
-- smallest word has to be rounded.
theorem arithmetic_eq_nan_iff_extremes :
    posInfinity.add negInfinity = nan ∧ posInfinity.multiply negInfinity = nan ∧
    posInfinity.divide negInfinity ≠ nan ∧ posInfinity.divide minValue ≠ nan ∧
    minValue.reciprocal.isFinite = true ∧ minValue.reciprocal ≠ zero := by
  have hpos : Reachable posInfinity := (reachable_iff_canonical _).mpr trivial
  have hneg : Reachable negInfinity := (reachable_iff_canonical _).mpr trivial
  have hmin : Reachable minValue := (reachable_iff_canonical _).mpr (by decide)
  obtain ⟨hadd, hmultiply, hdivide, -⟩ := arithmetic_eq_nan_iff hpos hneg
  obtain ⟨-, -, hquotient, hreciprocal⟩ := arithmetic_eq_nan_iff hpos hmin
  obtain ⟨hfinite, hne⟩ := hreciprocal rfl (by decide)
  exact ⟨hadd.mpr (.inr (.inr ⟨false, rfl, rfl⟩)), hmultiply.mpr (.inr (.inr ⟨rfl, rfl⟩)),
    fun h => absurd (hdivide.mp h) (by decide), fun h => absurd (hquotient.mp h) (by decide),
    hfinite, hne⟩

end FractionCalculator.Number
