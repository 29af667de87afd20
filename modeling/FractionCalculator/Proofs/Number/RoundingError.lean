import FractionCalculator.Proofs.Number.Difference
import Mathlib.Algebra.Order.Round
import Mathlib.Data.Rat.Floor
import Mathlib.Tactic.GCongr

namespace FractionCalculator

namespace Ratio

-- The multiples of one over the limit are within it, and none of them is farther than the middle
-- between two.
theorem IsNearest.abs_sub_le_half {limit : Nat} {x : ℚ} {f : Ratio} (hf : f.IsNearest limit x)
    (hlimit : 0 < limit) : |x - f.value| ≤ 1 / (2 * limit) := by
  have hpos : (0 : ℚ) < limit := by exact_mod_cast hlimit
  have hgrid := hf.closest ⟨round (x * limit), limit⟩ (Int.natCast_pos.mpr hlimit) le_rfl
  calc |x - f.value| ≤ |x - round (x * limit) / limit| := by simpa [value] using hgrid
    _ = |x * limit - round (x * limit)| / limit := by
      rw [← abs_of_pos hpos, ← abs_div, sub_div, abs_of_pos hpos, mul_div_cancel_right₀ _ hpos.ne']
    _ ≤ 1 / 2 / limit := by
      gcongr
      exact abs_sub_round _
    _ = 1 / (2 * limit) := div_div _ _ _

theorem value_saturate {f : Ratio} (hden : 0 < f.den) (h : f.saturate.isFinite = true) :
    f.saturate.value = f.value := by
  unfold saturate at h ⊢
  split_ifs at h ⊢
  · cases h
  · cases h
  · have hcast : ((f.den.toNat : Int) : ℚ) = f.den := by rw [Int.toNat_of_nonneg hden.le]
    rw [value, ← hcast]
    rfl

end Ratio

namespace Number

-- A decision that stays finite moves a number by half a unit at most.
theorem abs_value_ofRat_sub_le {x : ℚ} (h : (ofRat x).isFinite = true) :
    |(ofRat x).value - x| ≤ 1 / (2 * wordMax) := by
  have hnearest := Ratio.fitted_isNearest x
  rw [ofRat, Ratio.value_saturate hnearest.den_pos h, abs_sub_comm]
  exact hnearest.abs_sub_le_half (by decide)

variable {x y : Number}

-- No sum of an infinity or of the undefined value is finite again.
theorem isFinite_of_add (h : (x.add y).isFinite = true) :
    x.isFinite = true ∧ y.isFinite = true := by
  cases x with
  | nan => cases h
  | infinite s =>
      cases y with
      | nan => cases h
      | infinite t => cases s <;> cases t <;> cases h
      | finite c d => cases h
  | finite a b =>
      cases y with
      | nan => cases h
      | infinite t => cases h
      | finite c d => exact ⟨rfl, rfl⟩

theorem isFinite_of_negate (h : y.negate.isFinite = true) : y.isFinite = true := by
  cases y with
  | nan => cases h
  | infinite negative => cases h
  | finite num den => rfl

theorem value_negate (hy : y.Canonical) (h : y.negate.isFinite = true) :
    y.negate.value = -y.value := by
  obtain ⟨num, den, rfl⟩ := exists_of_isFinite (isFinite_of_negate h)
  by_cases hmin : num = wordMin
  · subst hmin
    rw [negate_wordMin hy] at h
    cases h
  · rw [negate_eq_finite hy hmin, value, value, numerator, numerator, Int.cast_neg, neg_div]
    rfl

theorem abs_value_add_sub_le (hx : x.Canonical) (hy : y.Canonical)
    (h : (x.add y).isFinite = true) :
    |(x.add y).value - (x.value + y.value)| ≤ 1 / (2 * wordMax) := by
  obtain ⟨hfx, hfy⟩ := isFinite_of_add h
  rw [add_eq_ofRat hx hy hfx hfy] at h ⊢
  exact abs_value_ofRat_sub_le h

-- A negative that does not fit is infinite, so a finite difference is a sum with an exact negative.
theorem abs_value_subtract_sub_le (hx : x.Canonical) (hy : y.Canonical)
    (h : (x.subtract y).isFinite = true) :
    |(x.subtract y).value - (x.value - y.value)| ≤ 1 / (2 * wordMax) := by
  have hneg := value_negate hy (isFinite_of_add h).2
  have hadd := abs_value_add_sub_le hx (negate_canonical y) h
  rwa [hneg, ← sub_eq_add_neg] at hadd

theorem isFinite_of_subtract (h : (x.subtract y).isFinite = true) :
    x.isFinite = true ∧ y.isFinite = true := by
  obtain ⟨hfx, hneg⟩ := isFinite_of_add h
  exact ⟨hfx, isFinite_of_negate hneg⟩

end Number

end FractionCalculator
