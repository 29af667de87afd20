import FractionCalculator.Proofs.Number.Inverse
import FractionCalculator.Proofs.Number.WideArithmetic

namespace FractionCalculator.Number

variable {a c : Int} {b d : Nat}

theorem divide_decidedOnce (hx : (finite a b).Canonical) (hy : (finite c d).Canonical)
    (hc : c ≠ 0) (hmin : c ≠ wordMin) :
    DecidedOnce (Exact.product (finite a b) (finite c d).reciprocal) (a / b / (c / d)) (a * d)
      (b * c) ((finite a b).divide (finite c d)) := by
  have hexact : (a / b * ((c.sign * d : Int) / (c.natAbs : Nat)) : ℚ) = a / b / (c / d) := by
    rw [← Int.cast_natCast c.natAbs, ← div_eq_sign_mul_div d hc, div_eq_mul_one_div (a / b : ℚ),
      one_div_div]
  have hproduct := (multiply_decidedOnce hx (hy.inv hc hmin)).denotes
  rw [hexact, ← reciprocal_eq_finite hy hc hmin] at hproduct
  have had := natAbs_mul_le hx.isWord_num hy.isWord_den
  have hbc := natAbs_mul_le hx.isWord_den hy.isWord_num
  refine decidedOnce_of_denotes hproduct ?_ ?_ (by omega) (by omega)
  · push_cast
    rw [div_div_div_eq]
  · exact mul_ne_zero (Int.natCast_ne_zero.mpr hx.den_ne_zero) hc

theorem divide_self_eq_one (hx : (finite a b).Canonical) (ha : a ≠ 0) (hmin : a ≠ wordMin) :
    (finite a b).divide (finite a b) = one := by
  have haq : (a : ℚ) ≠ 0 := by exact_mod_cast ha
  have hbq : (b : ℚ) ≠ 0 := by exact_mod_cast hx.den_ne_zero
  rw [(divide_decidedOnce hx hx ha hmin).eq_ofRat, div_self (div_ne_zero haq hbq), ofRat_one]

-- Division comes to the range decision with the exact quotient as long as the reciprocal of the
-- divisor fits. For the smallest numerator it does not: it is rounded first, and a second decision
-- is taken on the product with what it was rounded to.
theorem divide_decides_once {x y : Number} (hx : Reachable x) (hy : Reachable y)
    (hfx : x.isFinite = true) (hfy : y.isFinite = true) (hnum : y.numerator ≠ 0) :
    (y.numerator ≠ wordMin →
      DecidedOnce (Exact.product x y.reciprocal) (x.value / y.value)
        (x.numerator * y.denominator) (x.denominator * y.numerator) (x.divide y) ∧
      y.divide y = one) ∧
    (y.numerator = wordMin →
      wordMax < (1 / y.value).den ∧
      (∃ f, RangeDecision (1 / y.value) f y.reciprocal ∧
        y.reciprocal = finite f.num f.den.toNat) ∧
      DecidedOnce (Exact.product x y.reciprocal) (x.value * y.reciprocal.value)
        (x.numerator * y.reciprocal.numerator) (x.denominator * y.reciprocal.denominator)
        (x.divide y)) := by
  obtain ⟨a, b, rfl⟩ := exists_of_isFinite hfx
  obtain ⟨c, d, rfl⟩ := exists_of_isFinite hfy
  have hcx := hx.canonical
  have hcy := hy.canonical
  constructor
  · intro hmin
    exact ⟨divide_decidedOnce hcx hcy hnum hmin, divide_self_eq_one hcy hnum hmin⟩
  · rintro rfl
    have hvalue : 1 / (finite wordMin d).value = d / wordMin := one_div_div _ _
    obtain ⟨f, hdecision, hwide, hfinite⟩ := reciprocal_wordMin hcy
    have hcanonical := reciprocal_canonical (finite wordMin d)
    rw [hvalue]
    refine ⟨hwide, ⟨f, hdecision, hfinite⟩, ?_⟩
    rw [divide]
    rw [hfinite] at hcanonical ⊢
    exact multiply_decidedOnce hcx hcanonical

-- One numerator above the smallest the reciprocal is exact, and at the smallest it is rounded.
theorem divide_decides_once_extremes :
    ofRatio (2 * 1) (1 * -2147483647) = .ok ((finite 2 1).divide (finite (-2147483647) 1)) ∧
    ofRatio (2 * (finite (-2147483648) 1).reciprocal.numerator)
      (1 * (finite (-2147483648) 1).reciprocal.denominator) =
        .ok ((finite 2 1).divide (finite (-2147483648) 1)) := by
  have hx : Reachable (finite 2 1) := (reachable_iff_canonical _).mpr (by decide)
  have hy : Reachable (finite (-2147483647) 1) := (reachable_iff_canonical _).mpr (by decide)
  have hz : Reachable (finite (-2147483648) 1) := (reachable_iff_canonical _).mpr (by decide)
  exact ⟨((divide_decides_once hx hy rfl rfl (by decide)).1 (by decide)).1.wide,
    ((divide_decides_once hx hz rfl rfl (by decide)).2 rfl).2.2.wide⟩

-- The smallest word divided by itself is infinite and not one. Two divided by it comes out rounded
-- although the quotient is a number.
theorem divide_minValue_ne_one :
    Reachable minValue ∧ minValue.isFinite = true ∧ minValue.numerator ≠ 0 ∧
    ofRatio (-2147483648 * 1) (1 * -2147483648) = .ok one ∧
    minValue.divide minValue = posInfinity ∧ minValue.divide minValue ≠ one ∧
    ofRatio (2 * 1) (1 * -2147483648) = .ok (finite (-1) 1073741824) ∧
    (finite 2 1).divide minValue = finite (-2) 2147483647 := by
  have hreachable : Reachable minValue := (reachable_iff_canonical _).mpr (by decide)
  have hinfinite : minValue.divide minValue = posInfinity := by decide +kernel
  exact ⟨hreachable, rfl, by decide, by decide, hinfinite, by rw [hinfinite]; decide, by decide,
    by decide +kernel⟩

end FractionCalculator.Number
