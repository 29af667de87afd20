import FractionCalculator.Proofs.Number.Inverse
import FractionCalculator.Proofs.Number.WideArithmetic

namespace FractionCalculator.Number

variable {a c : Int} {b d : Nat}

theorem subtract_decidedOnce (hx : (finite a b).Canonical) (hy : (finite c d).Canonical)
    (hmin : c ≠ wordMin) :
    DecidedOnce (Exact.sum (finite a b) (finite c d).negate) (a / b - c / d) (a * d - c * b) (b * d)
      ((finite a b).subtract (finite c d)) := by
  have hexact : (a / b + (-c : Int) / d : ℚ) = a / b - c / d := by
    push_cast
    ring
  have hadd := add_decidedOnce hx (hy.neg hmin)
  rwa [hexact, neg_mul, ← sub_eq_add_neg, ← negate_eq_finite hy hmin] at hadd

theorem subtract_self_eq_zero (hx : (finite a b).Canonical) (hmin : a ≠ wordMin) :
    (finite a b).subtract (finite a b) = zero := by
  rw [(subtract_decidedOnce hx hx hmin).eq_ofRat, sub_self, ofRat_zero]

theorem infinite_subtract (negative : Bool) (hy : (finite c d).Canonical) (hmin : c ≠ wordMin) :
    (infinite negative).subtract (finite c d) = infinite negative := by
  rw [subtract, negate_eq_finite hy hmin]
  rfl

-- Subtracting the smallest numerator adds an infinity, whatever it is subtracted from.
theorem subtract_wordMin (x : Number) (hy : (finite wordMin d).Canonical) :
    x.subtract (finite wordMin d) = x.add posInfinity := by
  rw [subtract, negate_wordMin hy]

-- Subtraction comes to the range decision with the exact difference as long as the negative of
-- what is subtracted fits. The smallest numerator alone has no such negative, and then the
-- difference is infinite or undefined without a look at the first number.
theorem subtract_decides_once {x y : Number} (hx : Reachable x) (hy : Reachable y)
    (hfx : x.isFinite = true) (hfy : y.isFinite = true) :
    (y.numerator ≠ wordMin →
      DecidedOnce (Exact.sum x y.negate) (x.value - y.value)
        (x.numerator * y.denominator - y.numerator * x.denominator)
        (x.denominator * y.denominator) (x.subtract y) ∧
      y.subtract y = zero ∧ ∀ negative, (infinite negative).subtract y = infinite negative) ∧
    (y.numerator = wordMin →
      x.subtract y = posInfinity ∧ posInfinity.subtract y = posInfinity ∧
      negInfinity.subtract y = nan) := by
  obtain ⟨a, b, rfl⟩ := exists_of_isFinite hfx
  obtain ⟨c, d, rfl⟩ := exists_of_isFinite hfy
  have hcx := hx.canonical
  have hcy := hy.canonical
  constructor
  · intro hmin
    exact ⟨subtract_decidedOnce hcx hcy hmin, subtract_self_eq_zero hcy hmin,
      fun negative => infinite_subtract negative hcy hmin⟩
  · rintro rfl
    simp only [subtract_wordMin _ hcy]
    exact ⟨rfl, rfl, rfl⟩

-- One numerator above the smallest the difference is exact, and at the smallest it is infinite.
theorem subtract_decides_once_extremes :
    ofRatio (1 * 2147483646 - -2147483647 * 2) (2 * 2147483646) =
      .ok ((finite 1 2).subtract (finite (-2147483647) 2147483646)) ∧
    (finite 1 2).subtract (finite (-2147483648) 2147483647) = posInfinity := by
  have hx : Reachable (finite 1 2) := (reachable_iff_canonical _).mpr (by decide)
  have hy : Reachable (finite (-2147483647) 2147483646) :=
    (reachable_iff_canonical _).mpr (by decide)
  have hz : Reachable (finite (-2147483648) 2147483647) :=
    (reachable_iff_canonical _).mpr (by decide)
  exact ⟨((subtract_decides_once hx hy rfl rfl).1 (by decide)).1.wide,
    ((subtract_decides_once hx hz rfl rfl).2 rfl).1⟩

-- The smallest word minus itself is infinite and not zero, and the lower infinity does not outlast
-- its subtraction.
theorem subtract_minValue_ne_zero :
    Reachable minValue ∧ minValue.isFinite = true ∧
    ofRatio (-2147483648 * 1 - -2147483648 * 1) (1 * 1) = .ok zero ∧
    minValue.subtract minValue = posInfinity ∧ minValue.subtract minValue ≠ zero ∧
    negInfinity.subtract minValue = nan := by
  have hreachable : Reachable minValue := (reachable_iff_canonical _).mpr (by decide)
  exact ⟨hreachable, rfl, by decide, by decide, by decide, by decide⟩

end FractionCalculator.Number
