import FractionCalculator.Proofs.Number.Arithmetic
import FractionCalculator.Proofs.Reachable

namespace FractionCalculator

namespace Number

-- An operation agrees with one range decision on the plain fraction num / den, which is x exactly.
structure DecidedOnce (e : Exact) (x : ℚ) (num den : Int) (result : Number) : Prop where
  once : result = e.fit
  denotes : e.Denotes x
  plain : (num / den : ℚ) = x
  wide : ofRatio num den = .ok result
  decision : ∃ f, RangeDecision x f result

theorem DecidedOnce.eq_ofRat {e : Exact} {x : ℚ} {num den : Int} {result : Number}
    (h : DecidedOnce e x num den result) : result = ofRat x :=
  h.once.trans h.denotes.fit_eq

theorem decidedOnce_of_denotes {e : Exact} {x : ℚ} {num den : Int} (he : e.Denotes x)
    (hplain : (num / den : ℚ) = x) (hd : den ≠ 0) (hnum : num.natAbs ≤ 10 ^ 20)
    (hden : den.natAbs ≤ 10 ^ 20) : DecidedOnce e x num den e.fit where
  once := rfl
  denotes := he
  plain := hplain
  wide := by rw [ofRatio_eq_ofRat hd hnum hden, hplain, he.fit_eq]
  decision := by
    rw [he.fit_eq]
    exact ⟨_, rangeDecision_ofRat x⟩

theorem natAbs_mul_le {m n : Int} (hm : IsWord m) (hn : IsWord n) : (m * n).natAbs ≤ 2 ^ 62 := by
  rw [Int.natAbs_mul]
  exact (Nat.mul_le_mul hm.natAbs_le hn.natAbs_le).trans (by decide)

theorem add_decidedOnce {a c : Int} {b d : Nat} (hx : (finite a b).Canonical)
    (hy : (finite c d).Canonical) :
    DecidedOnce (Exact.sum (finite a b) (finite c d)) (a / b + c / d) (a * d + c * b) (b * d)
      ((finite a b).add (finite c d)) := by
  have hb : (b : ℚ) ≠ 0 := by exact_mod_cast hx.den_ne_zero
  have hd : (d : ℚ) ≠ 0 := by exact_mod_cast hy.den_ne_zero
  have had := natAbs_mul_le hx.isWord_num hy.isWord_den
  have hcb := natAbs_mul_le hy.isWord_num hx.isWord_den
  have hbd := natAbs_mul_le hx.isWord_den hy.isWord_den
  refine decidedOnce_of_denotes (Exact.sum_denotes a c b d hx.den_ne_zero hy.den_ne_zero) ?_ ?_ ?_ ?_
  · push_cast
    field_simp
  · exact_mod_cast Nat.mul_ne_zero hx.den_ne_zero hy.den_ne_zero
  · have := Int.natAbs_add_le (a * d) (c * b)
    omega
  · omega

theorem multiply_decidedOnce {a c : Int} {b d : Nat} (hx : (finite a b).Canonical)
    (hy : (finite c d).Canonical) :
    DecidedOnce (Exact.product (finite a b) (finite c d)) (a / b * (c / d)) (a * c) (b * d)
      ((finite a b).multiply (finite c d)) := by
  have hb : (b : ℚ) ≠ 0 := by exact_mod_cast hx.den_ne_zero
  have hd : (d : ℚ) ≠ 0 := by exact_mod_cast hy.den_ne_zero
  have hac := natAbs_mul_le hx.isWord_num hy.isWord_num
  have hbd := natAbs_mul_le hx.isWord_den hy.isWord_den
  refine decidedOnce_of_denotes (Exact.product_denotes a c b d hx.den_ne_zero hy.den_ne_zero) ?_ ?_
    ?_ ?_
  · push_cast
    field_simp
  · exact_mod_cast Nat.mul_ne_zero hx.den_ne_zero hy.den_ne_zero
  · omega
  · omega

theorem add_eq_ofRat {x y : Number} (hx : x.Canonical) (hy : y.Canonical)
    (hfx : x.isFinite = true) (hfy : y.isFinite = true) : x.add y = ofRat (x.value + y.value) := by
  obtain ⟨a, b, rfl⟩ := exists_of_isFinite hfx
  obtain ⟨c, d, rfl⟩ := exists_of_isFinite hfy
  exact (add_decidedOnce hx hy).eq_ofRat

theorem multiply_eq_ofRat {x y : Number} (hx : x.Canonical) (hy : y.Canonical)
    (hfx : x.isFinite = true) (hfy : y.isFinite = true) :
    x.multiply y = ofRat (x.value * y.value) := by
  obtain ⟨a, b, rfl⟩ := exists_of_isFinite hfx
  obtain ⟨c, d, rfl⟩ := exists_of_isFinite hfy
  exact (multiply_decidedOnce hx hy).eq_ofRat

-- Addition and multiplication come to the range decision with the exact result, and divide by
-- nothing that is zero before.
theorem add_multiply_decide_once {x y : Number} (hx : Reachable x) (hy : Reachable y)
    (hfx : x.isFinite = true) (hfy : y.isFinite = true) :
    DecidedOnce (Exact.sum x y) (x.value + y.value)
      (x.numerator * y.denominator + y.numerator * x.denominator)
      (x.denominator * y.denominator) (x.add y) ∧
    DecidedOnce (Exact.product x y) (x.value * y.value) (x.numerator * y.numerator)
      (x.denominator * y.denominator) (x.multiply y) ∧
    0 < x.denominator.gcd y.denominator ∧ 0 < Int.gcd x.numerator y.denominator ∧
    0 < Int.gcd x.denominator y.numerator := by
  obtain ⟨a, b, rfl⟩ := exists_of_isFinite hfx
  obtain ⟨c, d, rfl⟩ := exists_of_isFinite hfy
  have hcx := hx.canonical
  have hcy := hy.canonical
  exact ⟨add_decidedOnce hcx hcy, multiply_decidedOnce hcx hcy,
    Nat.gcd_pos_of_pos_left _ hcx.1,
    Int.gcd_pos_of_ne_zero_right _ (Int.natCast_ne_zero.mpr hcy.den_ne_zero),
    Int.gcd_pos_of_ne_zero_left _ (Int.natCast_ne_zero.mpr hcx.den_ne_zero)⟩

-- The smallest numerator, and denominators without a common divisor.
theorem add_multiply_decide_once_wide :
    ofRatio (-2147483648 * 2147483646 + 1 * 2147483647) (2147483647 * 2147483646) =
      .ok ((finite (-2147483648) 2147483647).add (finite 1 2147483646)) ∧
    ofRatio (-2147483648 * 1) (2147483647 * 2147483646) =
      .ok ((finite (-2147483648) 2147483647).multiply (finite 1 2147483646)) := by
  have hx : Reachable (finite (-2147483648) 2147483647) :=
    (reachable_iff_canonical _).mpr (by decide)
  have hy : Reachable (finite 1 2147483646) := (reachable_iff_canonical _).mpr (by decide)
  obtain ⟨hadd, hmultiply, -⟩ := add_multiply_decide_once hx hy rfl rfl
  exact ⟨hadd.wide, hmultiply.wide⟩

end Number

end FractionCalculator
