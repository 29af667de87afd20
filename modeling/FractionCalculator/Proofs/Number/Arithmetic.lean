import FractionCalculator.Number.Arithmetic
import FractionCalculator.Proofs.Number.RangeDecision

namespace FractionCalculator

namespace Exact

-- The pair before the range decision is a fraction, and it is x.
def Denotes (e : Exact) (x : ℚ) : Prop :=
  ∃ num den, e = ratio num den ∧ den ≠ 0 ∧ (num / den : ℚ) = x

theorem Denotes.fit_eq {e : Exact} {x : ℚ} (h : e.Denotes x) : e.fit = Number.ofRat x := by
  obtain ⟨num, den, rfl, hd, rfl⟩ := h
  exact fit_ratio num den hd

-- Taking out a divisor leaves a part that is zero only where it was.
theorem exists_quotient {part : Int} {divisor : Nat} (hd : divisor ≠ 0)
    (hdvd : (divisor : Int) ∣ part) :
    ∃ q : Int, part / divisor = q ∧ (part : ℚ) = divisor * q ∧ (part ≠ 0 → q ≠ 0) := by
  obtain ⟨q, hq⟩ := hdvd
  refine ⟨q, Int.ediv_eq_of_eq_mul_right (Int.natCast_ne_zero.mpr hd) hq, by exact_mod_cast hq, ?_⟩
  intro hpart
  exact right_ne_zero_of_mul (hq ▸ hpart)

-- The least common denominator is not zero, and over it stands the exact sum.
theorem sum_denotes (a c : Int) (b d : Nat) (hb : b ≠ 0) (hd : d ≠ 0) :
    (sum (.finite a b) (.finite c d)).Denotes (a / b + c / d) := by
  have hshared : b.gcd d ≠ 0 := Nat.gcd_ne_zero_left hb
  obtain ⟨left, hl, hbq, hl0⟩ :=
    exists_quotient hshared (Int.natCast_dvd_natCast.mpr (Nat.gcd_dvd_left b d))
  obtain ⟨right, hr, hdq, hr0⟩ :=
    exists_quotient hshared (Int.natCast_dvd_natCast.mpr (Nat.gcd_dvd_right b d))
  have hl0 := hl0 (Int.natCast_ne_zero.mpr hb)
  have hr0 := hr0 (Int.natCast_ne_zero.mpr hd)
  refine ⟨left * c + right * a, left * right * (b.gcd d : Nat), by simp only [sum, hl, hr],
    mul_ne_zero (mul_ne_zero hl0 hr0) (Int.natCast_ne_zero.mpr hshared), ?_⟩
  rw [Int.cast_natCast] at hbq hdq
  rw [hbq, hdq]
  push_cast
  field_simp
  ring

-- Each divisor is common to the two parts that it is taken out of.
theorem product_denotes (a c : Int) (b d : Nat) (hb : b ≠ 0) (hd : d ≠ 0) :
    (product (.finite a b) (.finite c d)).Denotes (a / b * (c / d)) := by
  have hfirst : Int.gcd a d ≠ 0 := by simp [Int.gcd_eq_zero_iff, hd]
  have hsecond : Int.gcd b c ≠ 0 := by simp [Int.gcd_eq_zero_iff, hb]
  obtain ⟨a', ha, haq, -⟩ := exists_quotient hfirst (Int.gcd_dvd_left a d)
  obtain ⟨d', hd', hdq, hd0⟩ := exists_quotient hfirst (Int.gcd_dvd_right a d)
  obtain ⟨b', hb', hbq, hb0⟩ := exists_quotient hsecond (Int.gcd_dvd_left b c)
  obtain ⟨c', hc, hcq, -⟩ := exists_quotient hsecond (Int.gcd_dvd_right b c)
  have hb0 := hb0 (Int.natCast_ne_zero.mpr hb)
  have hd0 := hd0 (Int.natCast_ne_zero.mpr hd)
  refine ⟨a' * c', b' * d', by simp only [product, ha, hb', hc, hd'], mul_ne_zero hb0 hd0, ?_⟩
  rw [Int.cast_natCast] at hbq hdq
  rw [haq, hbq, hcq, hdq]
  push_cast
  field_simp

end Exact

namespace Number

def value (x : Number) : ℚ :=
  x.numerator / x.denominator

theorem exists_of_isFinite {x : Number} (h : x.isFinite = true) :
    ∃ num den, x = finite num den := by
  cases x with
  | finite num den => exact ⟨num, den, rfl⟩
  | _ => cases h

end Number

end FractionCalculator
