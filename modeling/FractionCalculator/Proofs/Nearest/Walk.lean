import FractionCalculator.Number.Nearest
import Mathlib.Algebra.Group.Int.Units
import Mathlib.Tactic.LinearCombination
import Mathlib.Tactic.Linarith
import Mathlib.Tactic.Ring

namespace FractionCalculator

namespace Ratio

-- Zero between two spellings of one fraction, one or minus one between neighbours.
def det (f g : Ratio) : Int :=
  f.num * g.den - g.num * f.den

theorem det_swap (f g : Ratio) : f.det g = -g.det f := by
  simp only [det]
  ring

theorem coprime_of_unit {f g : Ratio} (hu : IsUnit (f.det g)) : Int.gcd f.num f.den = 1 := by
  have hdvd : (Int.gcd f.num f.den : Int) ∣ f.det g :=
    Int.dvd_sub (Int.dvd_mul_of_dvd_left (Int.gcd_dvd_left ..))
      (Int.dvd_mul_of_dvd_right (Int.gcd_dvd_right ..))
  simpa using Int.ofNat_isUnit.mp (isUnit_of_dvd_unit hdvd hu)

end Ratio

namespace Convergents

@[simp] theorem push_earlier (c : Convergents) (quotient : Int) :
    (c.push quotient).earlier = c.latest := rfl

@[simp] theorem push_latest_num (c : Convergents) (quotient : Int) :
    (c.push quotient).latest.num = c.earlier.num + quotient * c.latest.num := rfl

@[simp] theorem push_latest_den (c : Convergents) (quotient : Int) :
    (c.push quotient).latest.den = c.earlier.den + quotient * c.latest.den := rfl

theorem push_det (c : Convergents) (quotient : Int) :
    (c.push quotient).latest.det (c.push quotient).earlier = -c.latest.det c.earlier := by
  simp only [Ratio.det, push_earlier, push_latest_num, push_latest_den]
  ring

-- While restNum / restDen is still to be expanded, the two convergents, weighted by it, add up
-- to num / den.
structure Expands (num : Int) (den : Nat) (c : Convergents) (restNum : Int) (restDen : Nat) :
    Prop where
  num_eq : num = restNum * c.latest.num + restDen * c.earlier.num
  den_eq : (den : Int) = restNum * c.latest.den + restDen * c.earlier.den
  unit : IsUnit (c.latest.det c.earlier)

theorem expands_start (num : Int) (den : Nat) : Expands num den start num den := by
  constructor <;> simp [start, Ratio.det]

theorem toNat_emod (restNum : Int) (restDen : Nat) (hd : restDen ≠ 0) :
    ((restNum % restDen).toNat : Int) = restNum % restDen :=
  Int.toNat_of_nonneg (Int.emod_nonneg _ (by exact_mod_cast hd))

-- Dividing leaves the weighted sum of the two convergents as it was, in either component.
theorem Expands.push {num : Int} {den : Nat} {c : Convergents} {restNum : Int} {restDen : Nat}
    (h : Expands num den c restNum restDen) (hd : restDen ≠ 0) :
    Expands num den (c.push (restNum / restDen)) restDen (restNum % restDen).toNat := by
  have hdivide := Int.mul_ediv_add_emod restNum restDen
  have hrest := toNat_emod restNum restDen hd
  constructor
  · rw [hrest, h.num_eq, push_latest_num, push_earlier]
    linear_combination -c.latest.num * hdivide
  · rw [hrest, h.den_eq, push_latest_den, push_earlier]
    linear_combination -c.latest.den * hdivide
  · rw [push_det]
    exact h.unit.neg

-- The state of a walk after its first step. The rest is greater than one, so that all further
-- quotients are positive and denominators grow.
structure Walking (limit : Nat) (num : Int) (den : Nat) (c : Convergents)
    (restNum : Int) (restDen : Nat) : Prop extends Expands num den c restNum restDen where
  rest_lt : (restDen : Int) < restNum
  earlier_den_nonneg : 0 ≤ c.earlier.den
  earlier_den_le : c.earlier.den ≤ limit
  latest_den_pos : 0 < c.latest.den
  latest_den_le : c.latest.den ≤ limit

-- The first quotient is the integer part, which may be negative.
theorem walking_first (limit : Nat) (hlimit : 1 ≤ limit) (num : Int) (den : Nat) (hd : den ≠ 0) :
    Walking limit num den (start.push (num / den)) den (num % den).toNat where
  toExpands := (expands_start num den).push hd
  rest_lt := by
    rw [toNat_emod num den hd]
    exact Int.emod_lt_of_pos _ (by omega)
  earlier_den_nonneg := by simp [start]
  earlier_den_le := by simp [start]
  latest_den_pos := by simp [start]
  latest_den_le := by simpa [start] using hlimit

-- Quotients after the first step are at least one.
theorem Walking.add_den_le_push {limit : Nat} {num : Int} {den : Nat} {c : Convergents}
    {restNum : Int} {restDen : Nat} (h : Walking limit num den c restNum restDen)
    (hd : restDen ≠ 0) :
    c.earlier.den + c.latest.den ≤ (c.push (restNum / restDen)).latest.den := by
  have hq : 1 ≤ restNum / restDen :=
    (Int.le_ediv_iff_mul_le (by omega)).mpr (by linarith [h.rest_lt])
  have hgrow : c.latest.den ≤ restNum / restDen * c.latest.den :=
    le_mul_of_one_le_left h.latest_den_pos.le hq
  rw [push_latest_den]
  linarith

theorem Walking.push {limit : Nat} {num : Int} {den : Nat} {c : Convergents} {restNum : Int}
    {restDen : Nat} (h : Walking limit num den c restNum restDen) (hd : restDen ≠ 0)
    (hle : (c.push (restNum / restDen)).latest.den ≤ limit) :
    Walking limit num den (c.push (restNum / restDen)) restDen (restNum % restDen).toNat where
  toExpands := h.toExpands.push hd
  rest_lt := by
    rw [toNat_emod restNum restDen hd]
    exact Int.emod_lt_of_pos _ (by omega)
  earlier_den_nonneg := h.latest_den_pos.le
  earlier_den_le := h.latest_den_le
  latest_den_pos := by
    linarith [h.add_den_le_push hd, h.latest_den_pos, h.earlier_den_nonneg]
  latest_den_le := hle

-- When nothing is left to expand, num / den itself is the latest convergent.
theorem Walking.rest_ne_zero {limit : Nat} {num : Int} {den : Nat} {c : Convergents}
    {restNum : Int} {restDen : Nat} (h : Walking limit num den c restNum restDen)
    (hcoprime : Int.gcd num den = 1) (hwide : limit < den) : restDen ≠ 0 := by
  rintro rfl
  have hnum : num = restNum * c.latest.num := by simpa using h.num_eq
  have hden : (den : Int) = restNum * c.latest.den := by simpa using h.den_eq
  have hone : restNum ∣ (Int.gcd num den : Int) := Int.dvd_coe_gcd ⟨_, hnum⟩ ⟨_, hden⟩
  rw [hcoprime] at hone
  have hpos : 0 ≤ restNum := h.rest_lt.le
  rw [Int.eq_one_of_dvd_one hpos hone, one_mul] at hden
  have := h.latest_den_le
  omega

-- Where a walk stops something is left, and the next convergent is beyond the limit.
structure Stopped (limit : Nat) (num : Int) (den : Nat) (c : Convergents)
    (restNum : Int) (restDen : Nat) : Prop extends Walking limit num den c restNum restDen where
  rest_pos : 0 < restDen
  next_lt : (limit : Int) < c.earlier.den + restNum / restDen * c.latest.den

-- Induction along the walk. The rest cannot vanish before the limit is passed, because the whole
-- denominator is beyond it.
theorem Walking.stopped {limit : Nat} {num : Int} {den : Nat} {c : Convergents} {restNum : Int}
    {restDen : Nat} (h : Walking limit num den c restNum restDen)
    (hcoprime : Int.gcd num den = 1) (hwide : limit < den) :
    ∃ lastNum lastDen, Stopped limit num den (walk limit restNum restDen c) lastNum lastDen := by
  fun_induction walk limit restNum restDen c with
  | case1 restNum c =>
      exact absurd rfl (h.rest_ne_zero hcoprime hwide)
  | case2 restNum restDen c hd next hlt =>
      exact ⟨restNum, restDen, { h with rest_pos := Nat.pos_of_ne_zero hd, next_lt := hlt }⟩
  | case3 restNum restDen c hd next hle ih =>
      exact ih (h.push hd (not_lt.mp hle))

theorem walk_stopped (limit : Nat) (hlimit : 1 ≤ limit) (num : Int) (den : Nat)
    (hcoprime : Int.gcd num den = 1) (hwide : limit < den) :
    ∃ lastNum lastDen, Stopped limit num den (walk limit num den start) lastNum lastDen := by
  have hd : den ≠ 0 := by omega
  have hfirst := walking_first limit hlimit num den hd
  rw [walk, dif_neg hd]
  simp only
  rw [if_neg (not_lt.mpr hfirst.latest_den_le)]
  exact hfirst.stopped hcoprime hwide

end Convergents

end FractionCalculator
