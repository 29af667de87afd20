import FractionCalculator.Proofs.Nearest.Enclosure
import Mathlib.Algebra.Order.Field.Basic
import Mathlib.Algebra.Order.Field.Rat
import Mathlib.Algebra.Order.Ring.Abs
import Mathlib.Data.Int.Order.Units
import Mathlib.Tactic.FieldSimp
import Mathlib.Tactic.Positivity

namespace FractionCalculator

namespace Ratio

def value (f : Ratio) : ℚ :=
  f.num / f.den

theorem abs_sub_value (f g : Ratio) (hf : 0 < f.den) (hg : 0 < g.den) :
    |f.value - g.value| = |(f.det g : ℚ)| / (f.den * g.den) := by
  have hfq : (0 : ℚ) < f.den := by exact_mod_cast hf
  have hgq : (0 : ℚ) < g.den := by exact_mod_cast hg
  have hsub : f.value - g.value = f.det g / (f.den * g.den) := by
    rw [value, value, det, div_sub_div _ _ hfq.ne' hgq.ne']
    push_cast
    ring
  rw [hsub, abs_div, abs_of_pos (mul_pos hfq hgq)]

theorem abs_sub_value_le_iff (x f g : Ratio) (hx : 0 < x.den) (hf : 0 < f.den) (hg : 0 < g.den) :
    |x.value - f.value| ≤ |x.value - g.value| ↔ |x.det f| * g.den ≤ |x.det g| * f.den := by
  have hxq : (0 : ℚ) < x.den := by exact_mod_cast hx
  have hfq : (0 : ℚ) < f.den := by exact_mod_cast hf
  have hgq : (0 : ℚ) < g.den := by exact_mod_cast hg
  rw [abs_sub_value x f hx hf, abs_sub_value x g hx hg,
    div_le_div_iff₀ (mul_pos hxq hfq) (mul_pos hxq hgq), mul_left_comm, mul_left_comm _ (x.den : ℚ),
    mul_le_mul_iff_right₀ hxq]
  exact_mod_cast Iff.rfl

theorem eq_of_value_eq {f g : Ratio} (hf : 0 < f.den) (hg : 0 < g.den)
    (hfc : Int.gcd f.num f.den = 1) (hgc : Int.gcd g.num g.den = 1) (h : f.value = g.value) :
    f = g := by
  obtain ⟨hn, hd⟩ := Rat.div_int_inj hf hg hfc hgc h
  cases f
  cases g
  exact congrArg₂ Ratio.mk hn hd

-- A fraction on the other side of the neighbour `a` is farther from x by its distance to `a`.
theorem abs_sub_value_add {x a b f : Ratio} {p q u v : Int}
    (hxn : x.num = p * a.num + q * b.num) (hxd : x.den = p * a.den + q * b.den)
    (hfn : f.num = u * a.num + v * b.num) (hfd : f.den = u * a.den + v * b.den)
    (hx : 0 < x.den) (ha : 0 < a.den) (hf : 0 < f.den)
    (hp : 0 ≤ p) (hq : 0 ≤ q) (hu : 0 ≤ u) (hv : v ≤ 0) :
    |x.value - f.value| = |x.value - a.value| + |a.value - f.value| := by
  have hxf : x.det f = -(q * u - p * v) * a.det b := by
    rw [det, hxn, hxd, hfn, hfd, det]
    ring
  have hxa : x.det a = -q * a.det b := by
    rw [det, hxn, hxd, det]
    ring
  have haf : a.det f = v * a.det b := by
    rw [det, hfn, hfd, det]
    ring
  have hsum : 0 ≤ q * u - p * v := by
    have := mul_nonneg hq hu
    have := mul_nonpos_of_nonneg_of_nonpos hp hv
    omega
  have habs : |x.det f| * a.den = |x.det a| * f.den + |a.det f| * x.den := by
    rw [hxf, hxa, haf, abs_mul, abs_mul, abs_mul, abs_neg, abs_neg, abs_of_nonneg hsum,
      abs_of_nonneg hq, abs_of_nonpos hv]
    rw [hxd, hfd]
    ring
  have habsq : |(x.det f : ℚ)| * a.den = |(x.det a : ℚ)| * f.den + |(a.det f : ℚ)| * x.den := by
    exact_mod_cast habs
  have hxq : (0 : ℚ) < x.den := by exact_mod_cast hx
  have haq : (0 : ℚ) < a.den := by exact_mod_cast ha
  have hfq : (0 : ℚ) < f.den := by exact_mod_cast hf
  rw [abs_sub_value x f hx hf, abs_sub_value x a hx ha, abs_sub_value a f ha hf]
  field_simp
  linear_combination habsq

-- The best fraction for x within a limit on denominators. Of two at the same distance it is the
-- one of the smaller denominator.
structure IsNearest (limit : Nat) (x : ℚ) (f : Ratio) : Prop where
  den_pos : 0 < f.den
  den_le : f.den ≤ limit
  coprime : Int.gcd f.num f.den = 1
  closest : ∀ g : Ratio, 0 < g.den → g.den ≤ limit → |x - f.value| ≤ |x - g.value|
  tie : ∀ g : Ratio, 0 < g.den → Int.gcd g.num g.den = 1 → g ≠ f →
    |x - g.value| = |x - f.value| → f.den < g.den

end Ratio

namespace Enclosure

variable {limit : Nat} {x near far : Ratio} {nearWeight farWeight : Int}

-- Every fraction within the limit lies on the other side of one of the two neighbours.
theorem beyond (h : Enclosure limit x near far nearWeight farWeight) (f : Ratio)
    (hpos : 0 < f.den) (hle : f.den ≤ limit) :
    |x.value - f.value| = |x.value - near.value| + |near.value - f.value| ∨
      |x.value - f.value| = |x.value - far.value| + |far.value - f.value| := by
  obtain ⟨u, v, hn, hd, hshares⟩ := h.exists_shares f hpos hle
  rcases hshares with ⟨hu, hv⟩ | ⟨hu, hv⟩
  · exact Or.inl (Ratio.abs_sub_value_add h.num_eq h.den_eq hn hd h.x_den_pos h.near_den_pos hpos
      h.near_weight_pos.le h.far_weight_pos.le hu.le hv)
  · have hxn := h.num_eq.trans (add_comm _ _)
    have hxd := h.den_eq.trans (add_comm _ _)
    exact Or.inr (Ratio.abs_sub_value_add hxn hxd (hn.trans (add_comm _ _))
      (hd.trans (add_comm _ _)) h.x_den_pos h.far_den_pos hpos h.far_weight_pos.le
      h.near_weight_pos.le hv.le hu)

-- Up to sign, the distance to one neighbour is the weight of the other.
theorem det_near (h : Enclosure limit x near far nearWeight farWeight) :
    x.det near = -farWeight * near.det far := by
  rw [Ratio.det, h.num_eq, h.den_eq, Ratio.det]
  ring

theorem det_far (h : Enclosure limit x near far nearWeight farWeight) :
    x.det far = nearWeight * near.det far := by
  rw [Ratio.det, h.num_eq, h.den_eq, Ratio.det]
  ring

theorem abs_det_near (h : Enclosure limit x near far nearWeight farWeight) :
    |x.det near| = farWeight := by
  rw [h.det_near, abs_mul, abs_neg, Int.isUnit_iff_abs_eq.mp h.unit, mul_one,
    abs_of_pos h.far_weight_pos]

theorem abs_det_far (h : Enclosure limit x near far nearWeight farWeight) :
    |x.det far| = nearWeight := by
  rw [h.det_far, abs_mul, Int.isUnit_iff_abs_eq.mp h.unit, mul_one, abs_of_pos h.near_weight_pos]

-- Only neighbours that are whole numbers have one denominator.
theorem den_ne (h : Enclosure limit x near far nearWeight farWeight) (hlimit : 2 ≤ limit) :
    near.den ≠ far.den := by
  intro heq
  have hdvd : near.den ∣ near.det far :=
    Int.dvd_sub (Int.dvd_mul_of_dvd_right (dvd_of_eq heq)) (Int.dvd_mul_left ..)
  have hunit := isUnit_of_dvd_unit hdvd h.unit
  have hpos := h.near_den_pos
  have hlt := h.lt_den_add
  rcases Int.isUnit_iff.mp hunit with hone | hneg <;> omega

-- The far neighbour weighs no more than the near one, so when it is as close it has the larger
-- denominator.
theorem den_lt_of_tie (h : Enclosure limit x near far nearWeight farWeight) (hlimit : 2 ≤ limit)
    (htie : |x.value - far.value| ≤ |x.value - near.value|) : near.den < far.den := by
  rw [Ratio.abs_sub_value_le_iff x far near h.x_den_pos h.far_den_pos h.near_den_pos,
    h.abs_det_far, h.abs_det_near] at htie
  have hweight : farWeight * far.den ≤ nearWeight * far.den :=
    mul_le_mul_of_nonneg_right h.weight_le h.far_den_pos.le
  have hle : near.den ≤ far.den := le_of_mul_le_mul_left (htie.trans hweight) h.near_weight_pos
  exact lt_of_le_of_ne hle (h.den_ne hlimit)

theorem near_coprime (h : Enclosure limit x near far nearWeight farWeight) :
    Int.gcd near.num near.den = 1 :=
  Ratio.coprime_of_unit h.unit

theorem far_coprime (h : Enclosure limit x near far nearWeight farWeight) :
    Int.gcd far.num far.den = 1 := by
  have hunit := h.unit
  rw [Ratio.det_swap] at hunit
  exact Ratio.coprime_of_unit (by simpa using hunit)

-- No third fraction is as close as the closer neighbour.
theorem eq_of_abs_sub_le (h : Enclosure limit x near far nearWeight farWeight) (g : Ratio)
    (hpos : 0 < g.den) (hle : g.den ≤ limit) (hg : Int.gcd g.num g.den = 1)
    (hnear : |x.value - g.value| ≤ |x.value - near.value|)
    (hfar : |x.value - g.value| ≤ |x.value - far.value|) : g = near ∨ g = far := by
  rcases h.beyond g hpos hle with hadd | hadd
  · have hzero : near.value - g.value = 0 := abs_nonpos_iff.mp (by linarith)
    exact Or.inl (Ratio.eq_of_value_eq hpos h.near_den_pos hg h.near_coprime (by linarith))
  · have hzero : far.value - g.value = 0 := abs_nonpos_iff.mp (by linarith)
    exact Or.inr (Ratio.eq_of_value_eq hpos h.far_den_pos hg h.far_coprime (by linarith))

theorem min_le (h : Enclosure limit x near far nearWeight farWeight) (g : Ratio)
    (hpos : 0 < g.den) (hle : g.den ≤ limit) :
    |x.value - near.value| ≤ |x.value - g.value| ∨ |x.value - far.value| ≤ |x.value - g.value| := by
  rcases h.beyond g hpos hle with hadd | hadd
  · exact Or.inl (by linarith [abs_nonneg (near.value - g.value)])
  · exact Or.inr (by linarith [abs_nonneg (far.value - g.value)])

theorem near_isNearest (h : Enclosure limit x near far nearWeight farWeight) (hlimit : 2 ≤ limit)
    (hle : |x.value - near.value| ≤ |x.value - far.value|) :
    near.IsNearest limit x.value where
  den_pos := h.near_den_pos
  den_le := h.near_den_le
  coprime := h.near_coprime
  closest g hpos hg := (h.min_le g hpos hg).elim id hle.trans
  tie g hpos hcop hne heq := by
    rcases lt_or_ge (limit : Int) g.den with hwide | hg
    · exact h.near_den_le.trans_lt hwide
    · rcases h.eq_of_abs_sub_le g hpos hg hcop heq.le (heq.le.trans hle) with rfl | rfl
      · exact absurd rfl hne
      · exact h.den_lt_of_tie hlimit heq.le

theorem far_isNearest (h : Enclosure limit x near far nearWeight farWeight)
    (hlt : |x.value - far.value| < |x.value - near.value|) :
    far.IsNearest limit x.value where
  den_pos := h.far_den_pos
  den_le := h.far_den_le
  coprime := h.far_coprime
  closest g hpos hg := (h.min_le g hpos hg).elim hlt.le.trans id
  tie g hpos hcop hne heq := by
    rcases lt_or_ge (limit : Int) g.den with hwide | hg
    · exact h.far_den_le.trans_lt hwide
    · rcases h.eq_of_abs_sub_le g hpos hg hcop (heq.le.trans hlt.le) heq.le with rfl | rfl
      · exact absurd heq hlt.ne'
      · exact absurd rfl hne

end Enclosure

namespace Ratio

theorem error_eq (f : Ratio) (num : Int) (den : Nat) :
    (f.error num den : Int) = |(⟨num, den⟩ : Ratio).det f| := by
  rw [error, det, Int.natCast_natAbs, abs_sub_comm]

-- The walk stops between its two candidates, and the comparison of errors picks the closer one.
theorem nearest_isNearest (limit : Nat) (hlimit : 2 ≤ limit) (num : Int) (den : Nat)
    (hcoprime : Int.gcd num den = 1) (hwide : limit < den) :
    (nearest limit num den).IsNearest limit (num / den) := by
  obtain ⟨restNum, restDen, hstop⟩ :=
    Convergents.walk_stopped limit (by omega) num den hcoprime hwide
  have h := hstop.enclosure
  have hiff := abs_sub_value_le_iff ⟨num, den⟩ _ _ h.x_den_pos h.near_den_pos h.far_den_pos
  rw [← error_eq, ← error_eq] at hiff
  unfold nearest
  simp only
  split_ifs with hle
  · exact h.near_isNearest hlimit (hiff.mpr hle)
  · exact h.far_isNearest (lt_of_not_ge fun hge => hle (hiff.mp hge))

end Ratio

end FractionCalculator
