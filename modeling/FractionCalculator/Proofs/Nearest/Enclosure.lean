import FractionCalculator.Proofs.Nearest.Walk

namespace FractionCalculator

-- Two neighbours within the limit, with a fraction between them. The weights tell how it is mixed
-- from the two. Any fraction between neighbours has at least the sum of their denominators, which
-- here is beyond the limit.
structure Enclosure (limit : Nat) (x near far : Ratio) (nearWeight farWeight : Int) : Prop where
  num_eq : x.num = nearWeight * near.num + farWeight * far.num
  den_eq : x.den = nearWeight * near.den + farWeight * far.den
  unit : IsUnit (near.det far)
  far_weight_pos : 0 < farWeight
  weight_le : farWeight ≤ nearWeight
  near_den_pos : 0 < near.den
  near_den_le : near.den ≤ limit
  far_den_pos : 0 < far.den
  far_den_le : far.den ≤ limit
  lt_den_add : (limit : Int) < near.den + far.den

namespace Convergents

@[simp] theorem semi_num (c : Convergents) (count : Int) :
    (c.semi count).num = c.earlier.num + count * c.latest.num := rfl

@[simp] theorem semi_den (c : Convergents) (count : Int) :
    (c.semi count).den = c.earlier.den + count * c.latest.den := rfl

theorem det_semi (c : Convergents) (count : Int) :
    c.latest.det (c.semi count) = c.latest.det c.earlier := by
  simp only [Ratio.det, semi_num, semi_den]
  ring

-- The last convergent and the last fraction on the way to the next one enclose what is expanded.
theorem Stopped.enclosure {limit : Nat} {num : Int} {den : Nat} {c : Convergents} {restNum : Int}
    {restDen : Nat} (h : Stopped limit num den c restNum restDen) :
    Enclosure limit ⟨num, den⟩ c.latest (c.bound limit)
      (restNum - (limit - c.earlier.den) / c.latest.den * restDen) restDen := by
  have hpos := h.latest_den_pos
  have hrest : (0 : Int) < restDen := by exact_mod_cast h.rest_pos
  unfold bound
  have hcount_le := Int.ediv_mul_le ((limit : Int) - c.earlier.den) hpos.ne'
  have hcount_lt := Int.lt_ediv_add_one_mul_self ((limit : Int) - c.earlier.den) hpos
  have hquotient : (limit - c.earlier.den) / c.latest.den < restNum / restDen :=
    Int.ediv_lt_of_lt_mul hpos (by linarith [h.next_lt])
  -- only the two bounds on the count matter from here on, and no division is left
  generalize ((limit : Int) - c.earlier.den) / c.latest.den = count at *
  have hweight : (count + 1) * restDen ≤ restNum :=
    (mul_le_mul_of_nonneg_right hquotient hrest.le).trans (Int.ediv_mul_le restNum hrest.ne')
  have hsum : (limit : Int) < c.latest.den + (c.semi count).den := by
    rw [semi_den]
    linarith
  constructor
  · rw [semi_num]
    linear_combination h.num_eq
  · rw [semi_den]
    linear_combination h.den_eq
  · rw [det_semi]
    exact h.unit
  · exact hrest
  · linarith
  · exact hpos
  · exact h.latest_den_le
  · linarith [h.latest_den_le]
  · rw [semi_den]
    linarith
  · exact hsum

end Convergents

namespace Enclosure

variable {limit : Nat} {x near far : Ratio} {nearWeight farWeight : Int}

theorem near_weight_pos (h : Enclosure limit x near far nearWeight farWeight) : 0 < nearWeight :=
  h.far_weight_pos.trans_le h.weight_le

theorem x_den_pos (h : Enclosure limit x near far nearWeight farWeight) : 0 < x.den := by
  rw [h.den_eq]
  exact add_pos (mul_pos h.near_weight_pos h.near_den_pos) (mul_pos h.far_weight_pos h.far_den_pos)

-- Neighbours span all fractions.
theorem exists_shares (h : Enclosure limit x near far nearWeight farWeight) (f : Ratio)
    (hpos : 0 < f.den) (hle : f.den ≤ limit) :
    ∃ u v, f.num = u * near.num + v * far.num ∧ f.den = u * near.den + v * far.den ∧
      (0 < u ∧ v ≤ 0 ∨ u ≤ 0 ∧ 0 < v) := by
  have hsq := Int.isUnit_mul_self h.unit
  have hspan : ∃ u v, f.num = u * near.num + v * far.num ∧
      f.den = u * near.den + v * far.den := by
    refine ⟨near.det far * f.det far, near.det far * near.det f, ?_, ?_⟩
    · simp only [Ratio.det] at hsq ⊢
      linear_combination -f.num * hsq
    · simp only [Ratio.det] at hsq ⊢
      linear_combination -f.den * hsq
  obtain ⟨u, v, hn, hd⟩ := hspan
  refine ⟨u, v, hn, hd, ?_⟩
  have hnear := h.near_den_pos
  have hfar := h.far_den_pos
  rcases lt_or_ge 0 u with hu | hu <;> rcases lt_or_ge 0 v with hv | hv
  -- two positive shares would pass the limit
  · have := le_mul_of_one_le_left hnear.le hu
    have := le_mul_of_one_le_left hfar.le hv
    linarith [h.lt_den_add]
  · exact Or.inl ⟨hu, hv⟩
  · exact Or.inr ⟨hu, hv⟩
  -- and without one the denominator would not be positive
  · have := mul_nonpos_of_nonpos_of_nonneg hu hnear.le
    have := mul_nonpos_of_nonpos_of_nonneg hv hfar.le
    linarith

end Enclosure

end FractionCalculator
