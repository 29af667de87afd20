import FractionCalculator.Proofs.Nearest.Halting
import FractionCalculator.Proofs.Number.RangeDecision

namespace FractionCalculator

namespace Ratio

theorem value_lt_iff (f g : Ratio) (hf : 0 < f.den) (hg : 0 < g.den) :
    f.value < g.value ↔ f.det g < 0 := by
  have hfq : (0 : ℚ) < f.den := by exact_mod_cast hf
  have hgq : (0 : ℚ) < g.den := by exact_mod_cast hg
  rw [value, value, div_lt_div_iff₀ hfq hgq, det, sub_neg]
  exact_mod_cast Iff.rfl

-- A fraction in lowest terms with a denominator from one up to the limit.
structure Fits (limit : Nat) (f : Ratio) : Prop where
  one_le_den : 1 ≤ f.den
  den_le : f.den ≤ limit
  coprime : Int.gcd f.num f.den = 1

-- The two fractions lie strictly on opposite sides of x.
def Straddle (f g : Ratio) (x : ℚ) : Prop :=
  f.value < x ∧ x < g.value ∨ g.value < x ∧ x < f.value

theorem nearest_eq_latest_or_bound (limit : Nat) (num : Int) (den : Nat) :
    nearest limit num den = (Convergents.start.walk limit num den).latest ∨
      nearest limit num den = (Convergents.start.walk limit num den).bound limit := by
  unfold nearest
  simp only
  split_ifs
  · exact Or.inl rfl
  · exact Or.inr rfl

end Ratio

namespace Enclosure

variable {limit : Nat} {x near far : Ratio} {nearWeight farWeight : Int}

theorem near_fits (h : Enclosure limit x near far nearWeight farWeight) : near.Fits limit :=
  ⟨h.near_den_pos, h.near_den_le, h.near_coprime⟩

theorem far_fits (h : Enclosure limit x near far nearWeight farWeight) : far.Fits limit :=
  ⟨h.far_den_pos, h.far_den_le, h.far_coprime⟩

-- Both weights are positive, so the determinant of the neighbours tells which of them is below.
theorem straddle (h : Enclosure limit x near far nearWeight farWeight) :
    near.Straddle far x.value := by
  have hnear := h.near_weight_pos
  have hfar := h.far_weight_pos
  rcases Int.isUnit_iff.mp h.unit with hone | hneg
  · refine Or.inr ⟨?_, ?_⟩
    · rw [Ratio.value_lt_iff far x h.far_den_pos h.x_den_pos, Ratio.det_swap far x, h.det_far, hone]
      omega
    · rw [Ratio.value_lt_iff x near h.x_den_pos h.near_den_pos, h.det_near, hone]
      omega
  · refine Or.inl ⟨?_, ?_⟩
    · rw [Ratio.value_lt_iff near x h.near_den_pos h.x_den_pos, Ratio.det_swap near x, h.det_near,
        hneg]
      omega
    · rw [Ratio.value_lt_iff x far h.x_den_pos h.far_den_pos, h.det_far, hneg]
      omega

end Enclosure

-- What a walk from the fraction in lowest terms that denotes x does in `count` steps, and what can
-- be relied on in the convergents where it stops.
structure SafeWalk (limit : Nat) (x : ℚ) (count : Nat) (c : Convergents) : Prop where
  halts : (Expansion.start x.num x.den).HaltsAfter limit count
  reached : (Expansion.advance^[count] (Expansion.start x.num x.den)).convergents = c
  det_eq : ∀ i ≤ count, (Expansion.advance^[i] (Expansion.start x.num x.den)).det = (-1) ^ i
  latest_fits : c.latest.Fits limit
  bound_fits : (c.bound limit).Fits limit
  straddle : c.latest.Straddle (c.bound limit) x

theorem exists_safeWalk (limit : Nat) (hlimit : 1 ≤ limit) (x : ℚ) (hwide : limit < x.den) :
    ∃ count, Nat.fib count ≤ limit ∧
      SafeWalk limit x count (Convergents.start.walk limit x.num x.den) := by
  obtain ⟨count, hcount, hfib⟩ :=
    Convergents.exists_haltsAfter limit hlimit x.num x.den x.reduced hwide
  obtain ⟨restNum, restDen, hstop⟩ :=
    Convergents.walk_stopped limit hlimit x.num x.den x.reduced hwide
  have h := hstop.enclosure
  refine ⟨count, hfib, ?_⟩
  constructor
  · exact hcount
  · exact hcount.walk_eq.symm
  · exact fun i _ => Expansion.det_iterate_start x.num x.den i
  · exact h.near_fits
  · exact h.far_fits
  · have hstraddle := h.straddle
    have hvalue : (⟨x.num, x.den⟩ : Ratio).value = x := Ratio.value_lowest x
    rwa [hvalue] at hstraddle

-- The forty-seventh Fibonacci number is beyond the largest word.
theorem le_of_fib_le_wordMax {count : Nat} (h : Nat.fib count ≤ wordMax) : count ≤ 46 := by
  by_contra hlt
  have hmono : Nat.fib 47 ≤ Nat.fib count := Nat.fib_mono (by omega)
  have hfib : Nat.fib 47 = 2971215073 := by decide +kernel
  have hmax : wordMax = 2147483647 := rfl
  omega

namespace Exact

-- However large the numerator and the denominator are, 46 steps are enough for the walk that a
-- rounding makes, and the rounding takes one of the two fractions it leaves.
theorem rounding_walk_safe (num den : Int) (hd : den ≠ 0)
    (hwide : wordMax < (num / den : ℚ).den) :
    ∃ count ≤ 46, ∃ c f,
      c = Convergents.start.walk wordMax (num / den : ℚ).num (num / den : ℚ).den ∧
      SafeWalk wordMax (num / den) count c ∧
      (ratio num den).rounding? = some ⟨(num / den : ℚ).num, (num / den : ℚ).den, f⟩ ∧
      (f = c.latest ∨ f = c.bound wordMax) := by
  obtain ⟨count, hfib, hsafe⟩ := exists_safeWalk wordMax (by decide) (num / den) hwide
  refine ⟨count, le_of_fib_le_wordMax hfib, _, _, rfl, hsafe, ?_,
    Ratio.nearest_eq_latest_or_bound wordMax (num / den : ℚ).num (num / den : ℚ).den⟩
  rw [rounding?_ratio num den hd, if_neg (not_le.mpr hwide), Ratio.fitted,
    if_neg (not_le.mpr hwide)]

-- All 46 steps are needed for a negative quotient of Fibonacci numbers.
theorem rounding_walk_safe_fibonacci :
    wordMax < ((1836311903 : Int) / (-4807526976 : Int) : ℚ).den ∧
    SafeWalk wordMax ((1836311903 : Int) / (-4807526976 : Int)) 46
      ⟨⟨-433494437, 1134903170⟩, ⟨-701408733, 1836311903⟩⟩ ∧
    (ratio 1836311903 (-4807526976)).rounding? =
      some ⟨-1836311903, 4807526976, ⟨-701408733, 1836311903⟩⟩ := by
  have hwide : wordMax < ((1836311903 : Int) / (-4807526976 : Int) : ℚ).den := by decide +kernel
  have hnum : ((1836311903 : Int) / (-4807526976 : Int) : ℚ).num = -1836311903 := by
    decide +kernel
  have hden : ((1836311903 : Int) / (-4807526976 : Int) : ℚ).den = 4807526976 := by
    decide +kernel
  have hgo : ∀ i < 46,
      ¬ (Expansion.advance^[i] (Expansion.start (-1836311903) 4807526976)).Stops wordMax := by
    decide +kernel
  have hend : (Expansion.advance^[46] (Expansion.start (-1836311903) 4807526976)).convergents =
      ⟨⟨-433494437, 1134903170⟩, ⟨-701408733, 1836311903⟩⟩ := by
    decide +kernel
  obtain ⟨count, hle, c, f, -, hsafe, -, -⟩ :=
    rounding_walk_safe 1836311903 (-4807526976) (by decide) hwide
  have hstops := hsafe.halts.stops
  have hreached := hsafe.reached
  rw [hnum, hden] at hstops hreached
  have hcount : count = 46 := by
    by_contra hne
    exact hgo count (by omega) hstops
  rw [hcount] at hreached hsafe
  exact ⟨hwide, hend ▸ hreached ▸ hsafe, by decide +kernel⟩

end Exact

end FractionCalculator
