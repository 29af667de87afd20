import FractionCalculator.Proofs.Nearest.Walk
import Mathlib.Data.Nat.Fib.Basic
import Mathlib.Logic.Function.Iterate

namespace FractionCalculator

-- A point of a walk: the convergents so far and the division that comes next.
structure Expansion where
  convergents : Convergents
  dividend : Int
  divisor : Int

namespace Expansion

variable {limit count : Nat} {e : Expansion}

def start (num den : Int) : Expansion :=
  ⟨Convergents.start, num, den⟩

def quotient (e : Expansion) : Int :=
  e.dividend.fdiv e.divisor

-- The convergents after the division. The walk goes on to them only when its stop test fails.
def next (e : Expansion) : Convergents :=
  e.convergents.push e.quotient

def Stops (limit : Nat) (e : Expansion) : Prop :=
  limit < e.next.latest.den

instance (limit : Nat) (e : Expansion) : Decidable (e.Stops limit) :=
  inferInstanceAs (Decidable ((limit : Int) < e.next.latest.den))

def advance (e : Expansion) : Expansion :=
  ⟨e.next, e.divisor, e.dividend - e.quotient * e.divisor⟩

-- The stop test holds for the first time after `count` steps. Each of the steps divides, and so
-- does the test.
structure HaltsAfter (limit count : Nat) (e : Expansion) : Prop where
  divisor_pos : ∀ i ≤ count, 0 < (advance^[i] e).divisor
  not_stops : ∀ i < count, ¬ (advance^[i] e).Stops limit
  stops : (advance^[count] e).Stops limit

theorem haltsAfter_zero_iff : e.HaltsAfter limit 0 ↔ 0 < e.divisor ∧ e.Stops limit := by
  constructor
  · intro h
    exact ⟨h.divisor_pos 0 le_rfl, h.stops⟩
  · rintro ⟨hpos, hstops⟩
    refine ⟨fun i hi => ?_, fun i hi => absurd hi (Nat.not_lt_zero i), hstops⟩
    obtain rfl := Nat.le_zero.mp hi
    exact hpos

theorem haltsAfter_succ_iff : e.HaltsAfter limit (count + 1) ↔
    0 < e.divisor ∧ ¬ e.Stops limit ∧ e.advance.HaltsAfter limit count := by
  constructor
  · intro h
    refine ⟨h.divisor_pos 0 (Nat.zero_le _), h.not_stops 0 (Nat.succ_pos _), ?_, ?_, h.stops⟩
    · exact fun i hi => h.divisor_pos (i + 1) (Nat.succ_le_succ hi)
    · exact fun i hi => h.not_stops (i + 1) (Nat.succ_lt_succ hi)
  · rintro ⟨hpos, hgo, h⟩
    refine ⟨fun i hi => ?_, fun i hi => ?_, h.stops⟩
    · cases i with
      | zero => exact hpos
      | succ i => exact h.divisor_pos i (Nat.le_of_succ_le_succ hi)
    · cases i with
      | zero => exact hgo
      | succ i => exact h.not_stops i (Nat.lt_of_succ_lt_succ hi)

-- With a positive divisor the floor is what division of integers gives.
theorem next_mk (c : Convergents) (dividend : Int) (divisor : Nat) :
    (mk c dividend divisor).next = c.push (dividend / divisor) := by
  rw [next, quotient, Int.fdiv_eq_ediv_of_nonneg _ (Int.natCast_nonneg divisor)]

theorem advance_mk (c : Convergents) (dividend : Int) (divisor : Nat) (hd : divisor ≠ 0) :
    (mk c dividend divisor).advance =
      ⟨c.push (dividend / divisor), divisor, (dividend % divisor).toNat⟩ := by
  have hrest : dividend - dividend / divisor * divisor = dividend % divisor := by
    linear_combination -Int.mul_ediv_add_emod dividend divisor
  rw [advance, next_mk, quotient, Int.fdiv_eq_ediv_of_nonneg _ (Int.natCast_nonneg divisor), hrest,
    Convergents.toNat_emod dividend divisor hd]

theorem stops_mk (c : Convergents) (dividend : Int) (divisor : Nat) :
    (mk c dividend divisor).Stops limit ↔ limit < (c.push (dividend / divisor)).latest.den := by
  rw [Stops, next_mk]

-- A walk that halts ends with the convergents of its last point.
theorem HaltsAfter.walk_eq {c : Convergents} {dividend : Int} {divisor : Nat}
    (h : HaltsAfter limit count ⟨c, dividend, divisor⟩) :
    c.walk limit dividend divisor = (advance^[count] ⟨c, dividend, divisor⟩).convergents := by
  induction count generalizing c dividend divisor with
  | zero =>
      obtain ⟨hpos, hstops⟩ := haltsAfter_zero_iff.mp h
      have hd : divisor ≠ 0 := by simpa using hpos.ne'
      rw [Convergents.walk, dif_neg hd]
      exact if_pos ((stops_mk c dividend divisor).mp hstops)
  | succ count ih =>
      obtain ⟨hpos, hgo, hrest⟩ := haltsAfter_succ_iff.mp h
      have hd : divisor ≠ 0 := by simpa using hpos.ne'
      rw [advance_mk c dividend divisor hd] at hrest
      rw [Convergents.walk, dif_neg hd, Function.iterate_succ_apply,
        advance_mk c dividend divisor hd, ← ih hrest]
      exact if_neg fun hstops => hgo ((stops_mk c dividend divisor).mpr hstops)

-- The determinant of the two convergents at hand.
def det (e : Expansion) : Int :=
  e.convergents.latest.det e.convergents.earlier

theorem det_advance (e : Expansion) : e.advance.det = -e.det :=
  Convergents.push_det e.convergents e.quotient

theorem det_iterate_start (num den : Int) (i : Nat) :
    (advance^[i] (start num den)).det = (-1) ^ i := by
  induction i with
  | zero => simp [det, start, Convergents.start, Ratio.det]
  | succ i ih => rw [Function.iterate_succ_apply', det_advance, ih, pow_succ, mul_neg_one]

end Expansion

namespace Convergents

variable {limit : Nat} {num : Int} {den : Nat} {c : Convergents} {restNum : Int} {restDen : Nat}

theorem Walking.fib_le_push (h : Walking limit num den c restNum restDen) (hd : restDen ≠ 0)
    {k : Nat} (hearlier : (Nat.fib k : Int) ≤ c.earlier.den)
    (hlatest : (Nat.fib (k + 1) : Int) ≤ c.latest.den) :
    (Nat.fib (k + 2) : Int) ≤ (c.push (restNum / restDen)).latest.den := by
  rw [Nat.fib_add_two, Nat.cast_add]
  linarith [h.add_den_le_push hd]

-- Induction along the walk. Denominators grow at least as fast as Fibonacci numbers, which bounds
-- the steps by the limit alone, however large what is expanded.
theorem Walking.exists_haltsAfter (h : Walking limit num den c restNum restDen)
    (hcoprime : Int.gcd num den = 1) (hwide : limit < den) (k : Nat)
    (hearlier : (Nat.fib k : Int) ≤ c.earlier.den)
    (hlatest : (Nat.fib (k + 1) : Int) ≤ c.latest.den) :
    ∃ count, Expansion.HaltsAfter limit count ⟨c, restNum, restDen⟩ ∧
      Nat.fib (k + 1 + count) ≤ limit := by
  fun_induction walk limit restNum restDen c generalizing k with
  | case1 restNum c =>
      exact absurd rfl (h.rest_ne_zero hcoprime hwide)
  | case2 restNum restDen c hd next hlt =>
      have hpos : (0 : Int) < restDen := by omega
      refine ⟨0, Expansion.haltsAfter_zero_iff.mpr ⟨hpos, ?_⟩, ?_⟩
      · exact (Expansion.stops_mk c restNum restDen).mpr hlt
      · exact_mod_cast hlatest.trans h.latest_den_le
  | case3 restNum restDen c hd next hle ih =>
      have hpos : (0 : Int) < restDen := by omega
      obtain ⟨count, hcount, hfib⟩ := ih (h.push hd (not_lt.mp hle)) (k + 1) hlatest
        (h.fib_le_push hd hearlier hlatest)
      refine ⟨count + 1, Expansion.haltsAfter_succ_iff.mpr ⟨hpos, ?_, ?_⟩, ?_⟩
      · exact fun hstops => hle ((Expansion.stops_mk c restNum restDen).mp hstops)
      · rw [Expansion.advance_mk c restNum restDen hd]
        exact hcount
      · rwa [show k + 1 + (count + 1) = k + 1 + 1 + count by omega]

-- The first step is always made, because the denominator of a whole number is one.
theorem exists_haltsAfter (limit : Nat) (hlimit : 1 ≤ limit) (num : Int) (den : Nat)
    (hcoprime : Int.gcd num den = 1) (hwide : limit < den) :
    ∃ count, (Expansion.start num den).HaltsAfter limit count ∧ Nat.fib count ≤ limit := by
  have hd : den ≠ 0 := by omega
  have hfirst := walking_first limit hlimit num den hd
  obtain ⟨count, hcount, hfib⟩ := hfirst.exists_haltsAfter hcoprime hwide 0 (by simp [start])
    (by simp [start])
  refine ⟨count + 1, Expansion.haltsAfter_succ_iff.mpr ⟨?_, ?_, ?_⟩, ?_⟩
  · exact Int.natCast_pos.mpr (Nat.pos_of_ne_zero hd)
  · exact fun hstops => not_lt.mpr hfirst.latest_den_le
      ((Expansion.stops_mk start num den).mp hstops)
  · rw [Expansion.start, Expansion.advance_mk start num den hd]
    exact hcount
  · rwa [show 0 + 1 + count = count + 1 by omega] at hfib

end Convergents

end FractionCalculator
