import FractionCalculator.Proofs.Number.Canonical

namespace FractionCalculator

theorem isWritable_of_natAbs_le {n : Int} (h : n.natAbs ≤ 10 ^ 20) : isWritable n = true := by
  have hdigits : 20 < digitLimit := by decide
  unfold isWritable
  generalize digitLimit = limit at hdigits
  exact decide_eq_true (h.trans_lt (Nat.pow_lt_pow_right (by decide) hdigits))

theorem isWritable_mono {m n : Int} (h : m.natAbs ≤ n.natAbs) (hn : isWritable n = true) :
    isWritable m = true :=
  decide_eq_true (h.trans_lt (of_decide_eq_true hn))

-- Cancelling makes no part longer.
theorem natAbs_num_div_le (num : Int) {den : Int} (hd : den ≠ 0) :
    (num / den : ℚ).num.natAbs ≤ num.natAbs := by
  rcases eq_or_ne num 0 with rfl | hnum
  · simp
  · rw [Rat.intCast_div_eq_divInt]
    exact Int.natAbs_le_of_dvd_ne_zero (Rat.num_dvd num hd) hnum

theorem den_div_le_natAbs (num : Int) {den : Int} (hd : den ≠ 0) :
    (num / den : ℚ).den ≤ den.natAbs := by
  rw [Rat.intCast_div_eq_divInt]
  exact Int.natAbs_le_of_dvd_ne_zero (Rat.den_dvd num den) hd

namespace Exact

-- A short pair has a short announcement.
theorem toNumber_ratio {num den : Int} (hd : den ≠ 0) (hnum : isWritable num = true)
    (hden : isWritable den = true) :
    (ratio num den).toNumber = .ok (Number.ofRat (num / den)) := by
  have hnw : isWritable (num / den : ℚ).num = true :=
    isWritable_mono (natAbs_num_div_le num hd) hnum
  have hdw : isWritable (num / den : ℚ).den = true :=
    isWritable_mono (den_div_le_natAbs num hd) hden
  rw [← fit_ratio num den hd, toNumber, rounding?_ratio num den hd]
  split_ifs with hle
  · rfl
  · simp only [hnw, hdw, Bool.and_self, if_true]

end Exact

namespace Number

theorem ofRatio_eq_ofRat {num den : Int} (hd : den ≠ 0) (hnum : num.natAbs ≤ 10 ^ 20)
    (hden : den.natAbs ≤ 10 ^ 20) : ofRatio num den = .ok (ofRat (num / den)) := by
  rw [ofRatio, Exact.ofRatio, if_neg hd]
  exact Exact.toNumber_ratio hd (isWritable_of_natAbs_le hnum) (isWritable_of_natAbs_le hden)

-- A pair of words is far below the limit.
theorem ofRatio_eq_ofRat_of_isWord {num : Int} {den : Nat} (hnum : IsWord num) (hden : IsWord den)
    (hd : den ≠ 0) : ofRatio num den = .ok (ofRat (num / den)) := by
  have hlimit : wordMax + 1 ≤ 10 ^ 20 := by decide
  rw [ofRatio_eq_ofRat (Int.natCast_ne_zero.mpr hd) (hnum.natAbs_le.trans hlimit)
    (hden.natAbs_le.trans hlimit), Int.cast_natCast]

theorem ofRatio_of_canonical {num : Int} {den : Nat} (h : (finite num den).Canonical) :
    ofRatio num den = .ok (finite num den) := by
  rw [ofRatio_eq_ofRat_of_isWord h.isWord_num h.isWord_den h.den_ne_zero, ofRat_div h]

end Number

end FractionCalculator
