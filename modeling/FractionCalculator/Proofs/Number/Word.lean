import FractionCalculator.Proofs.Number.Writable

namespace FractionCalculator

theorem den_div_le (num : Int) {den : Nat} (hd : den ≠ 0) : (num / den : ℚ).den ≤ den := by
  have hle := den_div_le_natAbs num (Int.natCast_ne_zero.mpr hd)
  rwa [Int.cast_natCast, Int.natAbs_natCast] at hle

-- Cancelling keeps the sign, so also the smallest word becomes a word.
theorem IsWord.num_div {num : Int} {den : Nat} (h : IsWord num) (hd : den ≠ 0) :
    IsWord (num / den : ℚ).num := by
  have hle := natAbs_num_div_le num (Int.natCast_ne_zero.mpr hd)
  rw [Int.cast_natCast] at hle
  obtain ⟨hmin, hmax⟩ := h
  rcases le_total 0 num with hsign | hsign
  · have hnum : 0 ≤ (num / den : ℚ).num :=
      Rat.num_nonneg.mpr (div_nonneg (Int.cast_nonneg hsign) den.cast_nonneg)
    exact .of_natAbs_le (by omega)
  · have hnum : (num / den : ℚ).num ≤ 0 :=
      Rat.num_nonpos.mpr
        (div_nonpos_of_nonpos_of_nonneg (Int.cast_nonpos.mpr hsign) den.cast_nonneg)
    unfold IsWord
    omega

theorem Exact.ofRatio_zero (num : Int) :
    Exact.ofRatio num 0 =
      .settled (if num = 0 then .nan else .infinite (decide (num < 0))) := by
  rw [Exact.ofRatio, if_pos rfl]
  rcases lt_trichotomy num 0 with hneg | rfl | hpos
  · rw [if_neg hneg.not_gt, if_pos hneg, if_neg hneg.ne, decide_eq_true hneg, Number.negInfinity]
  · rfl
  · rw [if_pos hpos, if_neg hpos.ne', decide_eq_false hpos.not_gt, Number.posInfinity]

namespace Number

theorem ofInt_of_isWord {n : Int} (h : IsWord n) : ofInt n = reduced n := by
  rw [ofInt, Exact.ofInt, Exact.fit_ratio n 1 one_ne_zero, Int.cast_one, div_one]
  exact ofRat_eq_reduced (by rw [Rat.den_intCast]; decide) h

theorem ofRatio_zero (num : Int) :
    ofRatio num 0 = .ok (if num = 0 then nan else infinite (decide (num < 0))) := by
  rw [ofRatio, Exact.ofRatio_zero]
  rfl

-- A fraction of words has its lowest terms among the words.
theorem ofRatio_of_isWord {num : Int} {den : Nat} (hnum : IsWord num) (hden : IsWord den)
    (hd : den ≠ 0) : ofRatio num den = .ok (reduced (num / den)) := by
  have hle := (den_div_le num hd).trans (Int.ofNat_le.mp hden.2)
  rw [ofRatio_eq_ofRat_of_isWord hnum hden hd, ofRat_eq_reduced hle (hnum.num_div hd)]

theorem ofMixed_zero (whole num : Int) : ofMixed whole num 0 = .ok nan := by
  simp only [ofMixed, Exact.ofMixed, Exact.toNumber, Exact.rounding?, Int.natAbs_zero,
    Nat.cast_zero, lowestTerms_zero, Exact.fit_ratio_zero]
  rfl

-- Over their common denominator both parts of a mixed number are integers.
theorem mixed_size_div (whole num : Int) {den : Nat} (hd : den ≠ 0) :
    ((whole.natAbs * den + num.natAbs : Int) : ℚ) / (den : Int) =
      whole.natAbs + num.natAbs / den := by
  have hdq : (den : ℚ) ≠ 0 := by exact_mod_cast hd
  simp only [Int.cast_add, Int.cast_mul, Int.cast_natCast]
  rw [add_div, mul_div_cancel_right₀ _ hdq]

theorem ofMixed_of_isWord {whole num : Int} {den : Nat} (hwhole : IsWord whole)
    (hnum : IsWord num) (hden : IsWord den) (hd : den ≠ 0) :
    ofMixed whole num den =
      .ok (ofRat (if whole < 0 ∨ (whole = 0 ∧ num < 0) then
        -(whole.natAbs + num.natAbs / den) else whole.natAbs + num.natAbs / den)) := by
  have hsize : whole.natAbs * den + num.natAbs ≤ 10 ^ 20 := by
    have hproduct := Nat.mul_le_mul hwhole.natAbs_le hden.natAbs_le
    have hpart := hnum.natAbs_le
    rw [Int.natAbs_natCast] at hproduct
    unfold wordMax at hproduct hpart
    omega
  have hwritable : isWritable den = true :=
    isWritable_of_natAbs_le (hden.natAbs_le.trans (by decide))
  have hvalue := mixed_size_div whole num hd
  have hdInt : (den : Int) ≠ 0 := Int.natCast_ne_zero.mpr hd
  simp only [ofMixed, Exact.ofMixed, Int.natAbs_natCast]
  split_ifs with hneg
  · rw [Exact.toNumber_ratio hdInt (isWritable_of_natAbs_le (by omega)) hwritable, Int.cast_neg,
      neg_div, hvalue]
  · rw [Exact.toNumber_ratio hdInt (isWritable_of_natAbs_le (by omega)) hwritable, hvalue]

-- A denominator that fits leaves the decision to the numerator.
theorem ofRat_of_den_le {x : ℚ} (hden : x.den ≤ wordMax) :
    ofRat x = if IsWord x.num then reduced x else infinite (decide (x < 0)) := by
  have hrange := rangeDecision_ofRat x
  have hnum := (hrange.unrounded hden).1
  split_ifs with hword
  · exact ofRat_eq_reduced hden hword
  · rcases lt_or_ge x.num wordMin with hbelow | hmin
    · obtain ⟨hinfinite, hneg⟩ := hrange.below (hnum ▸ hbelow)
      rw [hinfinite, decide_eq_true hneg]
      rfl
    · have habove : (wordMax : Int) < x.num := not_le.mp fun hmax => hword ⟨hmin, hmax⟩
      obtain ⟨hinfinite, hpos⟩ := hrange.above (hnum ▸ habove)
      rw [hinfinite, decide_eq_false hpos.not_gt]
      rfl

end Number

end FractionCalculator
