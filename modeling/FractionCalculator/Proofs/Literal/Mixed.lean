import FractionCalculator.Proofs.Literal.Refusal
import FractionCalculator.Proofs.Number.WideArithmetic

namespace FractionCalculator

theorem Number.value_reduced (q : ℚ) : (reduced q).value = q :=
  Rat.num_div_den q

namespace Literal

variable {l : Literal} {negative : Bool} {units num den : List Char} {text : String} {x : Number}

-- All runs are read before anything else, so whatever is accepted has been read in full.
theorem WrittenIn.length_le_of_parse (h : l.WrittenIn text) (hx : Number.parse text = .ok x) :
    ∀ run ∈ l.runs, run.length ≤ digitLimit := by
  rw [h.parse_eq] at hx
  cases hmap : l.runs.mapM (component text) with
  | error e =>
      obtain ⟨before, run, after, heq, hbefore, hrun⟩ := mapM_eq_error_iff.mp hmap
      rw [value_eq_error_of_run heq hbefore hrun] at hx
      cases hx
  | ok parts =>
      intro run hrun
      obtain ⟨n, -, hn⟩ := exists_of_forall₂ (mapM_eq_ok_iff.mp hmap) run hrun
      exact ((component_eq_ok_iff text (h.isDigits run hrun)).mp ⟨n, hn⟩).2

theorem WrittenIn.fits_of_parse (h : l.WrittenIn text) (hx : Number.parse text = .ok x) :
    l.Fits ∧ x = l.meaning :=
  (h.parse_decides (h.length_le_of_parse hx)).of_ok hx

-- The sign may stand before either part, for a part that fits without it fits with it too.
theorem fits_parts (h : (mixed negative units num den).Fits) :
    (whole negative units).Fits ∧ (fraction negative num den).Fits := by
  obtain ⟨hunits, hnum, hden⟩ := h
  unfold signedUnits at hunits
  unfold signedNum at hnum
  refine ⟨?_, ?_, hden⟩
  · split_ifs at hunits with hzero
    · rw [Fits, hzero]
      cases negative <;> decide
    · exact hunits
  · split_ifs at hnum with hzero
    · exact hnum
    · refine .of_natAbs_le ?_
      rw [natAbs_signed]
      exact Int.ofNat_le.mp hnum.2

theorem meaning_mixed (h : (mixed negative units num den).Fits) (hd : decimal den ≠ 0) :
    (mixed negative units num den).meaning =
      Number.ofRat
        (signed negative (decimal units) + signed negative (decimal num) / decimal den) := by
  obtain ⟨-, -, hden⟩ := h
  have hsum : (signed negative (decimal units) + signed negative (decimal num) / decimal den : ℚ) =
      if negative then -(decimal units + decimal num / decimal den : ℚ)
      else decimal units + decimal num / decimal den := by
    cases negative
    · simp [signed]
    · simp [signed]
      ring
  rw [hsum, ofRat_mixed negative (decimal units) (decimal num) hden hd _ rfl]
  simp only [meaning, if_neg hd]

theorem meaning_fraction (negative : Bool) (num : List Char) (hd : decimal den ≠ 0) :
    (fraction negative num den).meaning =
      Number.reduced (signed negative (decimal num) / decimal den) :=
  if_neg hd

-- The number read in one and the sum of the numbers read apart come to one range decision.
theorem meaning_mixed_eq_add (h : (mixed negative units num den).Fits) (hd : decimal den ≠ 0)
    (hwhole : (whole negative units).meaning.Canonical)
    (hfraction : (fraction negative num den).meaning.Canonical) :
    (mixed negative units num den).meaning =
      (whole negative units).meaning.add (fraction negative num den).meaning := by
  rw [meaning_fraction negative num hd] at hfraction ⊢
  rw [Number.add_eq_ofRat hwhole hfraction rfl rfl, Number.value_reduced, meaning,
    Number.value_reduced, meaning_mixed h hd]

-- Neither the blanks around the texts nor the way the sign is written matters.
theorem WrittenIn.parse_mixed {wholeText fractionText : String}
    (h : (mixed negative units num den).WrittenIn text)
    (hwhole : (whole negative units).WrittenIn wholeText)
    (hfraction : (fraction negative num den).WrittenIn fractionText)
    (hd : decimal den ≠ 0) (hx : Number.parse text = .ok x) :
    ∃ y z, Number.parse wholeText = .ok y ∧ Number.parse fractionText = .ok z ∧
      x = y.add z := by
  have hlength := h.length_le_of_parse hx
  obtain ⟨hfits, rfl⟩ := h.fits_of_parse hx
  obtain ⟨hfitsWhole, hfitsFraction⟩ := fits_parts hfits
  have hy := (hwhole.parse_decides fun run hrun =>
    hlength run (List.mem_singleton.mp hrun ▸ List.mem_cons_self)).accepts hfitsWhole
  have hz := (hfraction.parse_decides fun run hrun =>
    hlength run (List.mem_cons_of_mem _ hrun)).accepts hfitsFraction
  exact ⟨_, _, hy, hz,
    meaning_mixed_eq_add hfits hd (parse_canonical hy) (parse_canonical hz)⟩

end Literal

-- A mixed literal over anything but zero is the sum of its whole part and its fraction, each with
-- the sign of the literal. Both can be read whenever the literal can, also at the ends of the
-- range, and where the sum saturates the literal does.
theorem parse_mixed_eq_sum {negative : Bool} {mark units num den : List Char} {text : String}
    {x : Number} (hmark : Literal.SignMark negative mark)
    (hruns : ∀ run ∈ [units, num, den], run ≠ [] ∧ IsDigits run)
    (htext : Text.Padded (mark ++ (units ++ '_' :: (num ++ '/' :: den))) text.toList)
    (hden : decimal den ≠ 0) (h : Number.parse text = .ok x) :
    ∃ y z, Number.parse (String.ofList (mark ++ units)) = .ok y ∧
      Number.parse (String.ofList (mark ++ (num ++ '/' :: den))) = .ok z ∧ x = y.add z := by
  have hmixed : (Literal.mixed negative units num den).WrittenIn text :=
    ⟨_, htext, hruns, mark, hmark, rfl⟩
  have hwhole : (Literal.whole negative units).Spells (mark ++ units) :=
    ⟨fun run hrun => hruns run (List.mem_singleton.mp hrun ▸ List.mem_cons_self), mark, hmark, rfl⟩
  have hfraction : (Literal.fraction negative num den).Spells (mark ++ (num ++ '/' :: den)) :=
    ⟨fun run hrun => hruns run (List.mem_cons_of_mem _ hrun), mark, hmark, rfl⟩
  exact hmixed.parse_mixed hwhole.writtenIn_ofList hfraction.writtenIn_ofList hden h

-- The smallest word with a fraction after it is below the range, and one word below zero is a
-- numerator behind a whole part of zero.
theorem parse_mixed_eq_sum_limits :
    Number.parse "-2147483648_1/2" = .ok .negInfinity ∧
    (∃ y z, Number.parse "-2147483648" = .ok y ∧ Number.parse "-1/2" = .ok z ∧
      .negInfinity = y.add z) ∧
    Number.parse " -0_2147483648/3\n" = .ok (.finite (-2147483648) 3) ∧
    ∃ y z, Number.parse "-0" = .ok y ∧ Number.parse "-2147483648/3" = .ok z ∧
      .finite (-2147483648) 3 = y.add z := by
  have hsaturated : Number.parse "-2147483648_1/2" = .ok .negInfinity := by decide +kernel
  have hzero : Number.parse " -0_2147483648/3\n" = .ok (.finite (-2147483648) 3) := by
    decide +kernel
  have hlow := @parse_mixed_eq_sum true ['-'] "2147483648".toList ['1'] ['2'] _ _ .minus
    (by decide) ⟨[], [], by decide, by decide, by decide⟩ (by decide) hsaturated
  have hnum := @parse_mixed_eq_sum true ['-'] ['0'] "2147483648".toList ['3'] _ _ .minus
    (by decide) ⟨[' '], ['\n'], by decide, by decide, by decide⟩ (by decide) hzero
  rw [show String.ofList (['-'] ++ "2147483648".toList) = "-2147483648" by decide] at hlow
  exact ⟨hsaturated, hlow, hzero, hnum⟩

end FractionCalculator
