import FractionCalculator.Number.Render
import FractionCalculator.Proofs.Literal.Reading
import FractionCalculator.Proofs.Reachable

namespace FractionCalculator

open Number (finite)

theorem isDigits_toDigits (n : Nat) : IsDigits (Nat.toDigits 10 n) := fun _ =>
  Nat.isDigit_of_mem_toDigits (by decide) (by decide)

theorem toList_toString_nat (n : Nat) : (toString n).toList = Nat.toDigits 10 n := by
  rw [Nat.toString_eq_repr, Nat.toList_repr]

theorem toList_toString_int (n : Int) :
    ∃ mark, Literal.SignMark (decide (n < 0)) mark ∧
      (toString n).toList = mark ++ Nat.toDigits 10 n.natAbs := by
  rw [Int.toString_eq_repr, Int.repr_eq_if]
  rcases lt_or_ge n 0 with hneg | hpos
  · have hsize : (-n).toNat = n.natAbs := by omega
    rw [decide_eq_true hneg, if_neg (not_le.mpr hneg), String.toList_append, Nat.toList_repr, hsize]
    exact ⟨_, .minus, rfl⟩
  · have hsize : n.toNat = n.natAbs := by omega
    rw [decide_eq_false (not_lt.mpr hpos), if_pos hpos, Nat.toList_repr, hsize]
    exact ⟨_, .absent, rfl⟩

namespace Literal

-- The literal in which a fraction is shown, its sign always in front.
def shown (mode : RenderMode) (num : Int) (den : Nat) : Literal :=
  if den = 1 then whole (decide (num < 0)) (Nat.toDigits 10 num.natAbs)
  else if mode = .mixed ∧ num.natAbs > den then
    mixed (decide (num < 0)) (Nat.toDigits 10 (num.natAbs / den))
      (Nat.toDigits 10 (num.natAbs % den)) (Nat.toDigits 10 den)
  else fraction (decide (num < 0)) (Nat.toDigits 10 num.natAbs) (Nat.toDigits 10 den)

-- Each run of digits is a number no larger than the parts of the fraction.
theorem exists_of_mem_runs_shown {mode : RenderMode} {num : Int} {den : Nat} {run : List Char}
    (h : run ∈ (shown mode num den).runs) :
    ∃ n, run = Nat.toDigits 10 n ∧ (n ≤ num.natAbs ∨ n ≤ den) := by
  unfold shown at h
  split_ifs at h <;> simp only [runs, List.mem_cons, List.not_mem_nil, or_false] at h
  · exact ⟨_, h, .inl le_rfl⟩
  · rcases h with rfl | rfl | rfl
    · exact ⟨_, rfl, .inl (Nat.div_le_self ..)⟩
    · exact ⟨_, rfl, .inl (Nat.mod_le ..)⟩
    · exact ⟨_, rfl, .inr le_rfl⟩
  · rcases h with rfl | rfl
    · exact ⟨_, rfl, .inl le_rfl⟩
    · exact ⟨_, rfl, .inr le_rfl⟩

theorem negative_shown (mode : RenderMode) (num : Int) (den : Nat) :
    (shown mode num den).negative = decide (num < 0) := by
  unfold shown
  split_ifs <;> rfl

theorem tdiv_neg_iff {num : Int} {den : Nat} (hden : den ≠ 0) (hlt : den < num.natAbs) :
    num.tdiv den < 0 ↔ num < 0 := by
  have hsign : (num.tdiv den).sign = num.sign := by
    rw [Int.sign_tdiv, Int.natAbs_natCast, if_neg hlt.le.not_gt, Int.sign_natCast_of_ne_zero hden,
      mul_one]
  rw [← Int.sign_eq_neg_one_iff_neg, hsign, Int.sign_eq_neg_one_iff_neg]

theorem spells_render (mode : RenderMode) (num : Int) {den : Nat} (hden : den ≠ 0) :
    (shown mode num den).Spells ((finite num den).render mode).toList where
  digits run hmem := by
    obtain ⟨n, rfl, -⟩ := exists_of_mem_runs_shown hmem
    exact ⟨Nat.toDigits_ne_nil, isDigits_toDigits n⟩
  sign := by
    rw [negative_shown]
    obtain ⟨mark, hmark, htext⟩ := toList_toString_int num
    simp only [shown, Number.render]
    split_ifs with hone hmixed
    · exact ⟨mark, hmark, htext⟩
    · -- the whole part is not zero, so it has the sign of the fraction
      obtain ⟨mark, hmark, hwhole⟩ := toList_toString_int (num.tdiv den)
      simp only [tdiv_neg_iff hden hmixed.2] at hmark
      refine ⟨mark, hmark, ?_⟩
      simp only [String.toList_append, hwhole, toList_toString_nat, Int.natAbs_tdiv,
        Int.natAbs_natCast, body, List.append_assoc]
      rfl
    · refine ⟨mark, hmark, ?_⟩
      simp only [String.toList_append, htext, toList_toString_nat, body, List.append_assoc]
      rfl

theorem signed_natAbs (n : Int) : signed (decide (n < 0)) n.natAbs = n := by
  unfold signed
  split_ifs with h
  · have := of_decide_eq_true h
    omega
  · have := of_decide_eq_false (eq_false_of_ne_true h)
    omega

-- A whole part stands before a denominator of two at least, so with either sign it is a word.
theorem fits_shown (mode : RenderMode) {num : Int} {den : Nat} (h : (finite num den).Canonical) :
    (shown mode num den).Fits := by
  unfold shown
  split_ifs with hone hmixed
  · simp only [Fits, decimal_toDigits, signed_natAbs]
    exact h.isWord_num
  · simp only [Fits, decimal_toDigits]
    have hsize := h.isWord_num.natAbs_le
    have hpos := h.1
    have hunits : num.natAbs / den ≤ wordMax := calc
      num.natAbs / den ≤ num.natAbs / 2 := Nat.div_le_div_left (by omega) (by decide)
      _ ≤ wordMax := by unfold wordMax at hsize ⊢; omega
    have hnum : num.natAbs % den ≤ wordMax := (Nat.mod_lt _ hpos).le.trans h.2.1
    exact ⟨.of_natAbs_le ((natAbs_signedUnits ..).trans_le hunits),
      .of_natAbs_le ((natAbs_signedNum ..).trans_le hnum), h.isWord_den⟩
  · simp only [Fits, decimal_toDigits, signed_natAbs]
    exact ⟨h.isWord_num, h.isWord_den⟩

theorem div_add_mod_div (size : Nat) {den : Nat} (hden : den ≠ 0) :
    ((size / den : Nat) + (size % den : Nat) / den : ℚ) = size / den := by
  have hdq : (den : ℚ) ≠ 0 := by exact_mod_cast hden
  rw [eq_div_iff hdq, add_mul, div_mul_cancel₀ _ hdq]
  exact_mod_cast Nat.div_add_mod' size den

theorem mixed_size_eq (num : Int) {den : Nat} (hden : den ≠ 0) :
    (if decide (num < 0) = true then
      -((num.natAbs / den : Nat) + (num.natAbs % den : Nat) / den : ℚ)
      else (num.natAbs / den : Nat) + (num.natAbs % den : Nat) / den) = (num / den : ℚ) := by
  have hsigned := congrArg (Int.cast (R := ℚ)) (signed_natAbs num)
  rw [signed, Int.cast_ite, Int.cast_neg, Int.cast_natCast] at hsigned
  rw [div_add_mod_div _ hden, ← neg_div, ← ite_div, hsigned]

theorem meaning_shown (mode : RenderMode) {num : Int} {den : Nat}
    (h : (finite num den).Canonical) : (shown mode num den).meaning = finite num den := by
  unfold shown
  split_ifs with hone hmixed
  · subst hone
    simp only [meaning, decimal_toDigits, signed_natAbs]
    simpa using Number.reduced_div h
  · simp only [meaning, decimal_toDigits, mixed_size_eq num h.den_ne_zero, if_neg h.den_ne_zero,
      h.num_div, Number.reduced_div h]
    exact if_pos h.isWord_num
  · simp only [meaning, decimal_toDigits, signed_natAbs, if_neg h.den_ne_zero,
      Number.reduced_div h]

theorem length_le_of_mem_runs_shown {mode : RenderMode} {num : Int} {den : Nat}
    (h : (finite num den).Canonical) {run : List Char} (hrun : run ∈ (shown mode num den).runs) :
    run.length ≤ digitLimit := by
  obtain ⟨n, rfl, hn⟩ := exists_of_mem_runs_shown hrun
  have hsize : n < 10 ^ 10 := by
    have hnum := h.isWord_num.natAbs_le
    have hden := h.2.1
    unfold wordMax at hnum hden
    omega
  exact ((Nat.length_toDigits_le_iff (by decide) (by decide)).mpr hsize).trans (by decide)

end Literal

theorem parse_padded_render (mode : RenderMode) {x : Number} (h : x.Canonical)
    (hfinite : x.isFinite = true) {text : String}
    (htext : Text.Padded (x.render mode).toList text.toList) : Number.parse text = .ok x := by
  cases x with
  | nan => cases hfinite
  | infinite negative => cases hfinite
  | finite num den =>
      have hwritten : (Literal.shown mode num den).WrittenIn text :=
        ⟨_, htext, Literal.spells_render mode num h.den_ne_zero⟩
      rw [(hwritten.parse_decides fun _ => Literal.length_le_of_mem_runs_shown h).accepts
        (Literal.fits_shown mode h), Literal.meaning_shown mode h]

-- Reading a fraction as it is shown gives the fraction again, whatever blanks are put around it.
theorem parse_render (x : Number) (hx : Reachable x) (hfinite : x.isFinite = true)
    (mode : RenderMode) (left right : String) (hleft : Text.AllBlank left.toList)
    (hright : Text.AllBlank right.toList) :
    Number.parse (left ++ x.render mode ++ right) = .ok x :=
  parse_padded_render mode hx.canonical hfinite
    ⟨left.toList, right.toList, hleft, hright, by rw [String.toList_append, String.toList_append]⟩

-- A third of the smallest word, of which only the whole part shows the sign, and a number whose
-- whole part would be a zero without one.
theorem parse_render_extremes :
    (finite wordMin 3).render .mixed = "-715827882_2/3" ∧
    Number.parse ("\t" ++ (finite wordMin 3).render .mixed ++ " \n") = .ok (finite wordMin 3) ∧
    (finite (-1) 2).render .mixed = "-1/2" ∧
    Number.parse ("" ++ (finite (-1) 2).render .mixed ++ "\u00a0") = .ok (finite (-1) 2) := by
  have hthird : Reachable (finite wordMin 3) := (reachable_iff_canonical _).mpr (by decide)
  have hhalf : Reachable (finite (-1) 2) := (reachable_iff_canonical _).mpr (by decide)
  exact ⟨by decide +kernel,
    parse_render _ hthird rfl .mixed "\t" " \n" (by decide) (by decide),
    by decide +kernel,
    parse_render _ hhalf rfl .mixed "" "\u00a0" (by decide) (by decide)⟩

end FractionCalculator
