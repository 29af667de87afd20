import FractionCalculator.Number.Construct
import FractionCalculator.Proofs.Number.RangeDecision

namespace FractionCalculator

def IsWord (n : Int) : Prop :=
  wordMin ≤ n ∧ n ≤ wordMax

instance (n : Int) : Decidable (IsWord n) :=
  inferInstanceAs (Decidable (_ ∧ _))

theorem IsWord.natAbs_le {n : Int} (h : IsWord n) : n.natAbs ≤ wordMax + 1 := by
  obtain ⟨hmin, hmax⟩ := h
  unfold wordMin at hmin
  unfold wordMax at hmax ⊢
  omega

theorem IsWord.of_natAbs_le {n : Int} (h : n.natAbs ≤ wordMax) : IsWord n := by
  unfold wordMax at h
  unfold IsWord wordMin wordMax
  omega

namespace Number

@[simp] theorem canonical_nan : nan.Canonical := trivial

@[simp] theorem canonical_infinite (negative : Bool) : (infinite negative).Canonical := trivial

@[simp] theorem canonical_zero : zero.Canonical := by decide

@[simp] theorem canonical_one : one.Canonical := by decide

-- The pairs of words that stand for a number. Three with denominator zero are special, all others
-- are in lowest terms.
def IsWordPair (num : Int) (den : Nat) : Prop :=
  num = 0 ∧ den = 0 ∨ num = wordMax ∧ den = 0 ∨ num = wordMin + 1 ∧ den = 0 ∨
    1 ≤ den ∧ den ≤ wordMax ∧ wordMin ≤ num ∧ num ≤ wordMax ∧ num.natAbs.gcd den = 1

theorem Canonical.isWordPair {x : Number} (h : x.Canonical) :
    IsWordPair x.numerator x.denominator := by
  cases x with
  | nan => exact Or.inl ⟨rfl, rfl⟩
  | infinite negative =>
      cases negative with
      | false => exact Or.inr (Or.inl ⟨rfl, rfl⟩)
      | true => exact Or.inr (Or.inr (Or.inl ⟨by decide, rfl⟩))
  | finite num den => exact Or.inr (Or.inr (Or.inr h))

theorem Canonical.den_ne_zero {num : Int} {den : Nat} (h : (finite num den).Canonical) :
    den ≠ 0 :=
  Nat.ne_of_gt h.1

theorem Canonical.one_le_den {num : Int} {den : Nat} (h : (finite num den).Canonical) :
    (1 : ℚ) ≤ den := by
  exact_mod_cast h.1

theorem Canonical.isWord_num {num : Int} {den : Nat} (h : (finite num den).Canonical) :
    IsWord num :=
  ⟨h.2.2.1, h.2.2.2.1⟩

theorem Canonical.isWord_den {num : Int} {den : Nat} (h : (finite num den).Canonical) :
    IsWord den :=
  .of_natAbs_le h.2.1

-- A canonical pair is what lowest terms make of the fraction it denotes.
theorem Canonical.num_div {num : Int} {den : Nat} (h : (finite num den).Canonical) :
    (num / den : ℚ).num = num := by
  have hpos : (0 : Int) < den := by exact_mod_cast h.1
  have hnum : (num / (den : Int) : ℚ).num = num := Rat.num_div_eq_of_coprime hpos h.2.2.2.2
  rwa [Int.cast_natCast] at hnum

theorem Canonical.den_div {num : Int} {den : Nat} (h : (finite num den).Canonical) :
    (num / den : ℚ).den = den := by
  have hpos : (0 : Int) < den := by exact_mod_cast h.1
  have hden : (num / (den : Int) : ℚ).den = den := by
    exact_mod_cast Rat.den_div_eq_of_coprime hpos h.2.2.2.2
  rwa [Int.cast_natCast] at hden

-- The pair in lowest terms that denotes x, however large its parts are.
def reduced (x : ℚ) : Number :=
  finite x.num x.den

theorem reduced_div {num : Int} {den : Nat} (h : (finite num den).Canonical) :
    reduced (num / den) = finite num den := by
  rw [reduced, h.num_div, h.den_div]

theorem ofRat_eq_reduced {x : ℚ} (hden : x.den ≤ wordMax) (hnum : IsWord x.num) :
    ofRat x = reduced x := by
  rw [ofRat, Ratio.fitted_of_den_le hden, Ratio.saturate_of_mem hnum.1 hnum.2]
  rfl

theorem ofRat_div {num : Int} {den : Nat} (h : (finite num den).Canonical) :
    ofRat (num / den) = finite num den := by
  rw [ofRat_eq_reduced (h.den_div.trans_le h.2.1) (h.num_div.symm ▸ h.isWord_num), reduced_div h]

theorem ofRat_zero : ofRat 0 = zero := by
  simpa [zero] using ofRat_div canonical_zero

theorem ofRat_one : ofRat 1 = one := by
  simpa [one] using ofRat_div canonical_one

end Number

namespace Exact

open Number

-- What an operation settles at once has to be canonical. All else goes through the range decision.
theorem fit_canonical {e : Exact} (h : ∀ x, e = settled x → x.Canonical) : e.fit.Canonical := by
  cases e with
  | settled x => exact h x rfl
  | ratio num den =>
      rcases eq_or_ne den 0 with rfl | hd
      · simp [fit_ratio_zero]
      · rw [fit_ratio num den hd]
        exact ofRat_canonical _

theorem toNumber_canonical {e : Exact} {x : Number} (hsettled : ∀ x, e = settled x → x.Canonical)
    (h : e.toNumber = .ok x) : x.Canonical := by
  unfold toNumber at h
  split at h
  · split at h
    · cases h
      exact fit_canonical hsettled
    · cases h
  · cases h
    exact fit_canonical hsettled

theorem scaled_canonical (negative : Bool) (num : Int) : (product.scaled negative num).Canonical := by
  unfold product.scaled
  split_ifs <;> simp

end Exact

namespace Number

theorem ofInt_canonical (value : Int) : (ofInt value).Canonical :=
  Exact.fit_canonical (fun _ h => nomatch h)

theorem ofRatio_canonical {num den : Int} {x : Number} (h : ofRatio num den = .ok x) :
    x.Canonical := by
  refine Exact.toNumber_canonical (fun y hy => ?_) h
  unfold Exact.ofRatio at hy
  split_ifs at hy <;> cases hy <;> trivial

theorem ofMixed_canonical {whole num den : Int} {x : Number} (h : ofMixed whole num den = .ok x) :
    x.Canonical :=
  Exact.toNumber_canonical (e := Exact.ofMixed whole num den) (fun _ he => nomatch he) h

theorem negate_canonical (x : Number) : x.negate.Canonical := by
  refine Exact.fit_canonical fun y hy => ?_
  unfold Exact.negation at hy
  split at hy <;> cases hy <;> simp

theorem reciprocal_canonical (x : Number) : x.reciprocal.Canonical := by
  refine Exact.fit_canonical fun y hy => ?_
  unfold Exact.reciprocal at hy
  split at hy
  · cases hy
    simp
  · cases hy
    simp
  · split_ifs at hy
    cases hy
    simp

theorem add_canonical (x y : Number) : (x.add y).Canonical := by
  refine Exact.fit_canonical fun z hz => ?_
  unfold Exact.sum at hz
  split at hz <;> cases hz <;> try trivial
  split_ifs <;> trivial

theorem multiply_canonical (x y : Number) : (x.multiply y).Canonical := by
  refine Exact.fit_canonical fun z hz => ?_
  unfold Exact.product at hz
  split at hz <;> cases hz <;> try trivial
  all_goals exact Exact.scaled_canonical _ _

theorem subtract_canonical (x y : Number) : (x.subtract y).Canonical :=
  add_canonical x y.negate

theorem divide_canonical (x y : Number) : (x.divide y).Canonical :=
  multiply_canonical x y.reciprocal

theorem abs_canonical {x : Number} (h : x.Canonical) : x.abs.Canonical := by
  unfold abs
  split_ifs
  · exact negate_canonical x
  · exact h

end Number

end FractionCalculator
