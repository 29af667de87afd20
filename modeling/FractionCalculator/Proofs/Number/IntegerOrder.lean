import FractionCalculator.Proofs.Number.Equality

namespace FractionCalculator

-- What a relation says of two fractions.
def Relation.Numeric : Relation → ℚ → ℚ → Prop
  | lt, p, q => p < q
  | le, p, q => p ≤ q
  | gt, p, q => p > q
  | ge, p, q => p ≥ q
  | eq, p, q => p = q
  | ne, p, q => p ≠ q

namespace Number

variable {x : Number}

theorem wordMin_le_value (hx : x.Canonical) (hfx : x.isFinite = true) :
    (wordMin : ℚ) ≤ x.value := by
  obtain ⟨num, den, rfl⟩ := exists_of_isFinite hfx
  have hmin : (0 : ℚ) ≤ -wordMin := by exact_mod_cast (by decide : 0 ≤ -wordMin)
  have hnum : (wordMin : ℚ) ≤ num := by exact_mod_cast hx.isWord_num.1
  calc (wordMin : ℚ)
    _ ≤ wordMin / den := by
        have hle := div_le_self hmin hx.one_le_den
        rw [neg_div] at hle
        exact neg_le_neg_iff.mp hle
    _ ≤ num / den := div_le_div_of_nonneg_right hnum den.cast_nonneg

theorem value_le_wordMax (hx : x.Canonical) (hfx : x.isFinite = true) :
    x.value ≤ (wordMax : Int) := by
  obtain ⟨num, den, rfl⟩ := exists_of_isFinite hfx
  have hmax : (0 : ℚ) ≤ (wordMax : Int) := by exact_mod_cast (by decide : 0 ≤ (wordMax : Int))
  have hnum : (num : ℚ) ≤ (wordMax : Int) := by exact_mod_cast hx.isWord_num.2
  calc (num / den : ℚ)
    _ ≤ (wordMax : Int) / den := div_le_div_of_nonneg_right hnum den.cast_nonneg
    _ ≤ (wordMax : Int) := div_le_self hmax hx.one_le_den

theorem ofInt_of_not_isWord {k : Int} (h : ¬ IsWord k) : ofInt k = infinite (decide (k < 0)) := by
  have hden : (k : ℚ).den ≤ wordMax := by
    rw [Rat.den_intCast]
    decide
  rw [ofInt, Exact.ofInt, Exact.fit_ratio k 1 one_ne_zero, Int.cast_one, div_one,
    ofRat_of_den_le hden, Rat.num_intCast, if_neg h]
  simp only [Int.cast_lt_zero]

-- An integer out of range saturates to the infinity of the side that it lies on, and no fraction
-- lies there.
theorem compare_ofInt (hx : x.Canonical) (hfx : x.isFinite = true) (k : Int) :
    x.compare (ofInt k) = .ok (cmp x.value k) := by
  have hlow := wordMin_le_value hx hfx
  have hhigh := value_le_wordMax hx hfx
  obtain ⟨num, den, rfl⟩ := exists_of_isFinite hfx
  by_cases hword : IsWord k
  · have hcanonical := ofInt_canonical k
    rw [ofInt_of_isWord hword, reduced, Rat.num_intCast, Rat.den_intCast] at hcanonical ⊢
    rw [compare_finite hx hcanonical, Nat.cast_one, div_one]
    rfl
  · rw [ofInt_of_not_isWord hword]
    rcases lt_or_ge k wordMin with hbelow | hmin
    · have hgt : (k : ℚ) < (finite num den).value :=
        lt_of_lt_of_le (Int.cast_lt.mpr hbelow) hlow
      have hneg : k < 0 := hbelow.trans (by decide)
      rw [decide_eq_true hneg, (cmp_eq_gt_iff _ _).mpr hgt]
      rfl
    · have habove : (wordMax : Int) < k := not_le.mp fun hmax => hword ⟨hmin, hmax⟩
      have hlt : (finite num den).value < k := lt_of_le_of_lt hhigh (Int.cast_lt.mpr habove)
      have hpos : ¬ k < 0 := not_lt.mpr (Int.natCast_nonneg _ |>.trans habove.le)
      rw [decide_eq_false hpos, (cmp_eq_lt_iff _ _).mpr hlt]
      rfl

end Number

namespace Operand

open Number

variable {left right other : Operand} {p q : ℚ} {x : Number} {k : Int}

-- Each relation between the operands has the truth value that it has between p and q.
def StandAs (left right : Operand) (p q : ℚ) : Prop :=
  ∀ relation : Relation, ∃ b, relation.holds left right = .ok b ∧ (b = true ↔ relation.Numeric p q)

theorem exists_answer_of_order {relation : Relation} {test : Ordering → Bool} {P : Prop}
    (horder : left.order relation right = .ok (cmp p q)) (htest : test (cmp p q) = true ↔ P) :
    ∃ b, (left.order relation right).map test = .ok b ∧ (b = true ↔ P) :=
  ⟨_, congrArg (Except.map test) horder, htest⟩

theorem standAs_of_order (horder : ∀ relation, left.order relation right = .ok (cmp p q))
    (hsame : left.same right = true ↔ p = q) : StandAs left right p q := by
  intro relation
  cases relation with
  | lt =>
      exact exists_answer_of_order (horder .lt)
        (Ordering.isLT_iff_eq_lt.trans (cmp_eq_lt_iff p q))
  | le =>
      exact exists_answer_of_order (horder .le)
        (Ordering.isLE_iff_ne_gt.trans ((cmp_eq_gt_iff p q).not.trans not_lt))
  | gt =>
      exact exists_answer_of_order (horder .gt)
        (Ordering.isGT_iff_eq_gt.trans (cmp_eq_gt_iff p q))
  | ge =>
      exact exists_answer_of_order (horder .ge)
        (Ordering.isGE_iff_ne_lt.trans ((cmp_eq_lt_iff p q).not.trans not_lt))
  | eq => exact ⟨_, rfl, hsame⟩
  | ne =>
      refine ⟨_, rfl, ?_⟩
      rw [Bool.not_eq_true', ← Bool.not_eq_true, hsame]
      rfl

theorem StandAs.existsUnique (h : StandAs left right p q) :
    ∃! relation, relation ∈ [Relation.lt, .eq, .gt] ∧ relation.holds left right = .ok true := by
  have hholds : ∀ relation : Relation,
      relation.holds left right = .ok true ↔ relation.Numeric p q := by
    intro relation
    obtain ⟨b, hb, hnumeric⟩ := h relation
    rw [hb, Except.ok.injEq, hnumeric]
  simp only [hholds, List.mem_cons, List.not_mem_nil, or_false]
  rcases lt_trichotomy p q with hlt | heq | hgt
  · refine ⟨.lt, ⟨.inl rfl, hlt⟩, ?_⟩
    rintro _ ⟨rfl | rfl | rfl, hnumeric⟩
    · rfl
    · exact absurd hnumeric hlt.ne
    · exact absurd hnumeric hlt.not_gt
  · refine ⟨.eq, ⟨.inr (.inl rfl), heq⟩, ?_⟩
    rintro _ ⟨rfl | rfl | rfl, hnumeric⟩
    · exact absurd heq (ne_of_lt hnumeric)
    · rfl
    · exact absurd heq (ne_of_gt hnumeric)
  · refine ⟨.gt, ⟨.inr (.inr rfl), hgt⟩, ?_⟩
    rintro _ ⟨rfl | rfl | rfl, hnumeric⟩
    · exact absurd hnumeric hgt.not_gt
    · exact absurd hnumeric hgt.ne'
    · rfl

theorem order_number (hx : x.Canonical) (hfx : x.isFinite = true) (hk : other.toInt? = some k)
    (relation : Relation) : (number x).order relation other = .ok (cmp x.value k) := by
  rw [← compare_ofInt hx hfx k]
  cases other <;> cases hk <;> rfl

-- With an integer on the left it is still the number that compares.
theorem order_integer (hx : x.Canonical) (hfx : x.isFinite = true) (hk : other.toInt? = some k)
    (relation : Relation) : other.order relation (number x) = .ok (cmp (k : ℚ) x.value) := by
  have hreflected : other.order relation (number x) = (x.compare (ofInt k)).map Ordering.swap := by
    cases other <;> cases hk <;> rfl
  rw [hreflected, compare_ofInt hx hfx k, Except.map, cmp_swap]

-- Equality does not saturate, so it asks for the integer itself on both sides.
theorem same_eq_decide (x : Number) (hk : other.toInt? = some k) :
    (number x).same other = decide (x = finite k 1) ∧
      other.same (number x) = decide (x = finite k 1) := by
  cases other <;> cases hk <;> exact ⟨rfl, rfl⟩

-- A fraction and an integer of any size stand to each other as the two numbers do, whichever of
-- them is on the left, and exactly one of less, equal and greater holds between them. Both the
-- integer and the truth value that counts as one are covered.
theorem integer_order_exact (hx : Reachable x) (hfx : x.isFinite = true)
    (hk : other.toInt? = some k) :
    StandAs (number x) other x.value k ∧ StandAs other (number x) k x.value ∧
    (∃! relation, relation ∈ [Relation.lt, .eq, .gt] ∧
      relation.holds (number x) other = .ok true) ∧
    ∃! relation, relation ∈ [Relation.lt, .eq, .gt] ∧
      relation.holds other (number x) = .ok true := by
  have hcx := hx.canonical
  obtain ⟨hleft, hright⟩ := same_eq_decide x hk
  have hequal : x = finite k 1 ↔ x.value = k := by
    rw [eq_finite_one_iff hcx k, hfx, eq_self, true_and]
  have hnumber : StandAs (number x) other x.value k := by
    apply standAs_of_order (order_number hcx hfx hk)
    rw [hleft, decide_eq_true_iff, hequal]
  have hinteger : StandAs other (number x) k x.value := by
    apply standAs_of_order (order_integer hcx hfx hk)
    rw [hright, decide_eq_true_iff, hequal, eq_comm]
  exact ⟨hnumber, hinteger, hnumber.existsUnique, hinteger.existsUnique⟩

-- One below the smallest word an integer saturates, and the smallest word is still above it and
-- not equal to it. The fraction next to one is compared with a truth value.
theorem integer_order_exact_limits :
    Relation.gt.holds (number minValue) (integer (-2147483649)) = .ok true ∧
    Relation.ge.holds (integer (-2147483649)) (number minValue) = .ok false ∧
    Relation.ne.holds (integer (-2147483649)) (number minValue) = .ok true ∧
    Relation.lt.holds (number (.finite 2147483646 2147483647)) (truth true) = .ok true := by
  have hmin : Reachable minValue := (reachable_iff_canonical _).mpr (by decide)
  have hnext : Reachable (.finite 2147483646 2147483647) :=
    (reachable_iff_canonical _).mpr (by decide)
  have hbelow : ((-2147483649 : Int) : ℚ) < minValue.value := by decide +kernel
  have hone : (Number.finite 2147483646 2147483647).value < (1 : Int) := by decide +kernel
  have hk : (integer (-2147483649)).toInt? = some (-2147483649) := rfl
  have htrue : (truth true).toInt? = some 1 := rfl
  obtain ⟨hnumber, hinteger, -⟩ := integer_order_exact hmin rfl hk
  obtain ⟨b₁, h₁, hgt⟩ := hnumber .gt
  obtain ⟨b₂, h₂, hge⟩ := hinteger .ge
  obtain ⟨b₃, h₃, hne⟩ := hinteger .ne
  obtain ⟨b₄, h₄, hlt⟩ := (integer_order_exact hnext rfl htrue).1 .lt
  have hnot : b₂ = false := Bool.eq_false_iff.mpr fun h => (hge.mp h).not_gt hbelow
  rw [h₁, h₂, h₃, h₄, hgt.mpr hbelow, hnot, hne.mpr hbelow.ne, hlt.mpr hone]
  exact ⟨rfl, rfl, rfl, rfl⟩

end Operand

end FractionCalculator
