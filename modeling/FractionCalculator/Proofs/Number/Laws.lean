import FractionCalculator.Proofs.Number.Construction
import FractionCalculator.Proofs.Number.RoundingError

namespace FractionCalculator

namespace Exact

-- Special numbers are looked for on the left first, but what is found does not depend on it.
theorem sum_comm (x y : Number) : sum x y = sum y x := by
  cases x with
  | nan => cases y <;> rfl
  | infinite s =>
      cases y with
      | infinite t => cases s <;> cases t <;> rfl
      | _ => rfl
  | finite a b =>
      cases y with
      | finite c d =>
          simp only [sum, Nat.gcd_comm d b]
          rw [Int.add_comm, Int.mul_comm (b / (b.gcd d : Nat)) (d / (b.gcd d : Nat))]
      | _ => rfl

-- The two divisors change places with the factors.
theorem product_comm (x y : Number) : product x y = product y x := by
  cases x with
  | nan => cases y <;> rfl
  | infinite s => cases y <;> rfl
  | finite a b =>
      cases y with
      | finite c d =>
          simp only [product, Int.gcd_comm c b, Int.gcd_comm d a]
          rw [Int.mul_comm (a / (Int.gcd a d)), Int.mul_comm (b / (Int.gcd b c))]
      | _ => rfl

end Exact

namespace Ratio

-- A negative number is expanded in another way, but it has one nearest fraction only.
theorem fitted_neg (q : ℚ) : fitted (-q) = ⟨-(fitted q).num, (fitted q).den⟩ :=
  (fitted_isNearest (-q)).unique (fitted_isNearest q).neg

end Ratio

namespace Number

variable {x y : Number}

protected theorem add_comm (x y : Number) : x.add y = y.add x :=
  congrArg Exact.fit (Exact.sum_comm x y)

protected theorem multiply_comm (x y : Number) : x.multiply y = y.multiply x :=
  congrArg Exact.fit (Exact.product_comm x y)

theorem add_zero_eq (hx : x.Canonical) : x.add zero = x := by
  cases x with
  | finite a b =>
      have hzero : zero.value = 0 := by simp [value, zero, numerator]
      rw [add_eq_ofRat hx canonical_zero rfl rfl, hzero, add_zero]
      exact ofRat_div hx
  | _ => rfl

theorem multiply_one_eq (hx : x.Canonical) : x.multiply one = x := by
  cases x with
  | nan => rfl
  | infinite s => cases s <;> rfl
  | finite a b =>
      have hone : one.value = 1 := by simp [value, one, numerator, denominator]
      rw [multiply_eq_ofRat hx canonical_one rfl rfl, hone, mul_one]
      exact ofRat_div hx

-- Both operations commute on all numbers, special ones included, and their neutral elements lose
-- nothing of a number that can be obtained.
theorem add_multiply_commute (x y : Number) :
    x.add y = y.add x ∧ x.multiply y = y.multiply x ∧
      (Reachable x → x.add zero = x ∧ x.multiply one = x) := by
  refine ⟨Number.add_comm x y, Number.multiply_comm x y, fun hx => ?_⟩
  exact ⟨add_zero_eq hx.canonical, multiply_one_eq hx.canonical⟩

-- The smallest word over the largest, beside an infinity.
theorem add_multiply_commute_extremes :
    let x : Number := .finite (-2147483648) 2147483647
    x.add posInfinity = posInfinity.add x ∧ x.multiply posInfinity = posInfinity.multiply x ∧
      x.add zero = x ∧ x.multiply one = x := by
  intro x
  have hx : Reachable x := (reachable_iff_canonical _).mpr (by decide)
  obtain ⟨hadd, hmultiply, hneutral⟩ := add_multiply_commute x posInfinity
  exact ⟨hadd, hmultiply, hneutral hx⟩

-- The range decision keeps signs apart from one numerator: the one above the largest word, which
-- does not fit although its negative does.
theorem ofRat_neg {q : ℚ} (h : (Ratio.fitted q).num ≠ wordMax + 1) :
    ofRat (-q) = (ofRat q).negate := by
  have hnum : (Ratio.fitted (-q)).num = -(Ratio.fitted q).num := by rw [Ratio.fitted_neg]
  have hword := wordMin_eq
  rcases ofRat_cases q with ⟨heq, habove⟩ | ⟨heq, hbelow⟩ | ⟨heq, hmin, hmax⟩
  · rw [heq, ofRat, Ratio.saturate_below (by omega)]
    rfl
  · rw [heq, ofRat, Ratio.saturate_above (by omega)]
    rfl
  · have hcanonical := ofRat_canonical q
    rw [heq] at hcanonical ⊢
    by_cases hleast : (Ratio.fitted q).num = wordMin
    · rw [hleast] at hnum hcanonical ⊢
      rw [negate_wordMin hcanonical, ofRat, Ratio.saturate_above (by omega)]
    · rw [negate_eq_finite hcanonical hleast, ofRat, Ratio.saturate_of_mem (by omega) (by omega),
        Ratio.fitted_neg]

theorem ofRat_neg_of_isFinite {q : ℚ} (h : (ofRat q).isFinite = true) :
    ofRat (-q) = (ofRat q).negate := by
  apply ofRat_neg
  intro hnum
  have habove : (wordMax : Int) < (Ratio.fitted q).num := by omega
  rw [ofRat, Ratio.saturate_above habove] at h
  cases h

theorem negate_add_negate (hx : x.Canonical) (hy : y.Canonical) (hnx : x.negate.isFinite = true)
    (hny : y.negate.isFinite = true) (h : (x.add y).isFinite = true) :
    x.negate.add y.negate = (x.add y).negate := by
  obtain ⟨hfx, hfy⟩ := isFinite_of_add h
  rw [add_eq_ofRat hx hy hfx hfy] at h ⊢
  rw [add_eq_ofRat (negate_canonical x) (negate_canonical y) hnx hny, value_negate hx hnx,
    value_negate hy hny, ← neg_add, ofRat_neg_of_isFinite h]

theorem negate_multiply (hx : x.Canonical) (hy : y.Canonical) (hfy : y.isFinite = true)
    (hnx : x.negate.isFinite = true) (h : (x.multiply y).isFinite = true) :
    x.negate.multiply y = (x.multiply y).negate := by
  rw [multiply_eq_ofRat hx hy (isFinite_of_negate hnx) hfy] at h ⊢
  rw [multiply_eq_ofRat (negate_canonical x) hy hnx hfy, value_negate hx hnx, neg_mul,
    ofRat_neg_of_isFinite h]

theorem multiply_negate (hx : x.Canonical) (hy : y.Canonical) (hfx : x.isFinite = true)
    (hny : y.negate.isFinite = true) (h : (x.multiply y).isFinite = true) :
    x.multiply y.negate = (x.multiply y).negate := by
  rw [Number.multiply_comm x y] at h ⊢
  rw [Number.multiply_comm, negate_multiply hy hx hfx hny h]

-- Signs can be taken out of a sum and out of either factor of a product, also where the result is
-- rounded and where there is a tie. Every negative that is finite is the exact one.
theorem add_multiply_sign_symmetric (hx : Reachable x) (hy : Reachable y)
    (hfx : x.isFinite = true) (hfy : y.isFinite = true) :
    (x.negate.isFinite = true → y.negate.isFinite = true → (x.add y).isFinite = true →
      x.negate.add y.negate = (x.add y).negate) ∧
    ((x.multiply y).isFinite = true →
      (x.negate.isFinite = true → x.negate.multiply y = (x.multiply y).negate) ∧
      (y.negate.isFinite = true → x.multiply y.negate = (x.multiply y).negate)) ∧
    ∀ z ∈ [x, y, x.add y, x.multiply y], z.negate.isFinite = true → z.negate.value = -z.value := by
  have hcx := hx.canonical
  have hcy := hy.canonical
  refine ⟨negate_add_negate hcx hcy, fun h => ⟨fun hnx => ?_, fun hny => ?_⟩, ?_⟩
  · exact negate_multiply hcx hcy hfy hnx h
  · exact multiply_negate hcx hcy hfx hny h
  · simp only [List.forall_mem_cons, List.not_mem_nil, false_imp_iff, implies_true, and_true]
    exact ⟨value_negate hcx, value_negate hcy, value_negate (add_canonical x y),
      value_negate (multiply_canonical x y)⟩

-- The sum lies halfway between one and the fraction below it. The product is rounded too.
theorem add_multiply_sign_symmetric_tie :
    let x : Number := .finite 1 2
    let y : Number := .finite 1073741823 2147483647
    x.add y = one ∧ x.negate.add y.negate = one.negate ∧
      x.negate.multiply y = (x.multiply y).negate ∧
      x.multiply y.negate = (x.multiply y).negate := by
  intro x y
  have hx : Reachable x := (reachable_iff_canonical _).mpr (by decide)
  have hy : Reachable y := (reachable_iff_canonical _).mpr (by decide)
  have hnx : x.negate.isFinite = true := by decide
  have hny : y.negate.isFinite = true := by decide
  have hone : x.add y = one := by decide +kernel
  obtain ⟨hadd, hmultiply, -⟩ := add_multiply_sign_symmetric hx hy rfl rfl
  obtain ⟨hleft, hright⟩ := hmultiply (by decide +kernel)
  have hsum := hadd hnx hny (by rw [hone]; rfl)
  rw [hone] at hsum
  exact ⟨hone, hsum, hleft hnx, hright hny⟩

end Number

end FractionCalculator
