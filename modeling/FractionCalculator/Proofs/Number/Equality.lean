import FractionCalculator.Proofs.Number.Construction
import FractionCalculator.Proofs.Number.Ordering

namespace FractionCalculator

namespace Number

variable {x y : Number}

theorem value_congr {n₁ d₁ n₂ d₂ : Int} (h₁ : d₁ ≠ 0) (h₂ : d₂ ≠ 0) (h : n₁ * d₂ = n₂ * d₁) :
    (n₁ / d₁ : ℚ) = n₂ / d₂ := by
  have h₁q : (d₁ : ℚ) ≠ 0 := by exact_mod_cast h₁
  have h₂q : (d₂ : ℚ) ≠ 0 := by exact_mod_cast h₂
  rw [div_eq_div_iff h₁q h₂q]
  exact_mod_cast h

theorem ofRatio_of_announceable {num den : Int} (hd : den ≠ 0)
    (h : ¬ Exact.Unannounceable (num / den)) : ofRatio num den = .ok (ofRat (num / den)) := by
  rw [ofRatio, Exact.ofRatio, if_neg hd]
  exact Exact.toNumber_of_not_unannounceable hd h

theorem ofRatio_of_unannounceable {num den : Int} (hd : den ≠ 0)
    (h : Exact.Unannounceable (num / den)) : ofRatio num den = .error .digitsUnwritable := by
  rw [ofRatio, Exact.ofRatio, if_neg hd]
  exact Exact.toNumber_of_unannounceable hd h

-- The pair of words that a number shows is one that it is built from.
theorem ofRatio_parts (hx : x.Canonical) : ofRatio x.numerator x.denominator = .ok x := by
  cases x with
  | nan => exact ofRatio_zero 0
  | infinite negative => cases negative <;> exact ofRatio_zero _
  | finite num den => exact ofRatio_of_canonical hx

theorem eq_iff_position? (hx : x.Canonical) (hy : y.Canonical) :
    x = y ↔ x.position? = y.position? :=
  ⟨congrArg position?, hx.eq_of_position? hy⟩

-- In lowest terms an integer stands over one.
theorem eq_finite_one_iff (hx : x.Canonical) (k : Int) :
    x = finite k 1 ↔ x.isFinite = true ∧ x.value = k := by
  constructor
  · rintro rfl
    exact ⟨rfl, by simp [value, numerator, denominator]⟩
  · rintro ⟨hfinite, hvalue⟩
    obtain ⟨num, den, rfl⟩ := exists_of_isFinite hfinite
    have hreduced := reduced_div hx
    rw [show (num / den : ℚ) = k from hvalue] at hreduced
    exact hreduced.symm

theorem parts_of_hashKey (h : x.hashKey = y.hashKey) :
    x.numerator = y.numerator ∧ x.denominator = y.denominator := by
  unfold hashKey at h
  split_ifs at h with hx hy hy
  · exact ⟨HashKey.integer.inj h, hx.trans hy.symm⟩
  · exact HashKey.pair.inj h

-- The special numbers show different pairs, and no fraction that stands over something else than
-- zero shows one of theirs.
theorem eq_of_parts (hx : x.isFinite = true → x.denominator ≠ 0)
    (hy : y.isFinite = true → y.denominator ≠ 0) (hnum : x.numerator = y.numerator)
    (hden : x.denominator = y.denominator) : x = y := by
  cases x with
  | nan =>
      cases y with
      | nan => rfl
      | infinite t => cases t <;> exact nomatch hnum
      | finite c d => exact absurd hden.symm (hy rfl)
  | infinite s =>
      cases y with
      | nan => cases s <;> exact nomatch hnum
      | infinite t =>
          cases s <;> cases t
          · rfl
          · exact nomatch hnum
          · exact nomatch hnum
          · rfl
      | finite c d => exact absurd hden.symm (hy rfl)
  | finite a b =>
      cases y with
      | finite c d =>
          cases hnum
          cases hden
          rfl
      | _ => exact absurd hden (hx rfl)

end Number

namespace Operand

open Number

variable {a b c : Operand}

-- Numbers that can be obtained, and integers of any size.
def IsItem : Operand → Prop
  | number x => Reachable x
  | other => other.toInt?.isSome = true

def Equals (a b : Operand) : Prop :=
  Relation.eq.holds a b = .ok true

-- The number that an item is. An integer keeps its value, however large it is.
def wide? : Operand → Option Number
  | number x => some x
  | other => other.toInt?.map fun n => .finite n 1

-- Nothing but a number or an integer is an item, and neither equals anything else.
theorem equals_iff_wide (ha : a.IsItem) (hb : b.IsItem) : a.Equals b ↔ a.wide? = b.wide? := by
  cases a with
  | number x => cases b <;> simp [Equals, Relation.holds, same, wide?, toInt?, IsItem] at *
  | integer m =>
      cases b <;> simp [Equals, Relation.holds, same, wide?, toInt?, IsItem, eq_comm] at *
  | truth s =>
      cases b <;> simp [Equals, Relation.holds, same, wide?, toInt?, IsItem, eq_comm] at *
  | _ => cases ha

theorem Equals.trans (ha : a.IsItem) (hb : b.IsItem) (hc : c.IsItem) (hab : a.Equals b)
    (hbc : b.Equals c) : a.Equals c := by
  rw [equals_iff_wide ha hb] at hab
  rw [equals_iff_wide hb hc] at hbc
  rw [equals_iff_wide ha hc, hab, hbc]

theorem hashKey?_eq (a : Operand) : a.hashKey? = a.wide?.map hashKey := by
  cases a <;> rfl

theorem IsItem.exists_wide (ha : a.IsItem) :
    ∃ x, a.wide? = some x ∧ (x.isFinite = true → x.denominator ≠ 0) := by
  cases a with
  | number x =>
      refine ⟨x, rfl, fun hfinite => ?_⟩
      have hcanonical := ha.canonical
      obtain ⟨num, den, rfl⟩ := exists_of_isFinite hfinite
      exact hcanonical.den_ne_zero
  | integer n => exact ⟨.finite n 1, rfl, fun _ => one_ne_zero⟩
  | truth t => exact ⟨.finite (if t then 1 else 0) 1, rfl, fun _ => one_ne_zero⟩
  | _ => cases ha

-- A table that goes by these keys holds one entry for each class of equal items.
theorem equals_iff_hashKey (ha : a.IsItem) (hb : b.IsItem) :
    a.Equals b ↔ a.hashKey? = b.hashKey? := by
  obtain ⟨x, hx, hxden⟩ := ha.exists_wide
  obtain ⟨y, hy, hyden⟩ := hb.exists_wide
  rw [equals_iff_wide ha hb, hashKey?_eq, hashKey?_eq, hx, hy, Option.map_some, Option.map_some,
    Option.some.injEq, Option.some.injEq]
  constructor
  · exact congrArg hashKey
  · intro h
    obtain ⟨hnum, hden⟩ := parts_of_hashKey h
    exact eq_of_parts hxden hyden hnum hden

theorem number_equals_number {x y : Number} (hx : Reachable x) (hy : Reachable y) :
    (number x).Equals (number y) ↔ x.position? = y.position? := by
  have hitems : (number x).Equals (number y) ↔ (number x).wide? = (number y).wide? :=
    equals_iff_wide hx hy
  rw [hitems, ← eq_iff_position? hx.canonical hy.canonical]
  exact Option.some_inj

theorem number_equals_integer {x : Number} (hx : Reachable x) (k : Int) :
    (number x).Equals (integer k) ↔ x.isFinite = true ∧ x.value = k := by
  have hitems : (number x).Equals (integer k) ↔ (number x).wide? = (integer k).wide? :=
    equals_iff_wide hx rfl
  rw [hitems, ← eq_finite_one_iff hx.canonical]
  exact Option.some_inj

theorem Equals.comm (ha : a.IsItem) (hb : b.IsItem) : a.Equals b ↔ b.Equals a := by
  rw [equals_iff_wide ha hb, equals_iff_wide hb ha, eq_comm]

end Operand

namespace Number

open Operand

-- A number is known by what it denotes, however it was obtained. Fractions of one value come to the
-- number of that value, unless its rounding cannot be announced: then none of them comes to a
-- number. Numbers are equal when they have one position, and an integer of any size equals the
-- number of its value. Equal items, and no others, are found under one key. The words of a number
-- rebuild it.
theorem equality_denotational {x y : Number} {a b c : Operand} (n₁ d₁ n₂ d₂ k : Int)
    (hx : Reachable x) (hy : Reachable y) (ha : a.IsItem) (hb : b.IsItem) (hc : c.IsItem) :
    (d₁ ≠ 0 → d₂ ≠ 0 → n₁ * d₂ = n₂ * d₁ →
      (¬ Exact.Unannounceable (n₁ / d₁) →
        ofRatio n₁ d₁ = .ok (ofRat (n₁ / d₁)) ∧ ofRatio n₂ d₂ = .ok (ofRat (n₁ / d₁))) ∧
      (Exact.Unannounceable (n₁ / d₁) →
        ofRatio n₁ d₁ = .error .digitsUnwritable ∧ ofRatio n₂ d₂ = .error .digitsUnwritable)) ∧
    ((number x).Equals (number y) ↔ x.position? = y.position?) ∧
    ((number x).Equals (integer k) ↔ x.isFinite = true ∧ x.value = k) ∧
    ((integer k).Equals (number x) ↔ x.isFinite = true ∧ x.value = k) ∧
    (a.Equals b → b.Equals c → a.Equals c) ∧
    (a.Equals b ↔ a.hashKey? = b.hashKey?) ∧
    ofRatio x.numerator x.denominator = .ok x := by
  have hinteger := number_equals_integer hx k
  refine ⟨fun h₁ h₂ h => ?_, number_equals_number hx hy, hinteger, ?_, Equals.trans ha hb hc,
    equals_iff_hashKey ha hb, ofRatio_parts hx.canonical⟩
  · have hvalue := value_congr h₁ h₂ h
    constructor
    · intro hshort
      refine ⟨ofRatio_of_announceable h₁ hshort, ?_⟩
      rw [hvalue] at hshort ⊢
      exact ofRatio_of_announceable h₂ hshort
    · intro hlong
      refine ⟨ofRatio_of_unannounceable h₁ hlong, ?_⟩
      rw [hvalue] at hlong
      exact ofRatio_of_unannounceable h₂ hlong
  · rw [← hinteger]
    exact Equals.comm rfl hx

-- Two ways to write a fraction that has to be rounded, an integer that a number saturates, and a
-- whole number beside its integer.
theorem equality_denotational_limits :
    ofRatio 1000000007 2147483648 = .ok (finite 963150474 2068349879) ∧
    ofRatio (-2000000014) (-4294967296) = .ok (finite 963150474 2068349879) ∧
    ¬ (number (ofInt 1099511627776)).Equals (integer 1099511627776) ∧
    (integer (-2147483648)).Equals (number minValue) ∧
    (integer (-2147483648)).hashKey? = (number minValue).hashKey? ∧
    ofRatio (-2147483647) 0 = .ok negInfinity := by
  have hshort : ¬ Exact.Unannounceable ((1000000007 : Int) / (2147483648 : Int)) := by
    rw [Exact.unannounceable_iff]
    decide +kernel
  have hrounded : ofRat ((1000000007 : Int) / (2147483648 : Int)) =
      finite 963150474 2068349879 := by
    decide +kernel
  have hsaturated : Reachable (ofInt 1099511627776) := (reachable_iff_canonical _).mpr (by decide)
  have hmin : Reachable minValue := (reachable_iff_canonical _).mpr (by decide)
  have hinfinite : Reachable negInfinity := (reachable_iff_canonical _).mpr (by decide)
  have hitem : (integer (-2147483648)).IsItem := rfl
  obtain ⟨hratio, -, -, hinteger, -, hkey, -⟩ := equality_denotational 1000000007 2147483648
    (-2000000014) (-4294967296) (-2147483648) hmin hinfinite hitem
    (show (number minValue).IsItem from hmin) hitem
  obtain ⟨-, -, hwide, -, -, -, -⟩ := equality_denotational 0 1 0 1 1099511627776 hsaturated hmin
    hitem hitem hitem
  obtain ⟨-, -, -, -, -, -, hparts⟩ := equality_denotational 0 1 0 1 0 hinfinite hmin hitem hitem
    hitem
  have hways := (hratio (by decide) (by decide) (by decide)).1 hshort
  rw [hrounded] at hways
  have hequals := hinteger.mpr ⟨rfl, by decide +kernel⟩
  refine ⟨hways.1, hways.2, fun h => ?_, hequals, hkey.mp hequals, hparts⟩
  exact absurd (hwide.mp h).1 (by decide)

-- One over a denominator of too many digits is not rounded to zero. It cannot be announced.
theorem ofRatio_unit_fails {d : Nat} (hwide : wordMax < d) (hlong : 10 ^ digitLimit ≤ d) :
    ofRatio 1 d = .error .digitsUnwritable := by
  have hpos : (0 : Int) < d := by omega
  have hden := Rat.den_div_eq_of_coprime hpos
    (show (1 : Int).natAbs.Coprime _ from Nat.coprime_one_left (d : Int).natAbs)
  apply ofRatio_of_unannounceable hpos.ne'
  rw [Exact.unannounceable_iff]
  refine ⟨by omega, .inr ?_⟩
  rw [← Bool.not_eq_true, isWritable_iff]
  omega

-- Two ways to write such a fraction, of which neither comes to a number.
theorem ofRatio_unit_limit_fails :
    (1 : Int) * (2 * 10 ^ 4300) = 2 * 10 ^ 4300 ∧ (10 ^ 4300 : Int) ≠ 0 ∧
    (2 * 10 ^ 4300 : Int) ≠ 0 ∧
    ¬ ∃ x y, ofRatio 1 (10 ^ 4300) = .ok x ∧ ofRatio 2 (2 * 10 ^ 4300) = .ok y ∧
      (number x).Equals (number y) := by
  have hlimit : digitLimit = 4300 := rfl
  have hten : 10 ≤ 4300 := by decide
  -- Nothing may compute the power.
  generalize 4300 = limit at *
  have hwide : wordMax < 10 ^ limit :=
    (show wordMax < 10 ^ 10 by decide).trans_le (Nat.pow_le_pow_right (by decide) hten)
  have hlong : 10 ^ digitLimit ≤ 10 ^ limit := by
    rw [hlimit]
  have hfails := ofRatio_unit_fails hwide hlong
  rw [Nat.cast_pow, Nat.cast_ofNat] at hfails
  have hnonzero : (10 ^ limit : Int) ≠ 0 := pow_ne_zero limit (by decide)
  refine ⟨one_mul _, hnonzero, mul_ne_zero two_ne_zero hnonzero, ?_⟩
  rintro ⟨x, y, hx, -, -⟩
  rw [hfails] at hx
  cases hx

end Number

end FractionCalculator
