import FractionCalculator.Proofs.Literal.Grammar
import Mathlib.Algebra.Group.Nat.Defs

namespace FractionCalculator

-- The number that a run of digits stands for in base ten.
def decimal (digits : List Char) : Nat :=
  Nat.ofDigitChars 10 digits 0

theorem digitsValue_eq_decimal (digits : List Char) : digitsValue digits = decimal digits :=
  Nat.ofDigitChars_eq_foldl.symm

@[simp] theorem decimal_toDigits (n : Nat) : decimal (Nat.toDigits 10 n) = n :=
  Nat.ofDigitChars_ten_toDigits

theorem decimal_cons (c : Char) (digits : List Char) :
    decimal (c :: digits) = 10 ^ digits.length * (c.toNat - 48) + decimal digits := by
  rw [decimal, Nat.ofDigitChars_cons, Nat.ofDigitChars_eq_ofDigitChars_zero, Nat.mul_zero,
    Nat.zero_add]
  rfl

theorem decimal_lt_pow {digits : List Char} (h : IsDigits digits) :
    decimal digits < 10 ^ digits.length := by
  induction digits with
  | nil => decide
  | cons c digits ih =>
      obtain ⟨hc, hdigits⟩ := List.forall_mem_cons.mp h
      have hrange : 48 ≤ c.toNat ∧ c.toNat ≤ 57 := Char.isDigit_iff_toNat.mp hc
      have hle : 10 ^ digits.length * (c.toNat - 48) ≤ 10 ^ digits.length * 9 :=
        Nat.mul_le_mul_left _ (by omega)
      have := ih hdigits
      rw [decimal_cons, List.length_cons, Nat.pow_succ]
      omega

theorem pow_le_decimal {c : Char} {digits : List Char} (hc : c.isDigit = true) (hne : c ≠ '0') :
    10 ^ digits.length ≤ decimal (c :: digits) := by
  have hrange : 48 ≤ c.toNat ∧ c.toNat ≤ 57 := Char.isDigit_iff_toNat.mp hc
  have hne48 : c.toNat ≠ 48 := fun h => hne (Char.toNat_inj.mp h)
  rw [decimal_cons]
  exact (Nat.le_mul_of_pos_right _ (by omega)).trans (Nat.le_add_right ..)

theorem decimal_dropWhile_zero (digits : List Char) :
    decimal (digits.dropWhile (· = '0')) = decimal digits := by
  induction digits with
  | nil => rfl
  | cons c digits ih =>
      by_cases hc : c = '0'
      · subst hc
        rw [List.dropWhile_cons_of_pos (by decide), ih, decimal_cons]
        simp
      · rw [List.dropWhile_cons_of_neg (by simpa using hc)]

-- Leading zeros aside, the number of digits tells the size.
theorem decimal_lt_pow_iff {digits : List Char} (h : IsDigits digits) (count : Nat) :
    decimal digits < 10 ^ count ↔ (digits.dropWhile (· = '0')).length ≤ count := by
  have hkept : IsDigits (digits.dropWhile (· = '0')) := fun c hc =>
    h c ((List.dropWhile_sublist _).subset hc)
  rw [← decimal_dropWhile_zero digits]
  constructor
  · intro hlt
    cases hdrop : digits.dropWhile (· = '0') with
    | nil => exact Nat.zero_le _
    | cons c rest =>
        have hne : c ≠ '0' := by
          have := List.head_dropWhile_not (· = '0') (by rw [hdrop]; exact List.cons_ne_nil c rest)
          simpa [hdrop] using this
        rw [hdrop] at hlt hkept
        have hpow := (pow_le_decimal (hkept c List.mem_cons_self) hne).trans_lt hlt
        exact (Nat.pow_lt_pow_iff_right (by decide)).mp hpow
  · intro hle
    exact (decimal_lt_pow hkept).trans_le (Nat.pow_le_pow_right (by decide) hle)

end FractionCalculator
