import FractionCalculator.Text.Blank
import FractionCalculator.Text.Quoted
import Mathlib.Data.List.Basic

namespace FractionCalculator.Text

def Printable (text : String) : Prop :=
  ∀ c ∈ text.toList, isPrintable c = true

theorem isPrintable_iff (c : Char) :
    isPrintable c = true ↔ ∀ range ∈ unprintableRanges, c.toNat < range.1 ∨ range.2 < c.toNat := by
  simp only [isPrintable, inRanges, Bool.not_eq_true', List.any_eq_false, Bool.and_eq_true,
    decide_eq_true_eq]
  constructor
  · intro h range hrange
    have := h range hrange
    omega
  · intro h range hrange
    have := h range hrange
    omega

def IsControl (c : Char) : Prop :=
  c.toNat < 0x20 ∨ 0x7F ≤ c.toNat ∧ c.toNat ≤ 0x9F

theorem not_isControl {c : Char} (h : isPrintable c = true) : ¬ IsControl c := by
  rw [isPrintable_iff] at h
  have hlow := h (0x00, 0x1F) (by decide)
  have hhigh := h (0x7F, 0xA0) (by decide)
  unfold IsControl
  omega

-- Every blank but the space is in the table, the line breaks among them.
theorem eq_space_of_isBlank {c : Char} (h : isPrintable c = true) (hblank : isBlank c = true) :
    c = ' ' := by
  rw [isPrintable_iff] at h
  have hlow := h (0x00, 0x1F) (by decide)
  have hhigh := h (0x7F, 0xA0) (by decide)
  have hogham := h (0x1680, 0x1680) (by decide +kernel)
  have hspaces := h (0x1FFF, 0x200F) (by decide +kernel)
  have hbreaks := h (0x2028, 0x202F) (by decide +kernel)
  have hmath := h (0x205F, 0x206F) (by decide +kernel)
  have hwide := h (0x2FFC, 0x3000) (by decide +kernel)
  simp only [isBlank, Bool.or_eq_true, Bool.and_eq_true, decide_eq_true_eq, beq_iff_eq] at hblank
  exact Char.toNat_inj.mp (show c.toNat = 32 by omega)

-- The characters that every message is made of, apart from what it quotes.
def IsPlain (c : Char) : Prop :=
  0x20 ≤ c.toNat ∧ c.toNat ≤ 0x7E

instance (c : Char) : Decidable (IsPlain c) :=
  inferInstanceAs (Decidable (_ ∧ _))

theorem IsPlain.isPrintable {c : Char} (h : IsPlain c) : isPrintable c = true := by
  have htable : ∀ range ∈ unprintableRanges, range.2 < 0x20 ∨ 0x7E < range.1 := by decide +kernel
  rw [isPrintable_iff]
  intro range hrange
  have := htable range hrange
  unfold IsPlain at h
  omega

def AllPlain (cs : List Char) : Prop :=
  ∀ c ∈ cs, IsPlain c

-- Only the characters of the list are looked at, not all that there are.
instance (cs : List Char) : Decidable (AllPlain cs) :=
  List.decidableBAll IsPlain cs

theorem isPlain_of_isDigit {c : Char} (h : c.isDigit = true) : IsPlain c := by
  have hrange : 48 ≤ c.toNat ∧ c.toNat ≤ 57 := Char.isDigit_iff_toNat.mp h
  unfold IsPlain
  omega

theorem printable_ofList (cs : List Char) :
    Printable (String.ofList cs) ↔ ∀ c ∈ cs, isPrintable c = true := by
  rw [Printable, String.toList_ofList]

theorem Printable.append {a b : String} (ha : Printable a) (hb : Printable b) :
    Printable (a ++ b) := by
  rw [Printable, String.toList_append, List.forall_mem_append]
  exact ⟨ha, hb⟩

theorem printable_of_plain {text : String} (h : AllPlain text.toList) : Printable text :=
  fun c hc => (h c hc).isPrintable

theorem mem_toDigits {base n : Nat} (hbase : 1 < base) {c : Char} (h : c ∈ Nat.toDigits base n) :
    ∃ d, c = Nat.digitChar d := by
  induction n using Nat.strongRecOn with
  | ind n ih =>
      rw [Nat.toDigits_eq_if hbase] at h
      split_ifs at h with hlt
      · exact ⟨n, List.mem_singleton.mp h⟩
      · rcases List.mem_append.mp h with h | h
        · exact ih (n / base) (Nat.div_lt_self (by omega) hbase) h
        · exact ⟨n % base, List.mem_singleton.mp h⟩

theorem isPlain_digitChar (d : Nat) : IsPlain (Nat.digitChar d) := by
  have hdigits : ∀ d < 16, IsPlain (Nat.digitChar d) := by decide
  rcases Nat.lt_or_ge d 16 with hd | hd
  · exact hdigits d hd
  · rw [Nat.digitChar_eq_star.mpr hd]
    decide

theorem allPlain_hexDigits (width n : Nat) : AllPlain (hexDigits width n) := by
  intro c hc
  rw [hexDigits, List.leftpad, List.mem_append] at hc
  rcases hc with hc | hc
  · rw [List.eq_of_mem_replicate hc]
    decide
  · obtain ⟨d, rfl⟩ := mem_toDigits (by decide) hc
    exact isPlain_digitChar d

theorem allPlain_codeEscape (c : Char) : AllPlain (codeEscape c) := by
  obtain ⟨letter, hletter, width, heq⟩ : ∃ letter ∈ ['x', 'u', 'U'], ∃ width,
      codeEscape c = '\\' :: letter :: hexDigits width c.toNat := by
    unfold codeEscape
    split_ifs
    exacts [⟨'x', by decide, _, rfl⟩, ⟨'u', by decide, _, rfl⟩, ⟨'U', by decide, _, rfl⟩]
  have hletters : AllPlain ['x', 'u', 'U'] := by decide
  rw [heq]
  exact List.forall_mem_cons.mpr ⟨by decide,
    List.forall_mem_cons.mpr ⟨hletters letter hletter, allPlain_hexDigits _ _⟩⟩

-- A character is shown as itself or escaped.
theorem isPrintable_escape {mark : Char} (hmark : IsPlain mark) (c : Char) :
    ∀ d ∈ escape mark c, isPrintable d = true := by
  have hbackslash : IsPlain '\\' := by decide
  have htab : AllPlain ['\\', 't'] := by decide
  have hfeed : AllPlain ['\\', 'n'] := by decide
  have hreturn : AllPlain ['\\', 'r'] := by decide
  intro d hd
  unfold escape at hd
  split_ifs at hd with hquoted _ _ _ hshown
  · rw [Bool.or_eq_true, decide_eq_true_eq, decide_eq_true_eq] at hquoted
    rcases List.mem_pair.mp hd with rfl | rfl
    · exact hbackslash.isPrintable
    · rcases hquoted with rfl | rfl
      · exact hmark.isPrintable
      · exact hbackslash.isPrintable
  · exact (htab d hd).isPrintable
  · exact (hfeed d hd).isPrintable
  · exact (hreturn d hd).isPrintable
  · rwa [List.mem_singleton.mp hd]
  · exact (allPlain_codeEscape c d hd).isPrintable

-- A quoted text can be shown on one line, whatever the text is.
theorem printable_quote (text : String) : Printable (quote text) := by
  have hmark : IsPlain (quotationMark text.toList) := by
    unfold quotationMark
    split <;> decide
  rw [quote, printable_ofList]
  intro c hc
  simp only [List.mem_append, List.mem_cons, List.mem_flatMap, List.not_mem_nil, or_false] at hc
  rcases hc with (rfl | ⟨d, -, hd⟩) | rfl
  · exact hmark.isPrintable
  · exact isPrintable_escape hmark d c hd
  · exact hmark.isPrintable

end FractionCalculator.Text
