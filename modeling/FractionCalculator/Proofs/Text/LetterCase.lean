import FractionCalculator.Proofs.Text.Trim
import FractionCalculator.Text.LetterCase

namespace FractionCalculator.Text

def blankCodes : List Nat :=
  List.range' 0x09 5 ++ List.range' 0x1C 5 ++ [0x85, 0xA0, 0x1680] ++ List.range' 0x2000 11 ++
    [0x2028, 0x2029, 0x202F, 0x205F, 0x3000]

theorem toNat_mem_blankCodes {c : Char} (h : isBlank c = true) : c.toNat ∈ blankCodes := by
  simp only [isBlank, Bool.or_eq_true, Bool.and_eq_true, decide_eq_true_eq, beq_iff_eq] at h
  simp only [blankCodes, List.mem_append, List.mem_range'_1, List.mem_cons, List.not_mem_nil,
    or_false]
  omega

-- The tables of letter case pass blanks over.
theorem capital_of_isBlank {c : Char} (h : isBlank c = true) : capital c = [c] := by
  have hcodes : ∀ n ∈ blankCodes, capital (Char.ofNat n) = [Char.ofNat n] := by decide +kernel
  simpa only [Char.ofNat_toNat] using hcodes c.toNat (toNat_mem_blankCodes h)

-- A blank is still there when a text is written in capitals.
theorem noBlank_of_toUpper {text : String} (h : NoBlank (toUpper text).toList) :
    NoBlank text.toList := by
  intro c hc
  by_contra hblank
  rw [Bool.not_eq_false] at hblank
  have hmem : c ∈ (toUpper text).toList := by
    rw [toUpper, String.toList_ofList, List.mem_flatMap]
    exact ⟨c, hc, by simp [capital_of_isBlank hblank]⟩
  simp [h c hmem] at hblank

theorem trim_of_noBlank {text : String} (h : NoBlank text.toList) : trim text = text := by
  by_cases hnil : text.toList = []
  · rw [trim, hnil]
    exact String.toList_inj.mp hnil.symm
  · rw [trim, (padded_self text.toList).trimEnds_eq h hnil, String.ofList_toList]

end FractionCalculator.Text
