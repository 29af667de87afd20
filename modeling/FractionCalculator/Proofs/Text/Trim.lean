import FractionCalculator.Text.Blank
import Mathlib.Data.List.DropRight

namespace FractionCalculator.Text

def AllBlank (cs : List Char) : Prop :=
  ∀ c ∈ cs, isBlank c = true

def NoBlank (cs : List Char) : Prop :=
  ∀ c ∈ cs, isBlank c = false

instance (cs : List Char) : Decidable (AllBlank cs) :=
  List.decidableBAll (isBlank · = true) cs

instance (cs : List Char) : Decidable (NoBlank cs) :=
  List.decidableBAll (isBlank · = false) cs

-- A core with blanks before and behind it.
def Padded (core cs : List Char) : Prop :=
  ∃ left right, AllBlank left ∧ AllBlank right ∧ cs = left ++ core ++ right

theorem padded_self (cs : List Char) : Padded cs cs :=
  ⟨[], [], by simp [AllBlank], by simp [AllBlank], by simp⟩

theorem trimRight_eq_rdropWhile (cs : List Char) : trimRight cs = cs.rdropWhile isBlank :=
  rfl

theorem trimRight_append_blank {cs right : List Char} (hright : AllBlank right) :
    trimRight (cs ++ right) = trimRight cs := by
  have hreverse : ∀ c ∈ right.reverse, isBlank c = true := fun c hc =>
    hright c (List.mem_reverse.mp hc)
  rw [trimRight, List.reverse_append, List.dropWhile_append_of_pos hreverse, trimRight]

theorem trimRight_of_noBlank {cs : List Char} (h : NoBlank cs) : trimRight cs = cs := by
  rw [trimRight_eq_rdropWhile, List.rdropWhile_eq_self_iff]
  intro hne
  simp [h _ (List.getLast_mem hne)]

theorem dropWhile_of_noBlank {cs : List Char} (h : NoBlank cs) (right : List Char)
    (hne : cs ≠ []) : (cs ++ right).dropWhile isBlank = cs ++ right := by
  obtain ⟨c, rest, rfl⟩ := List.exists_cons_of_ne_nil hne
  simp [h c List.mem_cons_self]

theorem exists_trimRight_append (cs : List Char) :
    ∃ right, AllBlank right ∧ cs = trimRight cs ++ right := by
  refine ⟨cs.rtakeWhile isBlank, fun c hc => List.mem_rtakeWhile_imp hc, ?_⟩
  exact (List.rdropWhile_append_rtakeWhile ..).symm

-- Trimming takes off nothing but blanks.
theorem padded_trimEnds (cs : List Char) : Padded (trimEnds cs) cs := by
  obtain ⟨right, hright, heq⟩ := exists_trimRight_append (cs.dropWhile isBlank)
  refine ⟨cs.takeWhile isBlank, right, fun c hc => List.mem_takeWhile_imp hc, hright, ?_⟩
  rw [trimEnds, List.append_assoc, ← heq, List.takeWhile_append_dropWhile]

-- All blanks around a core without any are taken off.
theorem Padded.trimEnds_eq {core cs : List Char} (h : Padded core cs) (hcore : NoBlank core)
    (hne : core ≠ []) : trimEnds cs = core := by
  obtain ⟨left, right, hleft, hright, rfl⟩ := h
  rw [trimEnds, List.append_assoc, List.dropWhile_append_of_pos hleft,
    dropWhile_of_noBlank hcore right hne, trimRight_append_blank hright, trimRight_of_noBlank hcore]

end FractionCalculator.Text
