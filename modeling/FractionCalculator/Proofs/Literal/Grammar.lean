import FractionCalculator.Literal
import FractionCalculator.Proofs.Text.Trim

namespace FractionCalculator

def IsDigits (cs : List Char) : Prop :=
  ∀ c ∈ cs, c.isDigit = true

instance (cs : List Char) : Decidable (IsDigits cs) :=
  List.decidableBAll (Char.isDigit · = true) cs

-- Where a run of digits has to end.
def NoDigitFirst (cs : List Char) : Prop :=
  ∀ c ∈ cs.head?, c.isDigit = false

theorem splitDigits_append {run rest : List Char} (hrun : IsDigits run)
    (hrest : NoDigitFirst rest) : splitDigits (run ++ rest) = (run, rest) := by
  have htake : rest.takeWhile Char.isDigit = [] := by
    cases rest with
    | nil => rfl
    | cons c rest => simp [hrest c rfl]
  have hdrop : rest.dropWhile Char.isDigit = rest := by
    cases rest with
    | nil => rfl
    | cons c rest => simp [hrest c rfl]
  rw [splitDigits, List.takeWhile_append_of_pos hrun, List.dropWhile_append_of_pos hrun, htake,
    hdrop, List.append_nil]

theorem splitDigits_eq {cs run rest : List Char} (h : splitDigits cs = (run, rest)) :
    IsDigits run ∧ cs = run ++ rest := by
  obtain ⟨rfl, rfl⟩ := Prod.mk.inj h
  exact ⟨fun c hc => List.mem_takeWhile_imp hc, List.takeWhile_append_dropWhile.symm⟩

theorem splitDigits_self {run : List Char} (hrun : IsDigits run) : splitDigits run = (run, []) := by
  have hend : NoDigitFirst [] := nofun
  rw [← splitDigits_append hrun hend, List.append_nil]

namespace Literal

def negative : Literal → Bool
  | whole negative _ => negative
  | fraction negative _ _ => negative
  | mixed negative _ _ _ => negative

def runs : Literal → List (List Char)
  | whole _ digits => [digits]
  | fraction _ num den => [num, den]
  | mixed _ units num den => [units, num, den]

-- The runs with the marks between them.
def body : Literal → List Char
  | whole _ digits => digits
  | fraction _ num den => num ++ '/' :: den
  | mixed _ units num den => units ++ '_' :: (num ++ '/' :: den)

inductive SignMark : Bool → List Char → Prop
  | absent : SignMark false []
  | plus : SignMark false ['+']
  | minus : SignMark true ['-']

-- The ways to write a literal: a sign or none, and then its runs, none of which is empty.
structure Spells (l : Literal) (cs : List Char) : Prop where
  digits : ∀ run ∈ l.runs, run ≠ [] ∧ IsDigits run
  sign : ∃ mark, SignMark l.negative mark ∧ cs = mark ++ l.body

theorem splitSign_mark {negative : Bool} {mark cs : List Char} (hmark : SignMark negative mark)
    (hcs : ∀ c ∈ cs.head?, c.isDigit = true) : splitSign (mark ++ cs) = (negative, cs) := by
  cases hmark with
  | absent =>
      cases cs with
      | nil => rfl
      | cons c cs =>
          have hdigit := hcs c rfl
          unfold splitSign
          split
          · simp_all
          · simp_all
          · rfl
  | plus => rfl
  | minus => rfl

theorem splitSign_eq {cs unsigned : List Char} {negative : Bool}
    (h : splitSign cs = (negative, unsigned)) :
    ∃ mark, SignMark negative mark ∧ cs = mark ++ unsigned := by
  unfold splitSign at h
  split at h <;> cases h
  · exact ⟨_, .plus, rfl⟩
  · exact ⟨_, .minus, rfl⟩
  · exact ⟨_, .absent, rfl⟩

theorem isDigit_of_mem_head?_body {l : Literal}
    (h : ∀ run ∈ l.runs, run ≠ [] ∧ IsDigits run) : ∀ c ∈ l.body.head?, c.isDigit = true := by
  obtain ⟨run, hmem, rest, hbody⟩ : ∃ run ∈ l.runs, ∃ rest, l.body = run ++ rest := by
    cases l with
    | whole negative digits => exact ⟨digits, List.mem_singleton_self _, [], by simp [body]⟩
    | fraction negative num den => exact ⟨num, List.mem_cons_self, _, rfl⟩
    | mixed negative units num den => exact ⟨units, List.mem_cons_self, _, rfl⟩
  obtain ⟨hne, hdigits⟩ := h run hmem
  obtain ⟨d, digits, rfl⟩ := List.exists_cons_of_ne_nil hne
  intro c hc
  rw [hbody] at hc
  cases hc
  exact hdigits d List.mem_cons_self

theorem Spells.ofChars?_eq {l : Literal} {cs : List Char} (h : l.Spells cs) :
    ofChars? cs = some l := by
  obtain ⟨hdigits, mark, hmark, rfl⟩ := h
  have hsign := splitSign_mark hmark (isDigit_of_mem_head?_body hdigits)
  have hslash (rest : List Char) : NoDigitFirst ('/' :: rest) := by simp [NoDigitFirst]
  have hunderscore (rest : List Char) : NoDigitFirst ('_' :: rest) := by simp [NoDigitFirst]
  rw [ofChars?, hsign]
  cases l with
  | whole negative digits =>
      obtain ⟨hne, hd⟩ := hdigits digits (by simp [runs])
      obtain ⟨c, digits, rfl⟩ := List.exists_cons_of_ne_nil hne
      simp only [body, splitDigits_self hd, Literal.negative]
  | fraction negative num den =>
      obtain ⟨hnum, hnd⟩ := hdigits num (by simp [runs])
      obtain ⟨hden, hdd⟩ := hdigits den (by simp [runs])
      obtain ⟨c, num, rfl⟩ := List.exists_cons_of_ne_nil hnum
      obtain ⟨d, den, rfl⟩ := List.exists_cons_of_ne_nil hden
      simp only [body, splitDigits_append hnd (hslash _), splitDigits_self hdd, Literal.negative]
  | mixed negative units num den =>
      obtain ⟨hunits, hud⟩ := hdigits units (by simp [runs])
      obtain ⟨hnum, hnd⟩ := hdigits num (by simp [runs])
      obtain ⟨hden, hdd⟩ := hdigits den (by simp [runs])
      obtain ⟨b, units, rfl⟩ := List.exists_cons_of_ne_nil hunits
      obtain ⟨c, num, rfl⟩ := List.exists_cons_of_ne_nil hnum
      obtain ⟨d, den, rfl⟩ := List.exists_cons_of_ne_nil hden
      simp only [body, splitDigits_append hud (hunderscore _), splitDigits_append hnd (hslash _),
        splitDigits_self hdd, Literal.negative]

theorem spells_of_ofChars? {l : Literal} {cs : List Char} (h : ofChars? cs = some l) :
    l.Spells cs := by
  rcases hsign : splitSign cs with ⟨negative, unsigned⟩
  obtain ⟨mark, hmark, rfl⟩ := splitSign_eq hsign
  rw [ofChars?, hsign] at h
  simp only at h
  -- the cases follow the mark behind the first run
  split at h
  · cases h
  · rename_i first hfirst heq
    cases h
    obtain ⟨hd, rfl⟩ := splitDigits_eq heq
    exact ⟨by simpa [runs] using ⟨hfirst, hd⟩, mark, hmark, by simp [body]⟩
  · rename_i first rest hfirst heq
    obtain ⟨hd, rfl⟩ := splitDigits_eq heq
    split at h
    · cases h
    · rename_i second hsecond heq'
      cases h
      obtain ⟨hd', rfl⟩ := splitDigits_eq heq'
      exact ⟨by simpa [runs] using ⟨⟨hfirst, hd⟩, hsecond, hd'⟩, mark, hmark, by simp [body]⟩
    · cases h
  · rename_i first rest hfirst heq
    obtain ⟨hd, rfl⟩ := splitDigits_eq heq
    split at h
    · cases h
    · rename_i second rest hsecond heq'
      obtain ⟨hd', rfl⟩ := splitDigits_eq heq'
      split at h
      · cases h
      · rename_i third hthird heq''
        cases h
        obtain ⟨hd'', rfl⟩ := splitDigits_eq heq''
        exact ⟨by simpa [runs] using ⟨⟨hfirst, hd⟩, ⟨hsecond, hd'⟩, hthird, hd''⟩, mark, hmark,
          by simp [body]⟩
      · cases h
    · cases h
  · cases h

-- The reader accepts what spells a literal and nothing else, so a text spells one literal at most.
theorem ofChars?_eq_some_iff (l : Literal) (cs : List Char) : ofChars? cs = some l ↔ l.Spells cs :=
  ⟨spells_of_ofChars?, Spells.ofChars?_eq⟩

theorem isBlank_of_isDigit {c : Char} (h : c.isDigit = true) : Text.isBlank c = false := by
  have hrange : 48 ≤ c.toNat ∧ c.toNat ≤ 57 := Char.isDigit_iff_toNat.mp h
  simp only [Text.isBlank, Bool.or_eq_false_iff, Bool.and_eq_false_iff, decide_eq_false_iff_not,
    beq_eq_false_iff_ne]
  omega

theorem SignMark.noBlank {negative : Bool} {mark : List Char} (h : SignMark negative mark) :
    Text.NoBlank mark := by
  cases h <;> decide

-- A character of the body is a digit or a mark.
theorem noBlank_body {l : Literal} (h : ∀ run ∈ l.runs, run ≠ [] ∧ IsDigits run) :
    Text.NoBlank l.body := by
  have hrun : ∀ run ∈ l.runs, Text.NoBlank run := fun run hmem c hc =>
    isBlank_of_isDigit ((h run hmem).2 c hc)
  intro c hc
  cases l with
  | whole negative digits => exact hrun digits (by simp [runs]) c hc
  | fraction negative num den =>
      simp only [body, List.mem_append, List.mem_cons] at hc
      rcases hc with hc | rfl | hc
      · exact hrun num (by simp [runs]) c hc
      · decide
      · exact hrun den (by simp [runs]) c hc
  | mixed negative units num den =>
      simp only [body, List.mem_append, List.mem_cons] at hc
      rcases hc with hc | rfl | hc | rfl | hc
      · exact hrun units (by simp [runs]) c hc
      · decide
      · exact hrun num (by simp [runs]) c hc
      · decide
      · exact hrun den (by simp [runs]) c hc

theorem Spells.noBlank {l : Literal} {cs : List Char} (h : l.Spells cs) : Text.NoBlank cs := by
  obtain ⟨hdigits, mark, hmark, rfl⟩ := h
  intro c hc
  rcases List.mem_append.mp hc with hc | hc
  · exact hmark.noBlank c hc
  · exact noBlank_body hdigits c hc

theorem Spells.ne_nil {l : Literal} {cs : List Char} (h : l.Spells cs) : cs ≠ [] := by
  rintro rfl
  exact nomatch h.ofChars?_eq

-- A literal with blanks around it.
def WrittenIn (l : Literal) (text : String) : Prop :=
  ∃ core, Text.Padded core text.toList ∧ l.Spells core

theorem Spells.writtenIn_ofList {l : Literal} {cs : List Char} (h : l.Spells cs) :
    l.WrittenIn (String.ofList cs) := by
  refine ⟨cs, ?_, h⟩
  rw [String.toList_ofList]
  exact Text.padded_self cs

theorem ofChars?_trimEnds_eq_some_iff (l : Literal) (text : String) :
    ofChars? (Text.trimEnds text.toList) = some l ↔ l.WrittenIn text := by
  rw [ofChars?_eq_some_iff]
  constructor
  · intro h
    exact ⟨_, Text.padded_trimEnds _, h⟩
  · rintro ⟨core, hpadded, h⟩
    rwa [hpadded.trimEnds_eq h.noBlank h.ne_nil]

end Literal

end FractionCalculator
