import FractionCalculator.Proofs.Literal.Decimal
import FractionCalculator.Proofs.Number.Word

namespace FractionCalculator

def CalcError.IsMalformedLiteral (e : CalcError) : Prop :=
  e.reportName? = some "MalformedLiteralError"

-- A check that lets `a` through exactly under one condition, and calls the literal malformed
-- otherwise.
structure Decides {α : Type} (r : Except CalcError α) (fits : Prop) (a : α) : Prop where
  accepts : fits → r = .ok a
  refuses : ¬ fits → ∃ e, r = .error e ∧ e.IsMalformedLiteral

namespace Decides

variable {α β : Type} {r : Except CalcError α} {f : α → Except CalcError β} {p q : Prop} {a : α}
  {b : β}

theorem of_eq_ok (h : r = .ok a) : Decides r True a :=
  ⟨fun _ => h, fun hnot => absurd trivial hnot⟩

theorem bind (h : Decides r p a) (hf : p → Decides (f a) q b) : Decides (r >>= f) (p ∧ q) b where
  accepts hpq := by
    rw [h.accepts hpq.1]
    exact (hf hpq.1).accepts hpq.2
  refuses hnot := by
    by_cases hp : p
    · rw [h.accepts hp]
      exact (hf hp).refuses fun hq => hnot ⟨hp, hq⟩
    · obtain ⟨e, he, hmalformed⟩ := h.refuses hp
      exact ⟨e, by rw [he]; rfl, hmalformed⟩

theorem congr (h : Decides r p a) (hpq : p ↔ q) : Decides r q a :=
  ⟨fun hq => h.accepts (hpq.mpr hq), fun hq => h.refuses fun hp => hq (hpq.mp hp)⟩

-- A check that let b through found its condition to hold.
theorem of_ok {b : α} (h : Decides r p a) (hr : r = .ok b) : p ∧ b = a := by
  by_cases hp : p
  · rw [h.accepts hp] at hr
    cases hr
    exact ⟨hp, rfl⟩
  · obtain ⟨e, he, -⟩ := h.refuses hp
    rw [he] at hr
    cases hr

end Decides

namespace Literal

-- A mixed number has its sign on the whole part, or on the numerator when the whole part is zero.
def signedUnits (negative : Bool) (units : Int) : Int :=
  if units = 0 then units else signed negative units

def signedNum (negative : Bool) (units num : Int) : Int :=
  if units = 0 then signed negative num else num

-- Every part is a word once the sign stands in its place.
def Fits : Literal → Prop
  | whole negative digits => IsWord (signed negative (decimal digits))
  | fraction negative num den => IsWord (signed negative (decimal num)) ∧ IsWord (decimal den)
  | mixed negative units num den =>
    IsWord (signedUnits negative (decimal units)) ∧
    IsWord (signedNum negative (decimal units) (decimal num)) ∧ IsWord (decimal den)

instance (l : Literal) : Decidable l.Fits := by
  cases l <;> unfold Fits <;> infer_instance

-- The number that a literal stands for. Over zero only a fraction has one, and a mixed number may
-- be too large.
def meaning : Literal → Number
  | whole negative digits => Number.reduced (signed negative (decimal digits))
  | fraction negative num den =>
    let n := signed negative (decimal num)
    if decimal den = 0 then (if n = 0 then .nan else .infinite (decide (n < 0)))
    else Number.reduced (n / decimal den)
  | mixed negative units num den =>
    let size : ℚ := decimal units + decimal num / decimal den
    let x := if negative then -size else size
    if decimal den = 0 then .nan
    else if IsWord x.num then Number.reduced x
    else .infinite negative

-- A run that is short enough to be read.
structure Readable (digits : List Char) : Prop where
  isDigits : IsDigits digits
  length_le : digits.length ≤ digitLimit

-- Too many digits mean a number that no word holds, whatever zeros stand before them.
theorem component_decides (text : String) {digits : List Char} (h : Readable digits) :
    Decides (component text digits) (decimal digits < 10 ^ 10) (decimal digits : Int) := by
  rw [decimal_lt_pow_iff h.isDigits]
  constructor
  · intro hle
    rw [component, if_neg (not_lt.mpr hle), if_neg (not_lt.mpr h.length_le),
      digitsValue_eq_decimal]
  · intro hlt
    rw [component, if_pos (not_le.mp hlt)]
    exact ⟨_, rfl, rfl⟩

theorem inRange_decides (text : String) (n : Int) : Decides (inRange text n) (IsWord n) n where
  accepts h := if_pos h
  refuses h := ⟨_, if_neg h, rfl⟩

theorem natAbs_signed (negative : Bool) (n : Nat) : (signed negative n).natAbs = n := by
  cases negative <;> simp [signed]

theorem natAbs_signedUnits (negative : Bool) (units : Nat) :
    (signedUnits negative units).natAbs = units := by
  unfold signedUnits
  split_ifs
  · exact Int.natAbs_natCast units
  · exact natAbs_signed negative units

theorem natAbs_signedNum (negative : Bool) (units num : Nat) :
    (signedNum negative units num).natAbs = num := by
  unfold signedNum
  split_ifs
  · exact natAbs_signed negative num
  · exact Int.natAbs_natCast num

-- Ten digits are enough for every word.
theorem lt_of_isWord {m : Int} {n : Nat} (hn : m.natAbs = n) (h : IsWord m) : n < 10 ^ 10 := by
  have hle := h.natAbs_le
  unfold wordMax at hle
  omega

theorem whole_decides (text : String) (negative : Bool) {digits : List Char}
    (h : Readable digits) :
    Decides ((whole negative digits).value text) (whole negative digits).Fits
      (whole negative digits).meaning := by
  refine ((component_decides text h).bind fun _ =>
    (inRange_decides text (signed negative (decimal digits))).bind fun hword =>
      .of_eq_ok ?_).congr ?_
  · exact congrArg Except.ok (Number.ofInt_of_isWord hword)
  · simp only [Fits, and_true]
    exact ⟨And.right, fun hword => ⟨lt_of_isWord (natAbs_signed ..) hword, hword⟩⟩

theorem fraction_decides (text : String) (negative : Bool) {num den : List Char}
    (hnum : Readable num) (hden : Readable den) :
    Decides ((fraction negative num den).value text) (fraction negative num den).Fits
      (fraction negative num den).meaning := by
  refine ((component_decides text hnum).bind fun _ =>
    (component_decides text hden).bind fun _ =>
    (inRange_decides text (decimal den)).bind fun hd =>
    (inRange_decides text (signed negative (decimal num))).bind fun hn =>
      .of_eq_ok ?_).congr ?_
  · simp only [meaning]
    rcases eq_or_ne (decimal den) 0 with hzero | hzero
    · rw [if_pos hzero, hzero]
      exact Number.ofRatio_zero _
    · rw [if_neg hzero]
      exact Number.ofRatio_of_isWord hn hd hzero
  · simp only [Fits, and_true]
    exact ⟨fun ⟨_, _, hd, hn⟩ => ⟨hn, hd⟩,
      fun ⟨hn, hd⟩ => ⟨lt_of_isWord (natAbs_signed ..) hn, lt_of_isWord (Int.natAbs_natCast _) hd,
        hd, hn⟩⟩

theorem signed_neg_iff (negative : Bool) (units num : Nat) :
    (signedUnits negative units < 0 ∨
      signedUnits negative units = 0 ∧ signedNum negative units num < 0) ↔
    negative = true ∧ (units ≠ 0 ∨ num ≠ 0) := by
  unfold signedUnits signedNum signed
  cases negative with
  | false =>
      simp only [Bool.false_eq_true, if_false, ite_self, false_and, iff_false]
      omega
  | true =>
      simp only [if_true, true_and]
      split_ifs <;> omega

-- Wherever the sign stands, it is the sign of the whole.
theorem ofMixed_signed (negative : Bool) {units num den : Nat}
    (hunits : IsWord (signedUnits negative units)) (hnum : IsWord (signedNum negative units num))
    (hden : IsWord den) (hd : den ≠ 0) :
    Number.ofMixed (signedUnits negative units) (signedNum negative units num) den =
      .ok (Number.ofRat (if negative then -(units + num / den : ℚ) else units + num / den)) := by
  rw [Number.ofMixed_of_isWord hunits hnum hden hd, natAbs_signedUnits, natAbs_signedNum]
  simp only [signed_neg_iff]
  by_cases hzero : units = 0 ∧ num = 0
  · obtain ⟨rfl, rfl⟩ := hzero
    simp
  · have hsize : units ≠ 0 ∨ num ≠ 0 := by omega
    simp only [hsize, and_true]

-- The sum of both parts has no larger denominator, so at most its numerator is too large.
theorem ofRat_mixed (negative : Bool) (units num : Nat) {den : Nat} (hden : IsWord den)
    (hd : den ≠ 0) (x : ℚ)
    (hx : x = if negative then -(units + num / den : ℚ) else units + num / den) :
    Number.ofRat x = if IsWord x.num then Number.reduced x else .infinite negative := by
  have hdq : (0 : ℚ) < den := by exact_mod_cast Nat.pos_of_ne_zero hd
  have hcommon : x = (signed negative (units * den + num) : Int) / den := by
    rw [hx, signed]
    split_ifs <;> push_cast <;> field_simp
  have hle : x.den ≤ wordMax := by
    rw [hcommon]
    exact (den_div_le _ hd).trans (Int.ofNat_le.mp hden.2)
  rw [Number.ofRat_of_den_le hle]
  split_ifs with hword
  · rfl
  · have hne : x ≠ 0 := by
      rintro hzero
      exact hword (by rw [hzero]; decide)
    have hsize : (0 : ℚ) ≤ units + num / den := by positivity
    congr 1
    cases negative with
    | false => exact decide_eq_false (not_lt.mpr (hsize.trans_eq hx.symm))
    | true => exact decide_eq_true (lt_of_le_of_ne (hx.trans_le (neg_nonpos.mpr hsize)) hne)

theorem mixed_decides (text : String) (negative : Bool) {units num den : List Char}
    (hunits : Readable units) (hnum : Readable num) (hden : Readable den) :
    Decides ((mixed negative units num den).value text) (mixed negative units num den).Fits
      (mixed negative units num den).meaning := by
  refine ((component_decides text hunits).bind fun _ =>
    (component_decides text hnum).bind fun _ =>
    (component_decides text hden).bind fun _ =>
    (inRange_decides text (decimal den)).bind fun hd =>
    (inRange_decides text (signedUnits negative (decimal units))).bind fun hw =>
    (inRange_decides text (signedNum negative (decimal units) (decimal num))).bind fun hn =>
      .of_eq_ok ?_).congr ?_
  · simp only [meaning]
    rcases eq_or_ne (decimal den) 0 with hzero | hzero
    · rw [if_pos hzero, hzero]
      exact Number.ofMixed_zero _ _
    · rw [if_neg hzero, ofMixed_signed negative hw hn hd hzero]
      exact congrArg Except.ok (ofRat_mixed negative _ _ hd hzero _ rfl)
  · simp only [Fits, and_true]
    exact ⟨fun ⟨_, _, _, hd, hw, hn⟩ => ⟨hw, hn, hd⟩,
      fun ⟨hw, hn, hd⟩ => ⟨lt_of_isWord (natAbs_signedUnits ..) hw,
        lt_of_isWord (natAbs_signedNum ..) hn, lt_of_isWord (Int.natAbs_natCast _) hd, hd, hw, hn⟩⟩

theorem value_decides (text : String) {l : Literal} (h : ∀ run ∈ l.runs, Readable run) :
    Decides (l.value text) l.Fits l.meaning := by
  cases l with
  | whole negative digits => exact whole_decides text negative (h digits (by simp [runs]))
  | fraction negative num den =>
      exact fraction_decides text negative (h num (by simp [runs])) (h den (by simp [runs]))
  | mixed negative units num den =>
      exact mixed_decides text negative (h units (by simp [runs])) (h num (by simp [runs]))
        (h den (by simp [runs]))

theorem WrittenIn.parse_decides {l : Literal} {text : String} (h : l.WrittenIn text)
    (hlength : ∀ run ∈ l.runs, run.length ≤ digitLimit) :
    Decides (Number.parse text) l.Fits l.meaning := by
  rw [Number.parse, (ofChars?_trimEnds_eq_some_iff l text).mpr h]
  obtain ⟨core, -, hspells⟩ := h
  exact value_decides text fun run hmem => ⟨(hspells.digits run hmem).2, hlength run hmem⟩

theorem parse_eq_error {text : String} (h : ∀ l : Literal, ¬ l.WrittenIn text) :
    Number.parse text = .error (.notALiteral text) := by
  have hnone : ofChars? (Text.trimEnds text.toList) = none :=
    Option.eq_none_iff_forall_ne_some.mpr fun l hl =>
      h l ((ofChars?_trimEnds_eq_some_iff l text).mp hl)
  rw [Number.parse, hnone]

-- No stretch of digits in the text is longer than the limit.
def DigitRunsUpTo (limit : Nat) (cs : List Char) : Prop :=
  ∀ run, run <:+: cs → IsDigits run → run.length ≤ limit

theorem infix_body_of_mem_runs {l : Literal} {run : List Char} (h : run ∈ l.runs) :
    run <:+: l.body := by
  cases l with
  | whole negative digits =>
      rw [List.mem_singleton.mp h]
      exact List.infix_refl digits
  | fraction negative num den =>
      simp only [runs, List.mem_cons, List.not_mem_nil, or_false] at h
      rcases h with rfl | rfl
      · exact (List.prefix_append ..).isInfix
      · exact ((List.suffix_cons ..).trans (List.suffix_append ..)).isInfix
  | mixed negative units num den =>
      simp only [runs, List.mem_cons, List.not_mem_nil, or_false] at h
      rcases h with rfl | rfl | rfl
      · exact (List.prefix_append ..).isInfix
      · exact (List.prefix_append ..).isInfix.trans
          ((List.suffix_cons ..).trans (List.suffix_append ..)).isInfix
      · exact ((List.suffix_cons ..).trans ((List.suffix_append ..).trans
          ((List.suffix_cons ..).trans (List.suffix_append ..)))).isInfix

theorem WrittenIn.length_le {l : Literal} {text : String} {limit : Nat} (h : l.WrittenIn text)
    (hruns : DigitRunsUpTo limit text.toList) : ∀ run ∈ l.runs, run.length ≤ limit := by
  obtain ⟨core, ⟨left, right, -, -, htext⟩, hdigits, mark, -, rfl⟩ := h
  intro run hmem
  refine hruns run ?_ (hdigits run hmem).2
  rw [htext]
  exact (infix_body_of_mem_runs hmem).trans
    ((List.suffix_append ..).isInfix.trans (List.infix_append ..))

end Literal

-- A text gives a number exactly when it spells a literal whose parts fit, and then the number is
-- the one the literal stands for. Every other text is a malformed literal.
theorem parse_of_written (text : String) (hruns : Literal.DigitRunsUpTo digitLimit text.toList) :
    (∀ l : Literal, l.WrittenIn text → l.Fits → Number.parse text = .ok l.meaning) ∧
    ((∀ l : Literal, l.WrittenIn text → ¬ l.Fits) →
      ∃ e, Number.parse text = .error e ∧ e.reportName? = some "MalformedLiteralError") := by
  constructor
  · intro l hl
    exact (hl.parse_decides (hl.length_le hruns)).accepts
  · intro hnot
    by_cases hwritten : ∃ l : Literal, l.WrittenIn text
    · obtain ⟨l, hl⟩ := hwritten
      exact (hl.parse_decides (hl.length_le hruns)).refuses (hnot l hl)
    · exact ⟨_, Literal.parse_eq_error fun l hl => hwritten ⟨l, hl⟩, rfl⟩

-- Two to the 31st is a numerator below zero only, also when the sign stands before a whole part of
-- zero.
theorem parse_of_written_extremes :
    Number.parse " -0_2147483648/3\n" = .ok (.finite (-2147483648) 3) ∧
    ∃ e, Number.parse "+0_2147483648/3" = .error e ∧
      e.reportName? = some "MalformedLiteralError" := by
  have hfirst : Literal.DigitRunsUpTo digitLimit " -0_2147483648/3\n".toList := fun run h _ =>
    h.length_le.trans (by decide)
  have hsecond : Literal.DigitRunsUpTo digitLimit "+0_2147483648/3".toList := fun run h _ =>
    h.length_le.trans (by decide)
  constructor
  · have hwritten : (Literal.mixed true "0".toList "2147483648".toList "3".toList).WrittenIn
        " -0_2147483648/3\n" :=
      (Literal.ofChars?_trimEnds_eq_some_iff _ _).mp (by decide +kernel)
    rw [(parse_of_written _ hfirst).1 _ hwritten (by decide +kernel)]
    decide +kernel
  · refine (parse_of_written _ hsecond).2 fun l hl => ?_
    have hread : Literal.ofChars? (Text.trimEnds "+0_2147483648/3".toList) =
        some (.mixed false "0".toList "2147483648".toList "3".toList) := by decide +kernel
    rw [(Literal.ofChars?_trimEnds_eq_some_iff l _).mpr hl, Option.some.injEq] at hread
    rw [hread]
    decide +kernel

end FractionCalculator
