import FractionCalculator.Proofs.Literal.Reading
import FractionCalculator.Proofs.Outcome

namespace FractionCalculator

namespace Literal

-- A run whose zeros alone make it too long. It would stand for ten digits at most.
structure Overlong (run : List Char) : Prop where
  lt_pow : decimal run < 10 ^ 10
  limit_lt : digitLimit < run.length

-- The runs are read from the left, and the first one that cannot be taken is overlong.
def Unreadable (l : Literal) (count : Nat) : Prop :=
  ∃ before run after, l.runs = before ++ run :: after ∧
    (∀ earlier ∈ before, decimal earlier < 10 ^ 10 ∧ earlier.length ≤ digitLimit) ∧
    Overlong run ∧ count = run.length

theorem component_eq_ok_iff (text : String) {digits : List Char} (h : IsDigits digits) :
    (∃ n, component text digits = .ok n) ↔
      decimal digits < 10 ^ 10 ∧ digits.length ≤ digitLimit := by
  rw [decimal_lt_pow_iff h, component]
  split_ifs with hsize hlimit
  · simp [not_le.mpr hsize]
  · simp [not_le.mpr hlimit]
  · simp [not_lt.mp hsize, not_lt.mp hlimit]

theorem component_eq_unreadable_iff (text : String) {digits : List Char} (h : IsDigits digits)
    (count : Nat) :
    component text digits = .error (.digitsUnreadable count) ↔
      Overlong digits ∧ count = digits.length := by
  have hsmall := decimal_lt_pow_iff h 10
  rw [component]
  split_ifs with hsize hlimit
  · constructor
    · intro heq
      cases heq
    · intro hlong
      exact absurd hsize (not_lt.mpr (hsmall.mp hlong.1.lt_pow))
  · constructor
    · intro heq
      cases heq
      exact ⟨⟨hsmall.mpr (not_lt.mp hsize), hlimit⟩, rfl⟩
    · intro hlong
      rw [hlong.2]
  · constructor
    · intro heq
      cases heq
    · intro hlong
      exact absurd hlong.1.limit_lt hlimit

theorem component_error_cases {text : String} {digits : List Char} {e : CalcError}
    (h : component text digits = .error e) :
    e.IsMalformedLiteral ∨ ∃ count, e = .digitsUnreadable count := by
  rw [component] at h
  split_ifs at h <;> cases h
  · exact .inl rfl
  · exact .inr ⟨_, rfl⟩

-- All runs are read before anything else is looked at, so the first that fails decides.
theorem value_eq_error_of_run {text : String} {l : Literal} {before after : List (List Char)}
    {run : List Char} {e : CalcError} (heq : l.runs = before ++ run :: after)
    (hbefore : ∀ earlier ∈ before, ∃ n, component text earlier = .ok n)
    (hrun : component text run = .error e) : l.value text = .error e := by
  cases l with
  | whole negative digits =>
      rcases before with _ | ⟨_, before⟩
      · cases heq
        exact bind_eq_error.mpr (.inl hrun)
      · simp [runs] at heq
  | fraction negative num den =>
      rcases before with _ | ⟨_, _ | ⟨_, before⟩⟩
      · cases heq
        exact bind_eq_error.mpr (.inl hrun)
      · cases heq
        obtain ⟨n, hn⟩ := hbefore num List.mem_cons_self
        exact bind_eq_error.mpr (.inr ⟨n, hn, bind_eq_error.mpr (.inl hrun)⟩)
      · simp [runs] at heq
  | mixed negative units num den =>
      rcases before with _ | ⟨_, _ | ⟨_, _ | ⟨_, before⟩⟩⟩
      · cases heq
        exact bind_eq_error.mpr (.inl hrun)
      · cases heq
        obtain ⟨w, hw⟩ := hbefore units List.mem_cons_self
        exact bind_eq_error.mpr (.inr ⟨w, hw, bind_eq_error.mpr (.inl hrun)⟩)
      · cases heq
        obtain ⟨w, hw⟩ := hbefore units List.mem_cons_self
        obtain ⟨n, hn⟩ := hbefore num (List.mem_cons_of_mem _ List.mem_cons_self)
        exact bind_eq_error.mpr (.inr ⟨w, hw, bind_eq_error.mpr (.inr ⟨n, hn,
          bind_eq_error.mpr (.inl hrun)⟩)⟩)
      · simp [runs] at heq

theorem value_error_of_component_ok {text : String} {l : Literal} {e : CalcError}
    (hdigits : ∀ run ∈ l.runs, IsDigits run)
    (hread : ∀ run ∈ l.runs, ∃ n, component text run = .ok n) (h : l.value text = .error e) :
    e.IsMalformedLiteral := by
  have hreadable : ∀ run ∈ l.runs, Readable run := fun run hrun =>
    ⟨hdigits run hrun, ((component_eq_ok_iff text (hdigits run hrun)).mp (hread run hrun)).2⟩
  have hdecides := value_decides text hreadable
  by_cases hfits : l.Fits
  · rw [hdecides.accepts hfits] at h
    cases h
  · obtain ⟨e', he', hmalformed⟩ := hdecides.refuses hfits
    rw [he'] at h
    cases h
    exact hmalformed

-- A literal is refused for its first run that cannot be read, or else for a part that does not
-- fit.
theorem value_error_cases {text : String} {l : Literal} {e : CalcError}
    (hdigits : ∀ run ∈ l.runs, IsDigits run) (h : l.value text = .error e) :
    e.IsMalformedLiteral ∨ ∃ count, e = .digitsUnreadable count ∧ l.Unreadable count := by
  cases hmap : l.runs.mapM (component text) with
  | ok parts =>
      refine .inl (value_error_of_component_ok hdigits (fun run hrun => ?_) h)
      obtain ⟨n, -, hn⟩ := exists_of_forall₂ (mapM_eq_ok_iff.mp hmap) run hrun
      exact ⟨n, hn⟩
  | error e' =>
      obtain ⟨before, run, after, heq, hbefore, hrun⟩ := mapM_eq_error_iff.mp hmap
      rw [value_eq_error_of_run heq hbefore hrun] at h
      cases h
      rcases component_error_cases hrun with hmalformed | ⟨count, rfl⟩
      · exact .inl hmalformed
      · have hmem : ∀ earlier ∈ before, earlier ∈ l.runs := fun earlier hearlier => by
          rw [heq]
          exact List.mem_append_left _ hearlier
        have hrunDigits : IsDigits run := hdigits run (by simp [heq])
        obtain ⟨hlong, hcount⟩ := (component_eq_unreadable_iff text hrunDigits count).mp hrun
        refine .inr ⟨count, rfl, before, run, after, heq, fun earlier hearlier => ?_, hlong, hcount⟩
        exact (component_eq_ok_iff text (hdigits earlier (hmem earlier hearlier))).mp
          (hbefore earlier hearlier)

theorem value_eq_unreadable {text : String} {l : Literal} {count : Nat}
    (hdigits : ∀ run ∈ l.runs, IsDigits run) (h : l.Unreadable count) :
    l.value text = .error (.digitsUnreadable count) := by
  obtain ⟨before, run, after, heq, hbefore, hlong, hcount⟩ := h
  rw [heq] at hdigits
  have hrun : IsDigits run := hdigits run (by simp)
  refine value_eq_error_of_run heq (fun earlier hearlier => ?_)
    ((component_eq_unreadable_iff text hrun count).mpr ⟨hlong, hcount⟩)
  exact (component_eq_ok_iff text (hdigits earlier (List.mem_append_left _ hearlier))).mpr
    (hbefore earlier hearlier)

theorem WrittenIn.isDigits {l : Literal} {text : String} (h : l.WrittenIn text) :
    ∀ run ∈ l.runs, IsDigits run := by
  obtain ⟨core, -, hspells⟩ := h
  exact fun run hrun => (hspells.digits run hrun).2

theorem WrittenIn.parse_eq {l : Literal} {text : String} (h : l.WrittenIn text) :
    Number.parse text = l.value text := by
  rw [Number.parse, (ofChars?_trimEnds_eq_some_iff l text).mpr h]

-- A refused text is a malformed literal, or it has a run that is overlong.
theorem parse_error_cases {text : String} {e : CalcError} (h : Number.parse text = .error e) :
    e.IsMalformedLiteral ∨ ∃ count, e = .digitsUnreadable count ∧
      ∃ l : Literal, l.WrittenIn text ∧ l.Unreadable count := by
  by_cases hwritten : ∃ l : Literal, l.WrittenIn text
  · obtain ⟨l, hl⟩ := hwritten
    rw [hl.parse_eq] at h
    rcases value_error_cases hl.isDigits h with hmalformed | ⟨count, he, hcount⟩
    · exact .inl hmalformed
    · exact .inr ⟨count, he, l, hl, hcount⟩
  · rw [parse_eq_error fun l hl => hwritten ⟨l, hl⟩] at h
    cases h
    exact .inl rfl

theorem WrittenIn.parse_unreadable {l : Literal} {text : String} {count : Nat}
    (hl : l.WrittenIn text) (h : l.Unreadable count) :
    Number.parse text = .error (.digitsUnreadable count) := by
  rw [hl.parse_eq]
  exact value_eq_unreadable hl.isDigits h

theorem Unreadable.limit_lt {l : Literal} {count : Nat} (h : l.Unreadable count) :
    ∃ run ∈ l.runs, digitLimit < run.length := by
  obtain ⟨before, run, after, heq, -, hlong, -⟩ := h
  exact ⟨run, by simp [heq], hlong.limit_lt⟩

-- Without overlong runs every refusal is for a malformed literal.
theorem isMalformedLiteral_of_parse_error {text : String} {e : CalcError}
    (hruns : DigitRunsUpTo digitLimit text.toList) (h : Number.parse text = .error e) :
    e.IsMalformedLiteral := by
  rcases parse_error_cases h with hmalformed | ⟨count, -, l, hl, hcount⟩
  · exact hmalformed
  · obtain ⟨run, hmem, hlong⟩ := hcount.limit_lt
    exact absurd (hl.length_le hruns run hmem) (not_le.mpr hlong)

end Literal

end FractionCalculator
