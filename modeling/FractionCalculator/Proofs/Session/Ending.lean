import FractionCalculator.Proofs.Expression.Solution
import FractionCalculator.Session.Basic

namespace FractionCalculator

-- The first word of a line that is no token is a literal with an overlong run.
def UnreadableLine (line : String) (count : Nat) : Prop :=
  ∃ word, FirstRefused (Text.words line) word ∧
    ∃ l : Literal, l.WrittenIn word ∧ l.Unreadable count

theorem not_spellsToken_of_unreadable {l : Literal} {word : String} {count : Nat}
    (hwritten : l.WrittenIn word) (h : l.Unreadable count) : ¬ SpellsToken word := by
  have hparse := hwritten.parse_unreadable h
  rintro (hmem | ⟨x, hx⟩)
  · rw [parse_of_mem_operatorSpellings hmem] at hparse
    cases hparse
  · rw [hx] at hparse
    cases hparse

theorem writtenIn_ofList {digits : List Char} (h : IsDigits digits) (hne : digits ≠ []) :
    (Literal.whole false digits).WrittenIn (String.ofList digits) := by
  refine Literal.Spells.writtenIn_ofList ⟨fun run hrun => ?_, [], .absent, rfl⟩
  rw [List.mem_singleton.mp hrun]
  exact ⟨hne, h⟩

-- An overlong run is a line by itself.
theorem unreadableLine_ofList {digits : List Char} (h : IsDigits digits)
    (hlong : Literal.Overlong digits) : UnreadableLine (String.ofList digits) digits.length := by
  have hne : digits ≠ [] := List.ne_nil_of_length_pos (Nat.zero_lt_of_lt hlong.limit_lt)
  have hwritten := writtenIn_ofList h hne
  have hliteral : (Literal.whole false digits).Unreadable digits.length :=
    ⟨[], digits, [], rfl, by simp, hlong, rfl⟩
  have hnoBlank : Text.NoBlank (String.ofList digits).toList := by
    rw [String.toList_ofList]
    exact fun c hc => Literal.isBlank_of_isDigit (h c hc)
  have hwords : Text.words (String.ofList digits) = [String.ofList digits] :=
    Text.words_of_noBlank hnoBlank (by rwa [String.toList_ofList])
  exact ⟨_, ⟨[], [], hwords, by simp, not_spellsToken_of_unreadable hwritten hliteral⟩, _,
    hwritten, hliteral⟩

theorem solve_eq_unreadable (mode : RenderMode) {line : String} {count : Nat}
    (h : UnreadableLine line count) : solve mode line = .error (.digitsUnreadable count) := by
  obtain ⟨word, hfirst, l, hwritten, hl⟩ := h
  exact solve_of_firstRefused mode hfirst (hwritten.parse_unreadable hl)

theorem solve_reported_or_unreadable {mode : RenderMode} {line : String} {e : CalcError}
    (h : solve mode line = .error e) :
    (∃ name, e.reportName? = some name) ∨ ∃ count, e = .digitsUnreadable count ∧
      UnreadableLine line count := by
  rcases solve_error_cases h with ⟨word, hfirst, hparse⟩ | hmalformed
  · rcases Literal.parse_error_cases hparse with hmalformed | ⟨count, he, hliteral⟩
    · exact .inl ⟨_, hmalformed⟩
    · exact .inr ⟨count, he, word, hfirst, hliteral⟩
  · exact .inl ⟨_, hmalformed⟩

theorem Answer.ofSolution_eq_error_iff (solution : Except CalcError String) (e : CalcError) :
    ofSolution solution = .error e ↔ solution = .error e ∧ e.reportName? = none := by
  cases solution with
  | ok text => simp [ofSolution]
  | error e' =>
      constructor
      · intro h
        rw [ofSolution] at h
        split at h <;> cases h
        exact ⟨rfl, ‹_›⟩
      · rintro ⟨h, hnone⟩
        cases h
        rw [ofSolution, hnone]

theorem answerLine_eq_error_iff (mode : RenderMode) (line : String) (e : CalcError) :
    answerLine mode line = .error e ↔ ∃ count, e = .digitsUnreadable count ∧
      UnreadableLine line count := by
  rw [answerLine, Answer.ofSolution_eq_error_iff]
  constructor
  · rintro ⟨hsolve, hnone⟩
    rcases solve_reported_or_unreadable hsolve with ⟨name, hname⟩ | h
    · rw [hname] at hnone
      cases hnone
    · exact h
  · rintro ⟨count, rfl, h⟩
    exact ⟨solve_eq_unreadable mode h, rfl⟩

theorem unreadableLine_trim_iff (line : String) (count : Nat) :
    UnreadableLine (Text.trim line) count ↔ UnreadableLine line count := by
  rw [UnreadableLine, Text.words_trim, UnreadableLine]

theorem UnreadableLine.not_allBlank {line : String} {count : Nat} (h : UnreadableLine line count) :
    ¬ Text.AllBlank line.toList := by
  intro hblank
  obtain ⟨word, hfirst, -⟩ := h
  have hwords : Text.words line = [] := (Text.words_eq_nil_iff line).mpr hblank
  have hmem := hfirst.mem
  rw [hwords] at hmem
  cases hmem

namespace Event

def Ends : Event → Prop
  | line text => Text.AllBlank text.toList
  | interrupt => False
  | endOfInput => True

def Unreadable : Event → Nat → Prop
  | line text, count => UnreadableLine text count
  | _, _ => False

end Event

namespace Session

variable (s : Session)

theorem answer_eq_error_iff (line : String) (e : CalcError) :
    s.answer line = .error e ↔ answerLine s.mode line = .error e := by
  constructor
  · intro h
    rcases bind_eq_error.mp h with h | ⟨_, -, h⟩
    · exact h
    · cases h
  · exact fun h => bind_eq_error.mpr (.inl h)

theorem respond_line_of_not_allBlank {text : String} (h : ¬ Text.AllBlank text.toList) :
    s.respond (.line text) = (s.answer (Text.trim text)).map fun answered => some answered.2 := by
  rw [respond, if_neg (mt (Text.trim_eq_empty_iff text).mp h)]

theorem respond_of_ends {event : Event} (h : event.Ends) : s.respond event = .ok none := by
  cases event with
  | line text => rw [respond, if_pos ((Text.trim_eq_empty_iff text).mpr h)]
  | interrupt => exact h.elim
  | endOfInput => rfl

theorem respond_of_unreadable {event : Event} {count : Nat} (h : event.Unreadable count) :
    s.respond event = .error (.digitsUnreadable count) := by
  cases event with
  | line text =>
      have hanswer : s.answer (Text.trim text) = .error (.digitsUnreadable count) :=
        (s.answer_eq_error_iff _ _).mpr ((answerLine_eq_error_iff ..).mpr
          ⟨count, rfl, (unreadableLine_trim_iff text count).mpr h⟩)
      rw [s.respond_line_of_not_allBlank h.not_allBlank, hanswer]
      rfl
  | interrupt => exact h.elim
  | endOfInput => exact h.elim

theorem respond_of_goes_on {event : Event} (hends : ¬ event.Ends)
    (hread : ∀ count, ¬ event.Unreadable count) :
    ∃ output, s.respond event = .ok (some output) := by
  cases event with
  | line text =>
      rw [s.respond_line_of_not_allBlank hends]
      cases hanswer : s.answer (Text.trim text) with
      | ok answered => exact ⟨answered.2, rfl⟩
      | error e =>
          have hline := (s.answer_eq_error_iff _ e).mp hanswer
          obtain ⟨count, -, h⟩ := (answerLine_eq_error_iff ..).mp hline
          exact absurd ((unreadableLine_trim_iff text count).mp h) (hread count)
  | interrupt => exact ⟨_, rfl⟩
  | endOfInput => exact absurd trivial hends

-- Events that each get an output leave the rest of the run to what follows.
theorem run_append {before : List Event}
    (h : ∀ event ∈ before, ∃ output, s.respond event = .ok (some output)) :
    ∃ outputs, outputs.length = before.length ∧ ∀ after, s.run (before ++ after) =
      (s.run after).map fun result => (outputs ++ result.1, result.2) := by
  induction before with
  | nil =>
      refine ⟨[], rfl, fun after => ?_⟩
      rw [List.nil_append]
      cases s.run after <;> rfl
  | cons event before ih =>
      obtain ⟨⟨output, houtput⟩, hbefore⟩ := List.forall_mem_cons.mp h
      obtain ⟨outputs, hlength, hrun⟩ := ih hbefore
      refine ⟨output :: outputs, congrArg (· + 1) hlength, fun after => ?_⟩
      rw [List.cons_append, run, houtput]
      change (s.run (before ++ after) >>= _) = _
      rw [hrun after]
      cases s.run after <;> rfl

theorem run_cons_of_ends {event : Event} (h : event.Ends) (after : List Event) :
    s.run (event :: after) = .ok ([.empty], after) := by
  rw [run, s.respond_of_ends h]
  rfl

theorem run_cons_of_unreadable {event : Event} {count : Nat} (h : event.Unreadable count)
    (after : List Event) : s.run (event :: after) = .error (.digitsUnreadable count) := by
  rw [run, s.respond_of_unreadable h]
  rfl

end Session

def paddedOne : String :=
  String.ofList (List.replicate digitLimit '0' ++ ['1'])

theorem unreadableLine_paddedOne : UnreadableLine paddedOne 4301 := by
  have hdigits : IsDigits (List.replicate digitLimit '0' ++ ['1']) := by
    intro c hc
    rcases List.mem_append.mp hc with hc | hc
    · rw [List.eq_of_mem_replicate hc]
      decide
    · rw [List.mem_singleton.mp hc]
      decide
  have hlength : (List.replicate digitLimit '0' ++ ['1']).length = 4301 := by
    rw [List.length_append, List.length_replicate]
    rfl
  have hkept : (List.replicate digitLimit '0' ++ ['1']).dropWhile (· = '0') = ['1'] := by
    rw [List.dropWhile_append_of_pos fun c hc => by simpa using List.eq_of_mem_replicate hc]
    rfl
  have hsmall : decimal (List.replicate digitLimit '0' ++ ['1']) < 10 ^ 10 := by
    rw [decimal_lt_pow_iff hdigits, hkept]
    decide
  have hlong : Literal.Overlong (List.replicate digitLimit '0' ++ ['1']) :=
    ⟨hsmall, by rw [hlength]; decide⟩
  rw [← hlength]
  exact unreadableLine_ofList hdigits hlong

-- A line is answered unless it is unreadable, and such a line ends the session just as a blank line
-- and the end of input do, though with an error. Nothing else ends it.
theorem run_ends (s : Session) :
    (∀ mode line e, answerLine mode line = .error e ↔ ∃ count, e = .digitsUnreadable count ∧
      UnreadableLine line count) ∧
    ∀ before : List Event, (∀ event ∈ before, ¬ event.Ends ∧ ∀ count, ¬ event.Unreadable count) →
      (∃ outputs, outputs.length = before.length + 1 ∧ s.run before = .ok (outputs, [])) ∧
      ∀ event after,
        (event.Ends → ∃ outputs, outputs.length = before.length + 1 ∧
          s.run (before ++ event :: after) = .ok (outputs, after)) ∧
        ∀ count, event.Unreadable count →
          s.run (before ++ event :: after) = .error (.digitsUnreadable count) := by
  refine ⟨answerLine_eq_error_iff, fun before h => ?_⟩
  obtain ⟨outputs, hlength, hrun⟩ :=
    s.run_append fun event hevent => s.respond_of_goes_on (h event hevent).1 (h event hevent).2
  have hlast : (outputs ++ [Output.empty]).length = before.length + 1 := by
    rw [List.length_append, hlength, List.length_singleton]
  refine ⟨⟨_, hlast, ?_⟩, fun event after => ⟨fun hends => ⟨_, hlast, ?_⟩, fun count hcount => ?_⟩⟩
  · have hall := hrun []
    rwa [List.append_nil] at hall
  · rw [hrun, s.run_cons_of_ends hends]
    rfl
  · rw [hrun, s.run_cons_of_unreadable hcount]
    rfl

-- A malformed line and an interrupt leave the session open.
theorem run_ends_afterwards :
    let s : Session := ⟨.mixed, "> ", none⟩
    let before : List Event := [.line "1 +", .interrupt]
    (∃ outputs, outputs.length = 3 ∧
      s.run (before ++ .line " \t" :: [.line "2"]) = .ok (outputs, [.line "2"])) ∧
    s.run (before ++ .line paddedOne :: [.line "2"]) = .error (.digitsUnreadable 4301) := by
  intro s before
  have hwords : Text.words "1 +" = ["1", "+"] := by decide +kernel
  have hone : SpellsNumber "1" := ⟨.finite 1 1, by decide +kernel⟩
  have htokens : ∀ word ∈ Text.words "1 +", SpellsToken word := by
    simp [hwords, SpellsToken, operatorSpellings, hone]
  have hreadable : ∀ count, ¬ (Event.line "1 +").Unreadable count := by
    rintro count ⟨word, hfirst, -⟩
    exact hfirst.not_spellsToken (htokens word hfirst.mem)
  have hopen : ¬ (Event.line "1 +").Ends := fun h => absurd (h '1' (by decide)) (by decide)
  have hbefore : ∀ event ∈ before, ¬ event.Ends ∧ ∀ count, ¬ event.Unreadable count :=
    List.forall_mem_cons.mpr ⟨⟨hopen, hreadable⟩, List.forall_mem_singleton.mpr ⟨id, fun _ => id⟩⟩
  have hblank : (Event.line " \t").Ends :=
    (Text.trim_eq_empty_iff " \t").mp (by decide +kernel)
  have hends := (run_ends s).2 before hbefore
  exact ⟨(hends.2 (.line " \t") _).1 hblank,
    (hends.2 (.line paddedOne) _).2 4301 unreadableLine_paddedOne⟩

-- A one behind 4300 zeros is no blank line and no end of input, and no error of the calculator's
-- own, yet nothing is answered from there on.
theorem run_paddedOne_fails :
    ¬ Text.AllBlank paddedOne.toList ∧
    answerLine .ratio paddedOne = .error (.digitsUnreadable 4301) ∧
    (CalcError.digitsUnreadable 4301).reportName? = none ∧
    Session.run ⟨.ratio, "> ", none⟩ [.line paddedOne, .line "2"] =
      .error (.digitsUnreadable 4301) := by
  have hevent : (Event.line paddedOne).Unreadable 4301 := unreadableLine_paddedOne
  exact ⟨unreadableLine_paddedOne.not_allBlank,
    (answerLine_eq_error_iff ..).mpr ⟨4301, rfl, unreadableLine_paddedOne⟩, rfl,
    Session.run_cons_of_unreadable _ hevent _⟩

end FractionCalculator
