import FractionCalculator.Proofs.Literal.RoundTrip
import FractionCalculator.Proofs.Session.Ending
import FractionCalculator.Proofs.Text.Printable

namespace FractionCalculator

open Text (Printable printable_of_plain printable_ofList printable_quote)

theorem printable_toString_nat (n : Nat) : Printable (toString n) := by
  intro c hc
  rw [toList_toString_nat] at hc
  exact (Text.isPlain_of_isDigit (isDigits_toDigits n c hc)).isPrintable

theorem Literal.SignMark.allPlain {negative : Bool} {mark : List Char}
    (h : SignMark negative mark) : Text.AllPlain mark := by
  cases h <;> decide

theorem printable_toString_int (n : Int) : Printable (toString n) := by
  obtain ⟨mark, hmark, htext⟩ := toList_toString_int n
  intro c hc
  rw [htext] at hc
  rcases List.mem_append.mp hc with hc | hc
  · exact (hmark.allPlain c hc).isPrintable
  · exact (Text.isPlain_of_isDigit (isDigits_toDigits _ c hc)).isPrintable

theorem printable_render (mode : RenderMode) (x : Number) : Printable (x.render mode) := by
  have hslash : Printable "/" := printable_of_plain (by decide)
  have hunderscore : Printable "_" := printable_of_plain (by decide)
  cases x with
  | nan =>
      have hnan : Printable "NaN" := printable_of_plain (by decide)
      exact hnan
  | infinite negative =>
      have hinfinity : Printable (Number.infinityText negative) := by
        cases negative <;> exact printable_of_plain (by decide)
      exact hinfinity
  | finite num den =>
      have hnum := printable_toString_int num
      have hden := printable_toString_nat den
      simp only [Number.render]
      split_ifs
      · exact hnum
      · have hwhole := printable_toString_int (num.tdiv den)
        have hpart := printable_toString_nat (num.natAbs % den)
        exact (((hwhole.append hunderscore).append hpart).append hslash).append hden
      · exact (hnum.append hslash).append hden

theorem Token.printable_describe (token : Token) : Printable token.describe := by
  cases token with
  | value x text =>
      have hopening : Printable "VALUE[" := printable_of_plain (by decide)
      have hclosing : Printable "]" := printable_of_plain (by decide)
      exact (hopening.append (printable_render .ratio x)).append hclosing
  | operator op => cases op <;> exact printable_of_plain (by decide +kernel)

namespace Literal

variable {α β : Type} {runs : List (List Char)} {r : Except CalcError α}

-- A component that is refused for its length is one of the runs.
def RefusesAmong (runs : List (List Char)) (r : Except CalcError α) : Prop :=
  ∀ digits text, r = .error (.componentTooLong digits text) → digits.toList ∈ runs

theorem RefusesAmong.bind {f : α → Except CalcError β} (h : RefusesAmong runs r)
    (hf : ∀ a, RefusesAmong runs (f a)) : RefusesAmong runs (r >>= f) := by
  intro digits text heq
  rcases bind_eq_error.mp heq with heq | ⟨a, -, heq⟩
  · exact h digits text heq
  · exact hf a digits text heq

theorem component_refusesAmong (text : String) {run : List Char} (h : run ∈ runs) :
    RefusesAmong runs (component text run) := by
  intro digits shown heq
  rw [component] at heq
  split_ifs at heq <;> cases heq
  rwa [String.toList_ofList]

theorem inRange_refusesAmong (text : String) (n : Int) : RefusesAmong runs (inRange text n) := by
  intro digits shown heq
  rw [inRange] at heq
  split_ifs at heq
  cases heq

theorem toNumber_refusesAmong (e : Exact) : RefusesAmong runs e.toNumber := by
  intro digits shown heq
  rw [Exact.toNumber] at heq
  split at heq
  · split_ifs at heq
    cases heq
  · cases heq

theorem value_refusesAmong (text : String) (l : Literal) : RefusesAmong l.runs (l.value text) := by
  cases l with
  | whole negative digits =>
      exact (component_refusesAmong text (by simp [Literal.runs])).bind fun _ =>
        (inRange_refusesAmong text _).bind fun _ => nofun
  | fraction negative num den =>
      exact (component_refusesAmong text (by simp [Literal.runs])).bind fun _ =>
        (component_refusesAmong text (by simp [Literal.runs])).bind fun _ =>
        (inRange_refusesAmong text _).bind fun _ => (inRange_refusesAmong text _).bind fun _ =>
          toNumber_refusesAmong _
  | mixed negative units num den =>
      exact (component_refusesAmong text (by simp [Literal.runs])).bind fun _ =>
        (component_refusesAmong text (by simp [Literal.runs])).bind fun _ =>
        (component_refusesAmong text (by simp [Literal.runs])).bind fun _ =>
        (inRange_refusesAmong text _).bind fun _ => (inRange_refusesAmong text _).bind fun _ =>
        (inRange_refusesAmong text _).bind fun _ => toNumber_refusesAmong _

end Literal

-- The start of an overlong component is shown as it is, but it holds nothing but digits.
theorem isDigits_of_componentTooLong {text digits shown : String}
    (h : Number.parse text = .error (.componentTooLong digits shown)) : IsDigits digits.toList := by
  by_cases hwritten : ∃ l : Literal, l.WrittenIn text
  · obtain ⟨l, hl⟩ := hwritten
    rw [hl.parse_eq] at h
    exact hl.isDigits _ (l.value_refusesAmong text _ _ h)
  · rw [Literal.parse_eq_error fun l hl => hwritten ⟨l, hl⟩] at h
    cases h

namespace CalcError

theorem printable_notAnExpression {reason : String} (h : Printable reason) :
    Printable (notAnExpression reason) := by
  have hline : Printable "Line does not parse as a valid expression: " :=
    printable_of_plain (by decide +kernel)
  exact hline.append h

-- Every part of a message that comes from outside is quoted, except for digits.
theorem printable_message {e : CalcError} {name : String} (h : e.reportName? = some name)
    (hdigits : ∀ digits text, e = .componentTooLong digits text → IsDigits digits.toList) :
    Printable e.message := by
  have hcomponent : Printable "Component " := printable_of_plain (by decide)
  have hfit : Printable " does not fit in a 32-bit integer" :=
    printable_of_plain (by decide +kernel)
  cases e with
  | noInput step => cases step <;> exact printable_of_plain (by decide +kernel)
  | notALiteral text =>
      have hparsable : Printable "String not parsable as a fraction: " :=
        printable_of_plain (by decide +kernel)
      exact hparsable.append (printable_quote text)
  | componentTooLong digits text =>
      have hof : Printable "... of " := printable_of_plain (by decide)
      have hstart : Printable (String.ofList (digits.toList.take 12)) := by
        rw [printable_ofList]
        intro c hc
        exact (Text.isPlain_of_isDigit (hdigits _ _ rfl c (List.mem_of_mem_take hc))).isPrintable
      exact (((hcomponent.append hstart).append hof).append (printable_quote _)).append hfit
  | componentOutOfRange value text =>
      have hof : Printable " of " := printable_of_plain (by decide)
      have hvalue := printable_toString_int value
      exact (((hcomponent.append hvalue).append hof).append (printable_quote text)).append hfit
  | misplacedToken token previous =>
      have hunexpected : Printable "unexpected " := printable_of_plain (by decide)
      have htoken := hunexpected.append token.printable_describe
      cases previous with
      | none =>
          have hstart : Printable " at start" := printable_of_plain (by decide)
          exact printable_notAnExpression (htoken.append hstart)
      | some previous =>
          have hafter : Printable " after " := printable_of_plain (by decide)
          exact printable_notAnExpression
            ((htoken.append hafter).append previous.printable_describe)
  | unbalanced values operators =>
      have hfor : Printable " values for " := printable_of_plain (by decide)
      have hoperators : Printable " operators" := printable_of_plain (by decide)
      have hvalues := (printable_toString_nat values).append hfor
      exact printable_notAnExpression
        ((hvalues.append (printable_toString_nat operators)).append hoperators)
  | nanCompared => exact printable_of_plain (by decide +kernel)
  | infinitiesCompared => exact printable_of_plain (by decide +kernel)
  | nanToInteger => exact printable_of_plain (by decide +kernel)
  | infinityToInteger => exact printable_of_plain (by decide +kernel)
  | noMixedForm => exact printable_of_plain (by decide +kernel)
  | _ => cases h

end CalcError

theorem isDigits_of_solve_error {mode : RenderMode} {line digits shown : String}
    (h : solve mode line = .error (.componentTooLong digits shown)) : IsDigits digits.toList := by
  rcases solve_error_cases h with ⟨word, -, hparse⟩ | hmalformed
  · exact isDigits_of_componentTooLong hparse
  · exact absurd (Option.some.inj hmalformed) (by decide)

theorem printable_answer {mode : RenderMode} {line : String} {answer : Answer}
    (h : answerLine mode line = .ok answer) : Printable answer.text := by
  rw [answerLine] at h
  cases hsolve : solve mode line with
  | ok text =>
      rw [hsolve] at h
      cases h
      obtain ⟨tokens, -, h⟩ := bind_eq_ok.mp hsolve
      obtain ⟨x, -, h⟩ := bind_eq_ok.mp h
      cases h
      exact printable_render mode x
  | error e =>
      rw [hsolve, Answer.ofSolution] at h
      split at h
      · rename_i name hname
        cases h
        have hmark : Printable "! Error evaluating expression: " :=
          printable_of_plain (by decide +kernel)
        refine hmark.append (CalcError.printable_message hname ?_)
        rintro digits text rfl
        exact isDigits_of_solve_error hsolve
      · cases h

-- Whatever stands in a line, its answer is one line that can be shown: it holds no control
-- character and of the blanks no other than the space. A text holds Unicode scalar values only, so
-- nothing is said of lone surrogates.
theorem answer_printable (mode : RenderMode) (line : String) (answer : Answer)
    (h : answerLine mode line = .ok answer) :
    ∀ c ∈ answer.text.toList, Text.isPrintable c = true ∧ ¬ Text.IsControl c ∧
      (Text.isBlank c = true → c = ' ') := by
  intro c hc
  have hprintable := printable_answer h c hc
  exact ⟨hprintable, Text.not_isControl hprintable, Text.eq_space_of_isBlank hprintable⟩

-- An escape sequence and a mark that turns the writing round are spelled out.
theorem answer_printable_escapes :
    ∃ answer, answerLine .ratio "1 + \x1b[31m\u202e" = .ok answer ∧
      answer.text = "! Error evaluating expression: String not parsable as a fraction: " ++
        "'\\x1b[31m\\u202e'" ∧
      ∀ c ∈ answer.text.toList, Text.isPrintable c = true ∧ ¬ Text.IsControl c ∧
        (Text.isBlank c = true → c = ' ') := by
  have hanswer : answerLine .ratio "1 + \x1b[31m\u202e" =
      .ok (.diagnostic ("! Error evaluating expression: String not parsable as a fraction: " ++
        "'\\x1b[31m\\u202e'")) := by
    decide +kernel
  exact ⟨_, hanswer, rfl, answer_printable _ _ _ hanswer⟩

end FractionCalculator
