import FractionCalculator.Proofs.Session.Transcript
import FractionCalculator.Proofs.Settings.Fields
import FractionCalculator.Session.CommandLine

namespace FractionCalculator

-- A line that is not blank, and whose faults, if it has any, a session reports.
structure Answerable (mode : RenderMode) (line : String) : Prop where
  not_allBlank : ¬ Text.AllBlank line.toList
  reported : ∀ e, solve mode line = .error e → ∃ name, e.reportName? = some name

namespace Answerable

variable {mode : RenderMode} {line other : String}

theorem congr (h : Answerable mode line) (hwords : Text.words other = Text.words line) :
    Answerable mode other where
  not_allBlank := by
    rw [← Text.words_eq_nil_iff, hwords, Text.words_eq_nil_iff]
    exact h.not_allBlank
  reported := by
    rw [solve_congr mode hwords]
    exact h.reported

theorem exists_answer (h : Answerable mode line) :
    ∃ answer, answerLine mode line = .ok answer := by
  cases hanswer : answerLine mode line with
  | ok answer => exact ⟨answer, rfl⟩
  | error e =>
      obtain ⟨hsolve, hnone⟩ := (Answer.ofSolution_eq_error_iff _ e).mp hanswer
      obtain ⟨name, hname⟩ := h.reported e hsolve
      rw [hname] at hnone
      cases hnone

end Answerable

theorem succeeded_eq_isOk_solve {mode : RenderMode} {line : String} {answer : Answer}
    (h : answerLine mode line = .ok answer) : answer.succeeded = (solve mode line).isOk := by
  rw [answerLine] at h
  cases hsolve : solve mode line with
  | ok text =>
      rw [hsolve] at h
      cases h
      rfl
  | error e =>
      rw [hsolve, Answer.ofSolution] at h
      split at h <;> cases h
      rfl

theorem Session.run_line (s : Session) {text : String} {answer : Answer}
    (hblank : ¬ Text.AllBlank text.toList) (h : answerLine s.mode text = .ok answer) :
    s.run [.line text] = .ok ([⟨answer.output.out,
      s.logText (Text.trim text) ++ answer.output.err⟩, .empty], []) := by
  rw [← answerLine_trim] at h
  have hrespond : s.respond (.line text) =
      .ok (some ⟨answer.output.out, s.logText (Text.trim text) ++ answer.output.err⟩) := by
    rw [s.respond_line_of_not_allBlank hblank, s.answer_of_answerLine h, s.showLog_append]
    rfl
  exact s.run_cons_of_respond hrespond rfl

-- The configuration of a run before its flags.
def Surroundings.settings (around : Surroundings) : Except SettingsFailure Settings :=
  Settings.ofEnvironment around.home around.variables

-- Behind a separator there are no flags.
theorem Arguments.parse_separator (words : List String) :
    parse ("--" :: words) = .ok { start with words := "--" :: words } := by
  have hall : (words.map fun word => (word, Reading.word)).map Prod.fst = words := by
    rw [List.map_map]
    exact List.map_id _
  simp [parse, Reading.ofArguments, Except.mapError, collect, hall, bind, Except.bind]

namespace CommandLine

variable {around : Surroundings} {settings : Settings} {session : Session} {opening : Output}
  {words others : List String} {answer : Answer} {result other : RunResult}

-- Arguments without flags leave the settings as they are.
theorem plan_of_parse (hsettings : around.settings = .ok settings) {arguments : List String}
    (h : Arguments.parse arguments = .ok { Arguments.start with words := words }) :
    plan around arguments = planWith around.time settings words := by
  rw [Surroundings.settings] at hsettings
  obtain ⟨huser, -⟩ := (Settings.ofFields_eq_ok_iff ..).mp hsettings
  rw [plan, if_neg huser]
  simp only [h, hsettings]
  rfl

theorem plan_nil (hsettings : around.settings = .ok settings) :
    plan around [] = planWith around.time settings [] :=
  plan_of_parse hsettings rfl

-- The session that prompts when there are no words, and the log of its start.
structure Prompts (around : Surroundings) (settings : Settings) (session : Session)
    (opening : Output) : Prop where
  plan_eq : plan around [] = .interactive session opening settings
  mode_eq : session.mode = settings.renderMode
  opening_out_eq : opening.out = ""

theorem exists_prompts (hsettings : around.settings = .ok settings) :
    ∃ session opening, Prompts around settings session opening := by
  refine ⟨_, _, plan_nil hsettings, rfl, ?_⟩
  unfold Session.showLog
  split <;> rfl

-- The line that words make.
def line (words : List String) : String :=
  " ".intercalate words

-- Words behind a separator are one line. A run on them echoes the line and answers it, and asks for
-- none. The answer is the one that the line gets when it is entered at the prompt, and decides the
-- exit code.
structure AnswersLine (around : Surroundings) (session : Session) (opening : Output)
    (words : List String) (answer : Answer) (result : RunResult) : Prop where
  plan_eq : plan around ("--" :: words) = .expression session opening (Text.trim (line words))
  run_eq : ∀ input, run around ("--" :: words) input = .ok result
  out_eq : result.output.out = "? " ++ Text.trim (line words) ++ "\n" ++ answer.output.out
  err_eq : result.output.err =
    opening.err ++ (session.logText (Text.trim (line words)) ++ answer.output.err)
  exit_zero_iff : result.exitCode = 0 ↔ ∃ text, solve session.mode (line words) = .ok text
  exit_one_iff : result.exitCode = 1 ↔ ∃ e, solve session.mode (line words) = .error e
  prompt_eq : session.run [.line (line words)] = .ok ([⟨answer.output.out,
    session.logText (Text.trim (line words)) ++ answer.output.err⟩, .empty], [])

theorem plan_separator (hsettings : around.settings = .ok settings)
    (hprompts : Prompts around settings session opening)
    (hblank : ¬ Text.AllBlank (line words).toList) :
    plan around ("--" :: words) = .expression session opening (Text.trim (line words)) := by
  have htext : Text.trim (line words) ≠ "" := mt (Text.trim_eq_empty_iff _).mp hblank
  have hprompt := hprompts.plan_eq
  rw [plan_nil hsettings] at hprompt
  rw [plan_of_parse hsettings (Arguments.parse_separator words), planWith]
  change (if Text.trim (line words) = "" then _ else _) = _
  rw [if_neg htext]
  cases hprompt
  rfl

theorem run_of_plan {arguments : List String} {text : String}
    (hplan : plan around arguments = .expression session opening text)
    (h : answerLine session.mode text = .ok answer) (input : String) :
    run around arguments input = .ok ⟨if answer.succeeded then 0 else 1,
      ⟨opening.out ++ ("? " ++ text ++ "\n" ++ answer.output.out),
        opening.err ++ (session.logText text ++ answer.output.err)⟩⟩ := by
  have hrun : runExpression session text = .ok ⟨if answer.succeeded then 0 else 1,
      ⟨"? " ++ text ++ "\n" ++ answer.output.out, session.logText text ++ answer.output.err⟩⟩ := by
    rw [runExpression, session.answer_of_answerLine h, session.showLog_append]
    change Except.ok (RunResult.mk _ (Output.mk _ ("" ++ _))) = _
    rw [String.empty_append]
  rw [run, hplan]
  change (runExpression session text >>= _) = _
  rw [hrun]
  rfl

theorem exists_answersLine (hsettings : around.settings = .ok settings)
    (hprompts : Prompts around settings session opening)
    (hblank : ¬ Text.AllBlank (line words).toList)
    (h : answerLine session.mode (line words) = .ok answer) :
    ∃ result, AnswersLine around session opening words answer result := by
  have hplan := plan_separator hsettings hprompts hblank
  have hrun := run_of_plan hplan ((answerLine_trim ..).trans h)
  rw [hprompts.opening_out_eq, String.empty_append, succeeded_eq_isOk_solve h] at hrun
  refine ⟨_, hplan, hrun, rfl, rfl, ?exitZero, ?exitOne, session.run_line hblank h⟩
  all_goals cases solve session.mode (line words) <;> simp [Except.isOk, Except.toBool]

theorem AnswersLine.exitCode_congr (h : AnswersLine around session opening words answer result)
    (hother : AnswersLine around session opening others answer other)
    (hsolve : solve session.mode (line others) = solve session.mode (line words)) :
    other.exitCode = result.exitCode := by
  cases hwords : solve session.mode (line words) with
  | ok text =>
      rw [h.exit_zero_iff.mpr ⟨text, hwords⟩]
      exact hother.exit_zero_iff.mpr ⟨text, hsolve.trans hwords⟩
  | error e =>
      rw [h.exit_one_iff.mpr ⟨e, hwords⟩]
      exact hother.exit_one_iff.mpr ⟨e, hsolve.trans hwords⟩

end CommandLine

open CommandLine in
-- Words behind a separator, whatever they look like, get the answer that their line gets at the
-- prompt. The same pieces cut into words in another way get the same answer. Words, as texts, hold
-- Unicode scalar values only, so nothing is said of lone surrogates.
theorem run_after_separator (around : Surroundings) (settings : Settings)
    (hsettings : around.settings = .ok settings) :
    ∃ session opening, Prompts around settings session opening ∧
      ∀ words, Answerable settings.renderMode (line words) →
        ∃ answer result, answerLine settings.renderMode (line words) = .ok answer ∧
          AnswersLine around session opening words answer result ∧
          ∀ others : List String, others.flatMap Text.words = words.flatMap Text.words →
            ∃ other, AnswersLine around session opening others answer other ∧
              other.exitCode = result.exitCode := by
  obtain ⟨session, opening, hprompts⟩ := exists_prompts hsettings
  refine ⟨session, opening, hprompts, fun words hwords => ?_⟩
  rw [← hprompts.mode_eq] at hwords ⊢
  obtain ⟨answer, hanswer⟩ := hwords.exists_answer
  obtain ⟨result, hresult⟩ := exists_answersLine hsettings hprompts hwords.not_allBlank hanswer
  refine ⟨answer, result, hanswer, hresult, fun others hpieces => ?_⟩
  have hsame : Text.words (line others) = Text.words (line words) := by
    rw [line, line, Text.words_intercalate, hpieces, Text.words_intercalate]
  obtain ⟨other, hother⟩ := exists_answersLine hsettings hprompts
    (hwords.congr hsame).not_allBlank ((answerLine_congr _ hsame).trans hanswer)
  exact ⟨other, hother, hresult.exitCode_congr hother (solve_congr _ hsame)⟩

open CommandLine in
-- An empty word, a literal that looks like a flag and words with blanks of their own.
theorem run_after_separator_blanks :
    let around : Surroundings :=
      { home := "/home/user", environment := [("FRACCALC_RENDER_MODE", " Mixed ")],
        environmentFile := none, time := "noon" }
    let words := ["", "-2_1/2\t*", " 3 "]
    let others := ["-2_1/2", "*\u20033"]
    ∃ settings session opening answer result other, around.settings = .ok settings ∧
      Answerable settings.renderMode (line words) ∧
      AnswersLine around session opening words answer result ∧
      AnswersLine around session opening others answer other ∧
      result = ⟨0, ⟨"? -2_1/2\t*  3\n= -7_1/2\n", ""⟩⟩ ∧
      other = ⟨0, ⟨"? -2_1/2 *\u20033\n= -7_1/2\n", ""⟩⟩ := by
  intro around words others
  obtain ⟨settings, hsettings, hmode⟩ :
      ∃ settings, around.settings = .ok settings ∧ settings.renderMode = .mixed :=
    ⟨⟨.mixed, .warning, some ⟨1, ["home", "user", ".fraccalc_history"]⟩, "? "⟩,
      by decide +kernel, rfl⟩
  have hsolve : solve .mixed (line words) = .ok "-7_1/2" := by decide +kernel
  have hanswerable : Answerable .mixed (line words) := by
    refine ⟨fun hblank => ?_, fun e he => ?_⟩
    · exact absurd (hblank '-' (by decide +kernel)) (by decide)
    · cases hsolve.symm.trans he
  have hpieces : others.flatMap Text.words = words.flatMap Text.words := by decide +kernel
  obtain ⟨session, opening, -, hwords⟩ := run_after_separator around settings hsettings
  rw [← hmode] at hanswerable
  obtain ⟨answer, result, -, hresult, hothers⟩ := hwords words hanswerable
  obtain ⟨other, hother, -⟩ := hothers others hpieces
  refine ⟨settings, session, opening, answer, result, other, hsettings, hanswerable, hresult,
    hother, ?_, ?_⟩
  · have hrun : run around ("--" :: words) "" =
        .ok ⟨0, ⟨"? -2_1/2\t*  3\n= -7_1/2\n", ""⟩⟩ := by decide +kernel
    exact Except.ok.inj ((hresult.run_eq "").symm.trans hrun)
  · have hrun : run around ("--" :: others) "" =
        .ok ⟨0, ⟨"? -2_1/2 *\u20033\n= -7_1/2\n", ""⟩⟩ := by decide +kernel
    exact Except.ok.inj ((hother.run_eq "").symm.trans hrun)

end FractionCalculator
