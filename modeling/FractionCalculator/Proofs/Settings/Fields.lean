import FractionCalculator.Proofs.Outcome
import FractionCalculator.Settings.Basic

namespace FractionCalculator

theorem RenderMode.ofName?_eq_some_iff {name : String} {mode : RenderMode} :
    ofName? name = some mode ↔ mode.name = name := by
  constructor
  · intro h
    rw [ofName?] at h
    split_ifs at h <;> cases h <;> exact Eq.symm ‹_›
  · rintro rfl
    cases mode <;> rfl

theorem RenderMode.name_inj {mode other : RenderMode} : mode.name = other.name ↔ mode = other :=
  ⟨fun h => Option.some.inj ((ofName?_eq_some_iff.mpr h).symm.trans (ofName?_eq_some_iff.mpr rfl)),
    congrArg name⟩

theorem LogLevel.ofName?_eq_some_iff {name : String} {level : LogLevel} :
    ofName? name = some level ↔ level.name = name := by
  constructor
  · intro h
    simpa using List.find?_some h
  · rintro rfl
    cases level <;> rfl

theorem LogLevel.name_inj {level other : LogLevel} : level.name = other.name ↔ level = other :=
  ⟨fun h => Option.some.inj ((ofName?_eq_some_iff.mpr h).symm.trans (ofName?_eq_some_iff.mpr rfl)),
    congrArg name⟩

namespace Home

variable (home : Home) (account : List Char)

theorem ofAccount_eq_nullInName_iff :
    home.ofAccount account = .error .nullInName ↔ '\x00' ∈ account := by
  rw [ofAccount]
  split_ifs with hnull
  · simpa using hnull
  · cases home.directory? account <;> simpa using hnull

-- The name can be looked up, and there is no home directory for it.
def Lacks : Prop :=
  '\x00' ∉ account ∧ home.directory? account = none

instance : Decidable (home.Lacks account) :=
  inferInstanceAs (Decidable (_ ∧ _))

theorem ofAccount_eq_noDirectory_iff :
    home.ofAccount account = .error .noDirectory ↔ home.Lacks account := by
  rw [ofAccount, Lacks]
  split_ifs with hnull
  · have hmem : '\x00' ∈ account := by simpa using hnull
    simp [hmem]
  · have hmem : '\x00' ∉ account := by simpa using hnull
    cases home.directory? account <;> simp [hmem]

end Home

theorem FilePath.expandHome_eq_error_iff {home : Home} {path : FilePath} {fault : HomeFault} :
    path.expandHome home = .error fault ↔
      ∃ account ∈ path.account?, home.ofAccount account = .error fault := by
  rw [expandHome]
  cases path.account? with
  | none => simp
  | some account =>
      simp only [Option.mem_def, Option.some.injEq, exists_eq_left']
      cases home.ofAccount account <;> simp [Except.map]

namespace SettingsField

theorem mem_all (field : SettingsField) : field ∈ all := by
  cases field <;> decide

-- The texts that a field refuses.
def Refuses : SettingsField → String → Prop
  | renderMode, text => Text.toLower (Text.trim text) ∉ ["ratio", "mixed"]
  | logLevel, text =>
    Text.toUpper (Text.trim text) ∉ ["CRITICAL", "ERROR", "WARNING", "INFO", "DEBUG"]
  | historyFile, text =>
    ∃ account ∈ (FilePath.ofText (Text.trim text)).account?, '\x00' ∈ account
  | prompt, text => text = ""

instance (field : SettingsField) (text : String) : Decidable (field.Refuses text) :=
  match field with
  | renderMode => inferInstanceAs (Decidable (_ ∉ ["ratio", "mixed"]))
  | logLevel =>
    inferInstanceAs (Decidable (_ ∉ ["CRITICAL", "ERROR", "WARNING", "INFO", "DEBUG"]))
  | historyFile => inferInstanceAs (Decidable (∃ account ∈ FilePath.account? _, _ ∈ account))
  | prompt => inferInstanceAs (Decidable (text = ""))

-- What is reported of a refused text.
def issueOn : SettingsField → String → SettingsIssue
  | renderMode, text => ⟨renderMode, .unknownMode, some (Text.toLower (Text.trim text))⟩
  | logLevel, text => ⟨logLevel, .unknownLevel text, some text⟩
  | historyFile, text => ⟨historyFile, .nullInAccount, some text⟩
  | prompt, text => ⟨prompt, .tooShort, some text⟩

theorem field_issueOn (field : SettingsField) (text : String) :
    (field.issueOn text).field = field := by
  cases field <;> rfl

-- What is reported of a field with a text or without one.
def report (field : SettingsField) : Option String → List SettingsIssue
  | some text => if field.Refuses text then [field.issueOn text] else []
  | none => []

-- A check that says of a text what its field does.
def Checks {α : Type} (field : SettingsField) (check : Given → Except SettingsIssue α) : Prop :=
  ∀ text issue, check (.text text) = .error issue ↔ field.Refuses text ∧ issue = field.issueOn text

namespace Checks

variable {α : Type} {field : SettingsField} {check : Given → Except SettingsIssue α}

theorem accepts (h : Checks field check) {text : String} {value : α}
    (hvalue : check (.text text) = .ok value) : ¬ field.Refuses text := fun hrefuses => by
  rw [(h text _).mpr ⟨hrefuses, rfl⟩] at hvalue
  cases hvalue

theorem issue_checked (h : Checks field check) (fallback : α) (text? : Option String) :
    Settings.issue (Settings.checked check (.ok fallback) (text?.map .text)) =
      field.report text? := by
  cases text? with
  | none => rfl
  | some text =>
      change Settings.issue (check (.text text)) = _
      rw [report]
      by_cases hrefuses : field.Refuses text
      · rw [(h text _).mpr ⟨hrefuses, rfl⟩, if_pos hrefuses]
        rfl
      · cases hcheck : check (.text text) with
        | error issue => exact absurd ((h text issue).mp hcheck).1 hrefuses
        | ok value =>
            rw [if_neg hrefuses]
            rfl

end Checks

end SettingsField

namespace Settings

variable {home : Home} {text : String}

theorem checkMode_eq_ok_iff {mode : RenderMode} :
    checkMode (.text text) = .ok mode ↔ mode.name = Text.toLower (Text.trim text) := by
  rw [← RenderMode.ofName?_eq_some_iff]
  simp only [checkMode]
  cases RenderMode.ofName? (Text.toLower (Text.trim text)) <;> simp

theorem checkLevel_eq_ok_iff {level : LogLevel} :
    checkLevel (.text text) = .ok level ↔ level.name = Text.toUpper (Text.trim text) := by
  rw [← LogLevel.ofName?_eq_some_iff]
  simp only [checkLevel]
  cases LogLevel.ofName? (Text.toUpper (Text.trim text)) <;> simp

theorem checkPrompt_eq_ok_iff {prompt : String} :
    checkPrompt (.text text) = .ok prompt ↔ text ≠ "" ∧ prompt = text := by
  rw [checkPrompt]
  split_ifs with hempty
  · simp [hempty]
  · simp [hempty, eq_comm]

theorem checks_mode : SettingsField.renderMode.Checks checkMode := by
  intro text issue
  have hnone : SettingsField.renderMode.Refuses text ↔
      RenderMode.ofName? (Text.toLower (Text.trim text)) = none := by
    simp only [SettingsField.Refuses, RenderMode.ofName?]
    split_ifs <;> simp_all
  rw [hnone]
  simp only [checkMode]
  cases RenderMode.ofName? (Text.toLower (Text.trim text)) with
  | none => simp [SettingsField.issueOn, eq_comm]
  | some mode => simp

theorem checks_level : SettingsField.logLevel.Checks checkLevel := by
  intro text issue
  have hnone : SettingsField.logLevel.Refuses text ↔
      LogLevel.ofName? (Text.toUpper (Text.trim text)) = none := by
    rw [LogLevel.ofName?, List.find?_eq_none]
    simp [SettingsField.Refuses, LogLevel.all, LogLevel.name, eq_comm]
  rw [hnone]
  simp only [checkLevel]
  cases LogLevel.ofName? (Text.toUpper (Text.trim text)) with
  | none => simp [SettingsField.issueOn, eq_comm]
  | some level => simp

theorem checks_prompt : SettingsField.prompt.Checks checkPrompt := by
  intro text issue
  rw [checkPrompt, SettingsField.Refuses]
  split_ifs with hempty
  · simp [hempty, SettingsField.issueOn, eq_comm]
  · simp [hempty]

-- The text names an account that has no home directory.
def NamesNobody (home : Home) (text : String) : Prop :=
  ∃ account ∈ (FilePath.ofText (Text.trim text)).account?, home.Lacks account

instance (home : Home) (text : String) : Decidable (NamesNobody home text) :=
  inferInstanceAs (Decidable (∃ account ∈ FilePath.account? _, home.Lacks account))

-- The file that a text names, if it names any.
def historyNamed (home : Home) (text : String) : Option FilePath :=
  if Text.trim text = "" then none
  else ((FilePath.ofText (Text.trim text)).expandHome home).toOption

theorem account?_of_empty (h : Text.trim text = "") :
    (FilePath.ofText (Text.trim text)).account? = none := by
  rw [h]
  rfl

theorem checkHistory_eq_error_iff {failure : SettingsFailure} :
    checkHistory home (.text text) = .error failure ↔
      NamesNobody home text ∧ failure = .noHome := by
  simp only [checkHistory, NamesNobody]
  by_cases hempty : Text.trim text = ""
  · rw [if_pos hempty]
    simp [account?_of_empty hempty]
  · simp only [← Home.ofAccount_eq_noDirectory_iff, ← FilePath.expandHome_eq_error_iff]
    rw [if_neg hempty]
    rcases (FilePath.ofText (Text.trim text)).expandHome home with (_ | _) | file <;>
      simp [eq_comm]

theorem checkHistory_eq_refused_iff {issue : SettingsIssue} :
    checkHistory home (.text text) = .ok (.error issue) ↔
      SettingsField.historyFile.Refuses text ∧ issue = SettingsField.historyFile.issueOn text := by
  simp only [checkHistory, SettingsField.Refuses]
  by_cases hempty : Text.trim text = ""
  · rw [if_pos hempty]
    simp [account?_of_empty hempty]
  · simp only [← Home.ofAccount_eq_nullInName_iff home, ← FilePath.expandHome_eq_error_iff]
    rw [if_neg hempty]
    rcases (FilePath.ofText (Text.trim text)).expandHome home with (_ | _) | file <;>
      simp [SettingsField.issueOn, eq_comm]

theorem checkHistory_eq_ok_iff {file : Option FilePath} :
    checkHistory home (.text text) = .ok (.ok file) ↔ ¬ NamesNobody home text ∧
      ¬ SettingsField.historyFile.Refuses text ∧ file = historyNamed home text := by
  simp only [checkHistory, NamesNobody, SettingsField.Refuses, historyNamed]
  by_cases hempty : Text.trim text = ""
  · rw [if_pos hempty, if_pos hempty]
    simp [account?_of_empty hempty, eq_comm]
  · simp only [← Home.ofAccount_eq_nullInName_iff home, ← Home.ofAccount_eq_noDirectory_iff,
      ← FilePath.expandHome_eq_error_iff]
    rw [if_neg hempty, if_neg hempty]
    rcases (FilePath.ofText (Text.trim text)).expandHome home with (_ | _) | file <;>
      simp [Except.toOption, eq_comm]

-- A field has the value that its text stands for, or its default.
def Holds (s : Settings) (home : Home) : SettingsField → Option String → Prop
  | .renderMode, text? =>
    s.renderMode.name = text?.elim "ratio" fun text => Text.toLower (Text.trim text)
  | .logLevel, text? =>
    s.logLevel.name = text?.elim "WARNING" fun text => Text.toUpper (Text.trim text)
  | .historyFile, text? =>
    s.historyFile = text?.elim
      ((home.directory? []).map fun directory => FilePath.under directory [".fraccalc_history"])
      (historyNamed home)
  | .prompt, text? => s.prompt = text?.getD "? "

section Checked

variable (s : Settings) (home : Home) (text? : Option String)

theorem checked_mode_eq_ok_iff :
    checked checkMode (.ok (default home).renderMode) (text?.map .text) = .ok s.renderMode ↔
      (∀ text ∈ text?, ¬ SettingsField.renderMode.Refuses text) ∧
        s.Holds home .renderMode text? := by
  cases text? with
  | none =>
      have hdefault : s.Holds home .renderMode none ↔ s.renderMode = .ratio :=
        @RenderMode.name_inj s.renderMode .ratio
      simp [checked, hdefault, default, eq_comm]
  | some text =>
      simp only [Option.map_some, checked, Option.mem_some_iff, forall_eq', checkMode_eq_ok_iff]
      exact ⟨fun h => ⟨checks_mode.accepts (checkMode_eq_ok_iff.mpr h), h⟩, And.right⟩

theorem checked_level_eq_ok_iff :
    checked checkLevel (.ok (default home).logLevel) (text?.map .text) = .ok s.logLevel ↔
      (∀ text ∈ text?, ¬ SettingsField.logLevel.Refuses text) ∧ s.Holds home .logLevel text? := by
  cases text? with
  | none =>
      have hdefault : s.Holds home .logLevel none ↔ s.logLevel = .warning :=
        @LogLevel.name_inj s.logLevel .warning
      simp [checked, hdefault, default, eq_comm]
  | some text =>
      simp only [Option.map_some, checked, Option.mem_some_iff, forall_eq', checkLevel_eq_ok_iff]
      exact ⟨fun h => ⟨checks_level.accepts (checkLevel_eq_ok_iff.mpr h), h⟩, And.right⟩

theorem checked_prompt_eq_ok_iff :
    checked checkPrompt (.ok (default home).prompt) (text?.map .text) = .ok s.prompt ↔
      (∀ text ∈ text?, ¬ SettingsField.prompt.Refuses text) ∧ s.Holds home .prompt text? := by
  cases text? with
  | none => simp [checked, Holds, default, eq_comm]
  | some text => simp [checked, Holds, checkPrompt_eq_ok_iff, SettingsField.Refuses]

theorem checked_history_eq_ok_iff :
    checked (checkHistory home) (.ok (.ok (default home).historyFile)) (text?.map .text) =
        .ok (.ok s.historyFile) ↔
      (∀ text ∈ text?, ¬ NamesNobody home text) ∧
        (∀ text ∈ text?, ¬ SettingsField.historyFile.Refuses text) ∧
        s.Holds home .historyFile text? := by
  cases text? with
  | none => simp [checked, Holds, default, eq_comm]
  | some text => simp [checked, Holds, checkHistory_eq_ok_iff]

theorem checked_history_eq_error_iff (failure : SettingsFailure) :
    checked (checkHistory home) (.ok (.ok (default home).historyFile)) (text?.map .text) =
        .error failure ↔ (∃ text ∈ text?, NamesNobody home text) ∧ failure = .noHome := by
  cases text? with
  | none => simp [checked]
  | some text => simp [checked, checkHistory_eq_error_iff]

theorem issue_checked_history {history : Except SettingsIssue (Option FilePath)}
    (h : checked (checkHistory home) (.ok (.ok (default home).historyFile)) (text?.map .text) =
      .ok history) : issue history = SettingsField.historyFile.report text? := by
  cases text? with
  | none =>
      cases h
      rfl
  | some text =>
      rw [Option.map_some, checked] at h
      cases history with
      | error refused =>
          obtain ⟨hrefuses, rfl⟩ := checkHistory_eq_refused_iff.mp h
          simp [issue, SettingsField.report, hrefuses]
      | ok file =>
          obtain ⟨-, haccepts, -⟩ := checkHistory_eq_ok_iff.mp h
          simp [issue, SettingsField.report, haccepts]

end Checked

section Collected

variable {mode : Except SettingsIssue RenderMode} {level : Except SettingsIssue LogLevel}
  {history : Except SettingsIssue (Option FilePath)} {prompt : Except SettingsIssue String}

-- The settings stand when every check does.
theorem collect_eq_ok_iff {s : Settings} : collect mode level history prompt = .ok s ↔
    mode = .ok s.renderMode ∧ level = .ok s.logLevel ∧ history = .ok s.historyFile ∧
      prompt = .ok s.prompt := by
  unfold collect
  split
  · obtain ⟨mode, level, history, prompt⟩ := s
    simp
  · rename_i hnot
    constructor
    · nofun
    · rintro ⟨rfl, rfl, rfl, rfl⟩
      exact absurd rfl (hnot _ _ _ _ rfl rfl rfl)

-- Each check adds what it refuses, and only where all stand there is nothing to report.
theorem collect_eq_error_iff {issues : List SettingsIssue} :
    collect mode level history prompt = .error issues ↔
      issues = issue mode ++ issue level ++ issue history ++ issue prompt ∧ issues ≠ [] := by
  cases mode <;> cases level <;> cases history <;> cases prompt <;> grind [collect, issue]

variable (home : Home) (given : SettingsField → Option Given)

theorem ofFields_eq_ok_iff (s : Settings) : ofFields home given = .ok s ↔
    home.directory? [] ≠ none ∧
    checked checkMode (.ok (default home).renderMode) (given .renderMode) = .ok s.renderMode ∧
    checked checkLevel (.ok (default home).logLevel) (given .logLevel) = .ok s.logLevel ∧
    checked (checkHistory home) (.ok (.ok (default home).historyFile)) (given .historyFile) =
      .ok (.ok s.historyFile) ∧
    checked checkPrompt (.ok (default home).prompt) (given .prompt) = .ok s.prompt := by
  rw [ofFields]
  split_ifs with hhome
  · simp [hhome]
  · simp only [bind_eq_ok, mapError_eq_ok_iff, collect_eq_ok_iff]
    constructor
    · rintro ⟨history, hhistory, hmode, hlevel, rfl, hprompt⟩
      exact ⟨hhome, hmode, hlevel, hhistory, hprompt⟩
    · rintro ⟨-, hmode, hlevel, hhistory, hprompt⟩
      exact ⟨_, hhistory, hmode, hlevel, rfl, hprompt⟩

-- Unless a home directory is missing, each check adds what it refuses.
theorem ofFields_eq_error_iff (failure : SettingsFailure) : ofFields home given = .error failure ↔
    home.directory? [] = none ∧ failure = .noHome ∨
    home.directory? [] ≠ none ∧
      (checked (checkHistory home) (.ok (.ok (default home).historyFile)) (given .historyFile) =
        .error failure ∨
      ∃ history issues,
        checked (checkHistory home) (.ok (.ok (default home).historyFile)) (given .historyFile) =
          .ok history ∧
        issues = issue (checked checkMode (.ok (default home).renderMode) (given .renderMode)) ++
          issue (checked checkLevel (.ok (default home).logLevel) (given .logLevel)) ++
          issue history ++
          issue (checked checkPrompt (.ok (default home).prompt) (given .prompt)) ∧
        failure = .refused issues ∧ issues ≠ []) := by
  rw [ofFields]
  split_ifs with hhome
  · simp [hhome, @eq_comm _ failure]
  · simp only [bind_eq_error, mapError_eq_error_iff, collect_eq_error_iff]
    simp only [hhome, false_and, false_or, ne_eq, not_false_eq_true, true_and]
    refine or_congr_right (exists_congr fun history => ?_)
    constructor
    · rintro ⟨hhistory, issues, ⟨hissues, hne⟩, hfailure⟩
      exact ⟨issues, hhistory, hissues, hfailure, hne⟩
    · rintro ⟨issues, hhistory, hissues, hfailure, hne⟩
      exact ⟨hhistory, issues, ⟨hissues, hne⟩, hfailure⟩

end Collected

-- Two settings agree in a field.
def SameIn (s t : Settings) : SettingsField → Prop
  | .renderMode => s.renderMode = t.renderMode
  | .logLevel => s.logLevel = t.logLevel
  | .historyFile => s.historyFile = t.historyFile
  | .prompt => s.prompt = t.prompt

theorem Holds.sameIn {s t : Settings} {home : Home} {field : SettingsField}
    {text? : Option String} (hs : s.Holds home field text?) (ht : t.Holds home field text?) :
    s.SameIn t field := by
  cases field with
  | renderMode => exact RenderMode.name_inj.mp (Eq.trans hs ht.symm)
  | logLevel => exact LogLevel.name_inj.mp (Eq.trans hs ht.symm)
  | historyFile => exact Eq.trans hs ht.symm
  | prompt => exact Eq.trans hs ht.symm

theorem Holds.congr {s t : Settings} {home : Home} {field : SettingsField}
    {text? : Option String} (hsame : s.SameIn t field) (hs : s.Holds home field text?) :
    t.Holds home field text? := by
  cases field with
  | renderMode => exact (congrArg RenderMode.name hsame).symm.trans hs
  | logLevel => exact (congrArg LogLevel.name hsame).symm.trans hs
  | historyFile => exact hsame.symm.trans hs
  | prompt => exact hsame.symm.trans hs

end Settings

namespace Environment

variable (env : Environment)

-- The text of a field's variable.
def text? (field : SettingsField) : Option String :=
  env.lookup field.variableName

-- The variable of a field holds a text that the field refuses.
def Offends (field : SettingsField) : Prop :=
  ∃ text ∈ env.text? field, field.Refuses text

instance (field : SettingsField) : Decidable (env.Offends field) :=
  inferInstanceAs (Decidable (∃ text ∈ env.text? field, field.Refuses text))

-- There is no home directory for the user, who keeps the history there by default, or for the
-- account that the history is said to be kept with.
def Homeless (home : Home) : Prop :=
  home.directory? [] = none ∨ ∃ text ∈ env.text? .historyFile, Settings.NamesNobody home text

instance (home : Home) : Decidable (env.Homeless home) :=
  inferInstanceAs
    (Decidable (_ = none ∨ ∃ text ∈ env.text? .historyFile, Settings.NamesNobody home text))

-- All that is reported, in the order of the fields.
def issues : List SettingsIssue :=
  SettingsField.all.flatMap fun field => field.report (env.text? field)

theorem report_eq_nil {env : Environment} {field : SettingsField} (h : ¬ env.Offends field) :
    field.report (env.text? field) = [] := by
  cases htext : env.text? field with
  | none => rfl
  | some text => exact if_neg fun hrefuses => h ⟨text, htext, hrefuses⟩

theorem fields_report (field : SettingsField) :
    (field.report (env.text? field)).map SettingsIssue.field =
      [field].filter fun field => env.Offends field := by
  cases htext : env.text? field with
  | none => simp [SettingsField.report, Offends, htext]
  | some text =>
      by_cases hrefuses : field.Refuses text <;>
        simp [SettingsField.report, Offends, htext, hrefuses, SettingsField.field_issueOn]

theorem fields_issues :
    env.issues.map SettingsIssue.field =
      SettingsField.all.filter fun field => env.Offends field := by
  simp only [issues, List.map_flatMap, fields_report]
  rw [← List.filter_flatMap, List.flatMap_singleton']

theorem issues_ne_nil_iff : env.issues ≠ [] ↔ ∃ field, env.Offends field := by
  have hfields : env.issues = [] ↔ ∀ field, ¬ env.Offends field := by
    rw [← List.map_eq_nil_iff, fields_issues]
    simp [SettingsField.mem_all]
  rw [Ne, hfields, not_forall_not]

end Environment

namespace Settings

variable (home : Home) (env : Environment)

theorem ofEnvironment_eq_ok_iff (s : Settings) : ofEnvironment home env = .ok s ↔
    ¬ env.Homeless home ∧
      ∀ field, ¬ env.Offends field ∧ s.Holds home field (env.text? field) := by
  have hchecks : ofEnvironment home env = .ok s ↔ _ := (ofFields_eq_ok_iff home _ s).trans
    (and_congr Iff.rfl (and_congr (checked_mode_eq_ok_iff s home (env.text? .renderMode))
      (and_congr (checked_level_eq_ok_iff s home (env.text? .logLevel))
        (and_congr (checked_history_eq_ok_iff s home (env.text? .historyFile))
          (checked_prompt_eq_ok_iff s home (env.text? .prompt))))))
  rw [hchecks]
  simp only [Environment.Homeless, Environment.Offends, not_or, not_exists, not_and]
  constructor
  · rintro ⟨huser, hmode, hlevel, ⟨haccount, hhistory⟩, hprompt⟩
    exact ⟨⟨huser, haccount⟩, fun field => by cases field <;> assumption⟩
  · rintro ⟨⟨huser, haccount⟩, hfield⟩
    exact ⟨huser, hfield .renderMode, hfield .logLevel, ⟨haccount, hfield .historyFile⟩,
      hfield .prompt⟩

-- The checks together report what each field has to report.
theorem issues_of_checked {history : Except SettingsIssue (Option FilePath)}
    (h : checked (checkHistory home) (.ok (.ok (default home).historyFile))
      ((env.text? .historyFile).map .text) = .ok history) :
    issue (checked checkMode (.ok (default home).renderMode) ((env.text? .renderMode).map .text)) ++
      issue (checked checkLevel (.ok (default home).logLevel) ((env.text? .logLevel).map .text)) ++
      issue history ++
      issue (checked checkPrompt (.ok (default home).prompt) ((env.text? .prompt).map .text)) =
      env.issues := by
  rw [checks_mode.issue_checked, checks_level.issue_checked, checks_prompt.issue_checked,
    issue_checked_history home _ h]
  simp [Environment.issues, SettingsField.all]

theorem ofEnvironment_eq_error_iff (failure : SettingsFailure) :
    ofEnvironment home env = .error failure ↔
      env.Homeless home ∧ failure = .noHome ∨
      ¬ env.Homeless home ∧ (∃ field, env.Offends field) ∧ failure = .refused env.issues := by
  have haccount := checked_history_eq_error_iff home (env.text? .historyFile)
  rw [ofEnvironment, ofFields_eq_error_iff]
  constructor
  · rintro (⟨huser, rfl⟩ | ⟨huser, h | ⟨history, issues, hhistory, rfl, rfl, hne⟩⟩)
    · exact .inl ⟨.inl huser, rfl⟩
    · exact .inl (((haccount failure).mp h).imp .inr id)
    · have hissues := issues_of_checked home env hhistory
      refine .inr ⟨fun hhomeless => ?_, env.issues_ne_nil_iff.mp (hissues ▸ hne),
        congrArg _ hissues⟩
      have hnobody := hhomeless.resolve_left huser
      cases hhistory.symm.trans ((haccount .noHome).mpr ⟨hnobody, rfl⟩)
  · rintro (⟨huser | hnobody, rfl⟩ | ⟨hhoused, hoffends, rfl⟩)
    · exact .inl ⟨huser, rfl⟩
    · by_cases huser : home.directory? [] = none
      · exact .inl ⟨huser, rfl⟩
      · exact .inr ⟨huser, .inl ((haccount .noHome).mpr ⟨hnobody, rfl⟩)⟩
    · obtain ⟨huser, hnamed⟩ := not_or.mp hhoused
      refine .inr ⟨huser, .inr ?_⟩
      cases hhistory : checked (checkHistory home) (.ok (.ok (default home).historyFile))
          ((env.text? .historyFile).map .text) with
      | error failure => exact absurd ((haccount failure).mp hhistory).1 hnamed
      | ok history =>
          exact ⟨history, _, hhistory, (issues_of_checked home env hhistory).symm, rfl,
            env.issues_ne_nil_iff.mpr hoffends⟩

end Settings

-- How reading settings ends, as the variables alone decide it: without a home directory that is
-- needed, with all that the fields refuse, or with a value for each field.
structure Environment.Decides (home : Home) (env : Environment)
    (outcome : Except SettingsFailure Settings) : Prop where
  noHome_iff : outcome = .error .noHome ↔ env.Homeless home
  refused_iff : ∀ issues, outcome = .error (.refused issues) ↔
    ¬ env.Homeless home ∧ (∃ field, env.Offends field) ∧ issues = env.issues
  accepted_iff : (∃ s, outcome = .ok s) ↔ ¬ env.Homeless home ∧ ∀ field, ¬ env.Offends field
  holds : ∀ s, outcome = .ok s → ∀ field, s.Holds home field (env.text? field)

theorem Environment.decides_ofEnvironment (home : Home) (env : Environment) :
    env.Decides home (Settings.ofEnvironment home env) where
  noHome_iff := by simp [Settings.ofEnvironment_eq_error_iff]
  refused_iff issues := by simp [Settings.ofEnvironment_eq_error_iff]
  accepted_iff := by
    constructor
    · rintro ⟨s, hs⟩
      obtain ⟨hhoused, hfields⟩ := (Settings.ofEnvironment_eq_ok_iff home env s).mp hs
      exact ⟨hhoused, fun field => (hfields field).1⟩
    · rintro ⟨hhoused, haccepted⟩
      cases houtcome : Settings.ofEnvironment home env with
      | ok s => exact ⟨s, rfl⟩
      | error failure =>
          rcases (Settings.ofEnvironment_eq_error_iff home env failure).mp houtcome with
            ⟨hhomeless, -⟩ | ⟨-, ⟨field, hoffends⟩, -⟩
          · exact absurd hhomeless hhoused
          · exact absurd hoffends (haccepted field)
  holds s hs field := (((Settings.ofEnvironment_eq_ok_iff home env s).mp hs).2 field).2

-- Each variable is judged by itself. What is reported lists every field whose variable is refused,
-- each once and in order. Other variables never matter, and a field follows only its own.
theorem Settings.ofEnvironment_fieldwise (home : Home) (env : Environment) :
    env.Decides home (ofEnvironment home env) ∧
      env.issues.map SettingsIssue.field =
        SettingsField.all.filter (fun field => env.Offends field) ∧
      (∀ other : Environment, (∀ field, other.text? field = env.text? field) →
        ofEnvironment home other = ofEnvironment home env) ∧
      ∀ (other : Environment) (s t : Settings) (field : SettingsField),
        ofEnvironment home env = .ok s → ofEnvironment home other = .ok t →
        other.text? field = env.text? field → s.SameIn t field := by
  have hdecides := env.decides_ofEnvironment home
  refine ⟨hdecides, env.fields_issues, fun other hother => ?_,
    fun other s t field hs ht htext => ?_⟩
  · exact congrArg (ofFields home) (funext fun field => congrArg (Option.map _) (hother field))
  · have hheld := (other.decides_ofEnvironment home).holds t ht field
    rw [htext] at hheld
    exact (hdecides.holds s hs field).sameIn hheld

-- All four variables refused at once, and blanks and letters that only case mapping brings in line.
theorem Settings.ofEnvironment_fieldwise_mixed :
    let refused : Environment := [("FRACCALC_PROMPT", ""), ("HOME", "~nobody"),
      ("FRACCALC_HISTORY_FILE", " ~\x00/history"), ("FRACCALC_LOG_LEVEL", "İnfo"),
      ("FRACCALC_RENDER_MODE", " Decimal")]
    let accepted : Environment := [("FRACCALC_RENDER_MODE", "\u2003MIXED\n"),
      ("FRACCALC_LOG_LEVEL", "ınfo "), ("FRACCALC_HISTORY_FILE", "\x1f")]
    ofEnvironment "/home/user" refused = .error (.refused
      [⟨.renderMode, .unknownMode, some "decimal"⟩, ⟨.logLevel, .unknownLevel "İnfo", some "İnfo"⟩,
        ⟨.historyFile, .nullInAccount, some " ~\x00/history"⟩, ⟨.prompt, .tooShort, some ""⟩]) ∧
      ∃ s, ofEnvironment "/home/user" accepted = .ok s ∧ s.renderMode.name = "mixed" ∧
        s.logLevel.name = "INFO" ∧ s.historyFile = none ∧ s.prompt = "? " := by
  intro refused accepted
  constructor
  · obtain ⟨hdecides, -⟩ := ofEnvironment_fieldwise "/home/user" refused
    have hhoused : ¬ refused.Homeless "/home/user" := by decide +kernel
    exact (hdecides.refused_iff _).mpr ⟨hhoused, ⟨.prompt, by decide⟩, by decide +kernel⟩
  · obtain ⟨hdecides, -⟩ := ofEnvironment_fieldwise "/home/user" accepted
    have hhoused : ¬ accepted.Homeless "/home/user" := by decide +kernel
    have haccepted : ∀ field, ¬ accepted.Offends field := fun field => by
      cases field <;> decide +kernel
    obtain ⟨s, hs⟩ := hdecides.accepted_iff.mpr ⟨hhoused, haccepted⟩
    have hheld := hdecides.holds s hs
    exact ⟨s, hs, (hheld .renderMode).trans (by decide +kernel),
      (hheld .logLevel).trans (by decide +kernel), (hheld .historyFile).trans (by decide +kernel),
      hheld .prompt⟩

-- An account without a home directory hides the mode that is refused, and an account whose name
-- holds the null character is refused in the history field.
theorem Settings.ofEnvironment_unknown_account :
    let hidden : Environment := [("FRACCALC_RENDER_MODE", "decimal"),
      ("FRACCALC_HISTORY_FILE", "~nosuchuser/history")]
    let refused : Environment := [("FRACCALC_RENDER_MODE", "decimal"),
      ("FRACCALC_HISTORY_FILE", "~\x00")]
    hidden.Offends .renderMode ∧ ofEnvironment "/home/tester" hidden = .error .noHome ∧
      ofEnvironment "/home/tester" refused = .error (.refused
        [⟨.renderMode, .unknownMode, some "decimal"⟩,
          ⟨.historyFile, .nullInAccount, some "~\x00"⟩]) := by
  decide +kernel

end FractionCalculator
