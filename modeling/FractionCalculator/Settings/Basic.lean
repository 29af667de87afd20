import FractionCalculator.Number.Render
import FractionCalculator.Settings.FilePath
import FractionCalculator.Settings.LogLevel
import FractionCalculator.Text.Blank
import FractionCalculator.Text.LetterCase
import FractionCalculator.Text.Quoted

namespace FractionCalculator

-- What a user can configure. Without a history file the history is kept in memory.
structure Settings where
  renderMode : RenderMode
  logLevel : LogLevel
  historyFile : Option FilePath
  prompt : String
deriving DecidableEq

-- The fields, in the order in which they are checked.
inductive SettingsField
  | renderMode
  | logLevel
  | historyFile
  | prompt
deriving DecidableEq

namespace SettingsField

def name : SettingsField → String
  | renderMode => "render_mode"
  | logLevel => "log_level"
  | historyFile => "history_file"
  | prompt => "prompt"

-- The environment variable that holds a field.
def variableName : SettingsField → String
  | renderMode => "FRACCALC_RENDER_MODE"
  | logLevel => "FRACCALC_LOG_LEVEL"
  | historyFile => "FRACCALC_HISTORY_FILE"
  | prompt => "FRACCALC_PROMPT"

def all : List SettingsField :=
  [renderMode, logLevel, historyFile, prompt]

end SettingsField

-- A value given for a field: a text, an explicit nothing, or something that no field takes.
inductive Given
  | text (value : String)
  | nothing
  | foreign
deriving DecidableEq

-- Why a given value is refused. Only the unknown level is a refusal of the program's own. The
-- others are made, and worded, by the library that checks records.
inductive SettingsFault
  | unknownMode
  | unknownLevel (value : String)
  | notText
  | notPath
  | nullInAccount
  | tooShort
deriving DecidableEq

namespace SettingsFault

def kind : SettingsFault → String
  | unknownMode => "enum"
  | unknownLevel _ => "value_error"
  | notText => "string_type"
  | notPath => "path_type"
  | nullInAccount => "value_error"
  | tooShort => "string_too_short"

def message : SettingsFault → String
  | unknownMode => "Input should be 'ratio' or 'mixed'"
  | unknownLevel value =>
    "Value error, Unknown log level " ++ Text.quote value ++ "; expected one of " ++
      ", ".intercalate (LogLevel.all.map LogLevel.name)
  | notText => "Input should be a valid string"
  | notPath => "Input is not a valid path for <class 'pathlib.Path'>"
  | nullInAccount => "Value error, embedded null byte"
  | tooShort => "String should have at least 1 character"

end SettingsFault

-- A refused field, with the text that was checked.
structure SettingsIssue where
  field : SettingsField
  fault : SettingsFault
  checked : Option String
deriving DecidableEq

-- Why there are no settings: refused fields, or a home directory that cannot be found, which ends
-- the checks before any field is reported.
inductive SettingsFailure
  | refused (issues : List SettingsIssue)
  | noHome
deriving DecidableEq

namespace Settings

-- The mode is named in any letter case, with blanks around it.
def checkMode : Given → Except SettingsIssue RenderMode
  | .text value =>
    let name := Text.toLower (Text.trim value)
    match RenderMode.ofName? name with
    | some mode => .ok mode
    | none => .error ⟨.renderMode, .unknownMode, some name⟩
  | _ => .error ⟨.renderMode, .unknownMode, none⟩

-- The level is named in any letter case, with blanks around it.
def checkLevel : Given → Except SettingsIssue LogLevel
  | .text value =>
    match LogLevel.ofName? (Text.toUpper (Text.trim value)) with
    | some level => .ok level
    | none => .error ⟨.logLevel, .unknownLevel value, some value⟩
  | _ => .error ⟨.logLevel, .notText, none⟩

-- A blank path means no file.
def checkHistory (home : Home) :
    Given → Except SettingsFailure (Except SettingsIssue (Option FilePath))
  | .text value =>
    let path := Text.trim value
    if path = "" then .ok (.ok none)
    else
      match (FilePath.ofText path).expandHome home with
      | .ok file => .ok (.ok (some file))
      | .error .nullInName => .ok (.error ⟨.historyFile, .nullInAccount, some value⟩)
      | .error .noDirectory => .error .noHome
  | .nothing => .ok (.ok none)
  | .foreign => .ok (.error ⟨.historyFile, .notPath, none⟩)

def checkPrompt : Given → Except SettingsIssue String
  | .text value => if value = "" then .error ⟨.prompt, .tooShort, some value⟩ else .ok value
  | _ => .error ⟨.prompt, .notText, none⟩

def default (home : Home) : Settings :=
  ⟨.ratio, .warning,
    (home.directory? []).map fun directory => FilePath.under directory [".fraccalc_history"], "? "⟩

-- Assumed of the library that checks records: a field without a value takes its default, which is
-- not checked.
def checked {α : Type} (check : Given → α) (fallback : α) : Option Given → α
  | some given => check given
  | none => fallback

def issue {α : Type} : Except SettingsIssue α → List SettingsIssue
  | .error e => [e]
  | .ok _ => []

-- Assumed of the library that checks records: no refusal keeps another field from being checked,
-- and all of them are listed, in the order of the fields.
def collect (mode : Except SettingsIssue RenderMode) (level : Except SettingsIssue LogLevel)
    (history : Except SettingsIssue (Option FilePath)) (prompt : Except SettingsIssue String) :
    Except (List SettingsIssue) Settings :=
  match mode, level, history, prompt with
  | .ok mode, .ok level, .ok history, .ok prompt => .ok ⟨mode, level, history, prompt⟩
  | _, _, _, _ => .error (issue mode ++ issue level ++ issue history ++ issue prompt)

-- The default history file is looked up before anything is checked. A failure in a check that is no
-- refusal is assumed to end them all.
def ofFields (home : Home) (given : SettingsField → Option Given) :
    Except SettingsFailure Settings :=
  if home.directory? [] = none then .error .noHome
  else do
    let preset := default home
    let history ← checked (checkHistory home) (.ok (.ok preset.historyFile)) (given .historyFile)
    (collect (checked checkMode (.ok preset.renderMode) (given .renderMode))
      (checked checkLevel (.ok preset.logLevel) (given .logLevel)) history
      (checked checkPrompt (.ok preset.prompt) (given .prompt))).mapError .refused

end Settings

-- Variables with their values, each name once.
abbrev Environment := List (String × String)

def Settings.ofEnvironment (home : Home) (env : Environment) :
    Except SettingsFailure Settings :=
  ofFields home fun field => (env.lookup field.variableName).map Given.text

end FractionCalculator
