import FractionCalculator.Session.Basic
import FractionCalculator.Session.Usage
import FractionCalculator.Settings.EnvironmentFile
import FractionCalculator.Settings.Report

namespace FractionCalculator

-- What surrounds a run of the program. Which variables an environment file adds is up to the
-- library that loads it. `EnvironmentFile.extend` is what it is known to do, and nothing is assumed
-- of it.
structure Surroundings where
  home : Home
  environment : Environment
  environmentFile : Option String
  time : String
  loadFile : Environment → String → Environment := EnvironmentFile.extend

-- The variables that a run goes by.
def Surroundings.variables (around : Surroundings) : Environment :=
  match around.environmentFile with
  | some text => around.loadFile around.environment text
  | none => around.environment

-- What a finished run leaves behind.
structure RunResult where
  exitCode : Nat
  output : Output
deriving DecidableEq

-- A run that is over before any evaluation, for good or with an error, one expression, or a
-- session. The log of the start comes first.
inductive RunPlan
  | finished (result : RunResult)
  | failed (e : CalcError)
  | expression (session : Session) (opening : Output) (text : String)
  | interactive (session : Session) (opening : Output) (settings : Settings)
deriving DecidableEq

namespace CommandLine

def stopResult : ArgumentsStop → RunResult
  | .help => ⟨0, Usage.help, ""⟩
  | .fault fault => ⟨2, "", Usage.renderFault fault⟩

-- The words with blanks between them, less a leading separator and the blanks around them.
def expressionText (words : List String) : String :=
  let words :=
    match words with
    | "--" :: rest => rest
    | words => words
  Text.trim (" ".intercalate words)

def planWith (time : String) (settings : Settings) (words : List String) : RunPlan :=
  let session : Session :=
    { Session.ofSettings settings with
      logTime := if settings.logLevel = .debug then some time else none }
  let opening := session.showLog [⟨.session, "Settings: " ++ settings.describe⟩]
  let text := expressionText words
  if text = "" then .interactive session opening settings else .expression session opening text

-- The default history file is looked up as the program is loaded. Then arguments are judged before
-- the configuration.
def plan (around : Surroundings) (arguments : List String) : RunPlan :=
  if around.home.directory? [] = none then .failed .noHome
  else
    match Arguments.parse arguments with
    | .error stop => .finished (stopResult stop)
    | .ok parsed =>
      match Settings.ofEnvironment around.home around.variables with
      | .error (.refused issues) => .finished ⟨2, "", Settings.renderIssues issues⟩
      | .error .noHome => .failed .noHome
      | .ok settings => planWith around.time (parsed.apply settings) parsed.words

-- An expression is echoed, and its answer decides the exit code.
def runExpression (session : Session) (text : String) : Except CalcError RunResult := do
  let (answer, output) ← session.answer text
  return ⟨if answer.succeeded then 0 else 1, ⟨"? " ++ text ++ "\n", ""⟩ ++ output⟩

-- A whole run over a stream of input.
def run (around : Surroundings) (arguments : List String) (input : String) :
    Except CalcError RunResult :=
  match plan around arguments with
  | .finished result => .ok result
  | .failed e => .error e
  | .expression session opening text => do
    let result ← runExpression session text
    return { result with output := opening ++ result.output }
  | .interactive session opening _ => do
    let output ← session.transcript (Event.ofStream input)
    return ⟨0, opening ++ output⟩

end CommandLine

end FractionCalculator
