import FractionCalculator.Session.CommandLine

namespace FractionCalculator

def Output.write (o : Output) : IO Unit := do
  IO.print o.out
  (← IO.getStdout).flush
  IO.eprint o.err

-- The nearest environment file, looked for in the working directory and then upwards.
def findEnvironmentFile : Nat → String → IO (Option String)
  | 0, _ => return none
  | depth + 1, directory => do
    try
      return some (← IO.FS.readFile (directory ++ ".env"))
    catch _ => findEnvironmentFile depth ("../" ++ directory)

-- The variables of the program's own fields, where the system does not list them all.
def readOwnVariables : IO Environment :=
  SettingsField.all.filterMapM fun field => do
    return (← IO.getEnv field.variableName).map fun value => (field.variableName, value)

-- All variables of the program, as the system lists them.
def readEnvironment : IO Environment := do
  try
    let text ← IO.FS.readFile "/proc/self/environ"
    return (Text.pieces '\x00' text.toList).filterMap fun entry =>
      (Text.cut '=' entry).map fun (name, value) => (String.ofList name, String.ofList value)
  catch _ => readOwnVariables

-- The accounts of the system with their home directories.
def readAccounts : IO (List (String × String)) := do
  try
    let text ← IO.FS.readFile "/etc/passwd"
    return (Text.lines text).filterMap fun line =>
      match Text.pieces ':' line.toList with
      | name :: _ :: _ :: _ :: _ :: directory :: _ =>
        some (String.ofList name, String.ofList directory)
      | _ => none
  catch _ => return []

-- The log counts milliseconds from the start of the run.
def clock (start : Nat) : IO String := do
  return toString ((← IO.monoMsNow) - start)

def reportError (e : CalcError) : IO UInt32 := do
  IO.eprintln e.message
  return 1

-- Asks for lines until the session ends.
partial def converse (start : Nat) (session : Session) : IO UInt32 := do
  Output.write ⟨session.prompt, ""⟩
  let text ← (← IO.getStdin).getLine
  let event := if text.isEmpty then Event.endOfInput else Event.line text
  let time ← clock start
  match { session with logTime := session.logTime.map fun _ => time }.respond event with
  | .error e => reportError e
  | .ok none => return 0
  | .ok (some output) =>
    output.write
    converse start session

def runProgram (arguments : List String) : IO UInt32 := do
  let start ← IO.monoMsNow
  let around : Surroundings :=
    { home := ⟨(← IO.getEnv "HOME").getD "/", ← readAccounts⟩
      environment := ← readEnvironment
      environmentFile := ← findEnvironmentFile 64 ""
      time := ← clock start }
  match CommandLine.plan around arguments with
  | .finished result =>
    result.output.write
    return result.exitCode.toUInt32
  | .failed e => reportError e
  | .expression session opening text =>
    opening.write
    match CommandLine.runExpression session text with
    | .error e => reportError e
    | .ok result =>
      result.output.write
      return result.exitCode.toUInt32
  | .interactive session opening _ =>
    opening.write
    converse start session

end FractionCalculator

def main (arguments : List String) : IO UInt32 :=
  FractionCalculator.runProgram arguments
