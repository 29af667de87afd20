import FractionCalculator.Log
import FractionCalculator.Settings.Basic
import FractionCalculator.Text.Split

namespace FractionCalculator

-- What is written to the two output channels.
structure Output where
  out : String
  err : String
deriving DecidableEq

namespace Output

def empty : Output :=
  ⟨"", ""⟩

def append (a b : Output) : Output :=
  ⟨a.out ++ b.out, a.err ++ b.err⟩

instance : Append Output :=
  ⟨append⟩

end Output

-- What one line comes to.
inductive Answer
  | result (text : String)
  | diagnostic (text : String)
deriving DecidableEq

namespace Answer

def text : Answer → String
  | result text => text
  | diagnostic text => text

def succeeded : Answer → Bool
  | result _ => true
  | diagnostic _ => false

-- Results and diagnostics go to different channels.
def output : Answer → Output
  | result text => ⟨"= " ++ text ++ "\n", ""⟩
  | diagnostic text => ⟨"", text ++ "\n"⟩

-- An expression's own faults become diagnostics. Any other error stays one.
def ofSolution : Except CalcError String → Except CalcError Answer
  | .ok text => .ok (result text)
  | .error e =>
    match e.reportName? with
    | some _ => .ok (diagnostic ("! Error evaluating expression: " ++ e.message))
    | none => .error e

end Answer

def answerLine (mode : RenderMode) (line : String) : Except CalcError Answer :=
  Answer.ofSolution (solve mode line)

def answerLineOption (mode : RenderMode) (line : Option String) : Except CalcError Answer :=
  Answer.ofSolution (solveOption mode line)

-- What answering a line leaves in the log.
def answerLog (mode : RenderMode) (line : String) : List LogRecord :=
  let failure :=
    match solve mode line with
    | .ok _ => []
    | .error e =>
      e.reportName?.toList.map fun name =>
        ⟨.session, "Failed to evaluate " ++ Text.quote line ++ ": " ++ name ++ ": " ++ e.message⟩
  solvingLog line ++ failure

-- What a reader delivers when it is asked for a line.
inductive Event
  | line (text : String)
  | interrupt
  | endOfInput
deriving DecidableEq

-- A calculator in use. With a time of day it shows its log.
structure Session where
  mode : RenderMode
  prompt : String
  logTime : Option String
deriving DecidableEq

namespace Session

def ofSettings (s : Settings) : Session :=
  ⟨s.renderMode, s.prompt, none⟩

def showLog (s : Session) (records : List LogRecord) : Output :=
  match s.logTime with
  | some time => ⟨"", String.join (records.map fun r => r.render time ++ "\n")⟩
  | none => .empty

-- The answer to a line, after what it leaves in the log.
def answer (s : Session) (line : String) : Except CalcError (Answer × Output) := do
  let answer ← answerLine s.mode line
  return (answer, s.showLog (answerLog s.mode line) ++ answer.output)

-- What an event makes the session write. A blank line and the end of input end it.
def respond (s : Session) : Event → Except CalcError (Option Output)
  | .interrupt => .ok (some ⟨"^C\n", ""⟩)
  | .endOfInput => .ok none
  | .line text =>
    let line := Text.trim text
    if line = "" then .ok none else (s.answer line).map fun answered => some answered.2

-- What is written after each time a line was asked for, and the events left unread. The end of
-- the events is the end of input.
def run (s : Session) : List Event → Except CalcError (List Output × List Event)
  | [] => .ok ([.empty], [])
  | event :: rest => do
    match ← s.respond event with
    | none => return ([.empty], rest)
    | some output =>
      let (outputs, unread) ← s.run rest
      return (output :: outputs, unread)

-- All that a session writes when the prompt goes to the output too.
def transcript (s : Session) (events : List Event) : Except CalcError Output := do
  let (outputs, _) ← s.run events
  return outputs.foldl (fun written output => written ++ ⟨s.prompt, ""⟩ ++ output) .empty

end Session

-- Where lines come from: an editor at a terminal, which keeps a history, or a stream.
inductive Reader
  | editor (historyFile : Option FilePath)
  | stream
deriving DecidableEq

def Reader.choose (terminal : Bool) (s : Settings) : Reader :=
  if terminal then editor s.historyFile else stream

-- The events of a stream, one for each of its lines.
def Event.ofStream (text : String) : List Event :=
  (Text.lines text).map line

end FractionCalculator
