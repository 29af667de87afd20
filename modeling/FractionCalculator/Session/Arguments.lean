import FractionCalculator.Settings.Basic
import FractionCalculator.Text.Digit

namespace FractionCalculator

-- What the command line asks for.
structure Arguments where
  mixed : Bool
  logLevel : Option LogLevel
  noHistory : Bool
  words : List String
deriving DecidableEq

inductive Flag
  | help
  | mixed
  | logLevel
  | noHistory
deriving DecidableEq

namespace Flag

def long : Flag → String
  | help => "--help"
  | mixed => "--mixed"
  | logLevel => "--log-level"
  | noHistory => "--no-history"

-- One-letter spellings, after a single dash.
def letters : Flag → List Char
  | help => ['h', '?']
  | _ => []

-- The name in messages lists all spellings.
def label : Flag → String
  | help => "-h/--help/-?"
  | flag => flag.long

def all : List Flag :=
  [help, mixed, logLevel, noHistory]

def isHelpLetter (c : Char) : Bool :=
  help.letters.contains c

end Flag

-- Why the arguments cannot be used.
inductive UsageFault
  | ambiguous (argument : String) (candidates : List Flag)
  | missingValue (flag : Flag)
  | unexpectedValue (flag : Flag) (value : String)
  | unknownLevel (value : String)
  | unrecognized (arguments : List String)
deriving DecidableEq

def UsageFault.message : UsageFault → String
  | ambiguous argument candidates =>
    "ambiguous option: " ++ argument ++ " could match " ++
      ", ".intercalate (candidates.map Flag.long)
  | missingValue flag => "argument " ++ flag.label ++ ": expected one argument"
  | unexpectedValue flag value =>
    "argument " ++ flag.label ++ ": ignored explicit argument " ++ Text.quote value
  | unknownLevel value =>
    "argument " ++ Flag.logLevel.label ++ ": invalid choice: " ++ Text.quote value ++
      " (choose from " ++ ", ".intercalate (LogLevel.all.map fun l => Text.quote l.name) ++ ")"
  | unrecognized arguments => "unrecognized arguments: " ++ " ".intercalate arguments

-- How an argument reads by itself. A flag may have a value attached, and so may a help letter.
inductive Reading
  | word
  | separator
  | flag (flag : Flag) (attached : Option String)
  | helpLetter (attached : Option (List Char))
  | unknown
deriving DecidableEq

-- A minus sign and a number. It may end in a line feed.
def isNegativeNumber (cs : List Char) : Bool :=
  let isDigits (ds : List Char) := ds ≠ [] && ds.all Text.isDecimalDigit
  match cs with
  | '-' :: rest =>
    let body := if rest.getLast? = some '\n' then rest.dropLast else rest
    match Text.cut '.' body with
    | none => isDigits body
    | some (units, decimals) => units.all Text.isDecimalDigit && isDigits decimals
  | _ => false

namespace Reading

-- What is left to try when an argument names no flag.
def ofOther (cs : List Char) : Reading :=
  if isNegativeNumber cs || cs.contains ' ' then word else unknown

-- Flags may be abbreviated as long as only one fits.
def ofName (argument : String) (name : List Char) (attached : Option String) :
    Except UsageFault Reading :=
  match Flag.all.filter fun flag => name.isPrefixOf flag.long.toList with
  | [] => .ok (ofOther argument.toList)
  | [unique] => .ok (flag unique attached)
  | candidates => .error (.ambiguous argument candidates)

-- The value of a flag may follow an equals sign.
def ofDashes (argument : String) : Except UsageFault Reading :=
  match Text.cut '=' argument.toList with
  | some (name, value) => ofName argument name (some (String.ofList value))
  | none => ofName argument argument.toList none

def ofDash (cs : List Char) : Reading :=
  match cs with
  | _ :: c :: rest =>
    if Flag.isHelpLetter c then
      match rest with
      | [] => helpLetter none
      | '=' :: value => helpLetter (some value)
      | value => helpLetter (some value)
    else ofOther cs
  | _ => word

def ofArgument (argument : String) : Except UsageFault Reading :=
  match argument.toList with
  | '-' :: '-' :: _ => ofDashes argument
  | '-' :: rest => .ok (ofDash ('-' :: rest))
  | _ => .ok word

-- Each argument with its reading. Behind a separator all are words.
def ofArguments : List String → Except UsageFault (List (String × Reading))
  | [] => .ok []
  | argument :: rest =>
    if argument = "--" then .ok ((argument, separator) :: rest.map (·, word))
    else do
      let reading ← ofArgument argument
      let readings ← ofArguments rest
      return (argument, reading) :: readings

end Reading

-- Help was asked for, or the arguments are at fault.
inductive ArgumentsStop
  | help
  | fault (fault : UsageFault)
deriving DecidableEq

namespace Arguments

def start : Arguments :=
  ⟨false, none, false, []⟩

-- A value of two dashes counts as no value.
def setLevel (a : Arguments) (value : String) : Except ArgumentsStop Arguments :=
  if value = "--" then .ok { a with logLevel := none }
  else
    let name := Text.toUpper value
    match LogLevel.ofName? name with
    | some level => .ok { a with logLevel := some level }
    | none => .error (.fault (.unknownLevel name))

-- Help letters can be written together, and nothing else can follow one.
def helpLetters : List Char → ArgumentsStop
  | [] => .fault (.unexpectedValue .help "")
  | [c] => if Flag.isHelpLetter c then .help else .fault (.unexpectedValue .help c.toString)
  | c :: rest =>
    if Flag.isHelpLetter c then helpLetters rest
    else .fault (.unexpectedValue .help (String.ofList (c :: rest)))

-- Flags take effect from left to right, and the first word or separator begins the expression.
-- What no flag explains is reported only at the end.
def collect (a : Arguments) (unrecognized : List String) :
    List (String × Reading) → Except ArgumentsStop Arguments
  | [] => if unrecognized = [] then .ok a else .error (.fault (.unrecognized unrecognized))
  | (argument, reading) :: rest =>
    match reading, rest with
    | .word, _ | .separator, _ =>
      if unrecognized = [] then .ok { a with words := argument :: rest.map Prod.fst }
      else .error (.fault (.unrecognized unrecognized))
    | .unknown, rest => collect a (unrecognized ++ [argument]) rest
    | .helpLetter none, _ => .error .help
    | .helpLetter (some value), _ => .error (helpLetters value)
    | .flag .logLevel (some value), rest => do collect (← a.setLevel value) unrecognized rest
    | .flag .logLevel none, (value, .word) :: rest => do
      collect (← a.setLevel value) unrecognized rest
    | .flag .logLevel none, _ => .error (.fault (.missingValue .logLevel))
    | .flag flag (some value), _ => .error (.fault (.unexpectedValue flag value))
    | .flag .help none, _ => .error .help
    | .flag .mixed none, rest => collect { a with mixed := true } unrecognized rest
    | .flag .noHistory none, rest => collect { a with noHistory := true } unrecognized rest

-- All arguments up to a separator are read before any takes effect.
def parse (arguments : List String) : Except ArgumentsStop Arguments := do
  let readings ← (Reading.ofArguments arguments).mapError ArgumentsStop.fault
  collect start [] readings

-- Flags win over settings.
def apply (a : Arguments) (s : Settings) : Settings where
  renderMode := if a.mixed then .mixed else s.renderMode
  logLevel := a.logLevel.getD s.logLevel
  historyFile := if a.noHistory then none else s.historyFile
  prompt := s.prompt

end Arguments

end FractionCalculator
