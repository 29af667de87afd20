import FractionCalculator.Settings.Basic

namespace FractionCalculator

-- The characters of a text with the byte at which each begins.
def byteOffsets (start : Nat) : List Char → List (Nat × Char)
  | [] => []
  | c :: rest => (start, c) :: byteOffsets (start + c.utf8Size) rest

-- Assumed of the library that checks records: in its reports a text of more than fifty bytes shows
-- its first 25 and its last 24 bytes, less where a character would be cut.
def abridge (text : String) : String :=
  let size := text.utf8ByteSize
  if size ≤ 50 then text
  else
    let placed := byteOffsets 0 text.toList
    let head := placed.filter fun (start, c) => start + c.utf8Size ≤ 25
    let tail := placed.filter fun (start, _) => size - 24 ≤ start
    String.ofList (head.map Prod.snd) ++ "..." ++ String.ofList (tail.map Prod.snd)

-- Assumed of the library that checks records: it reports a refused field on two lines.
def SettingsIssue.render (e : SettingsIssue) : String :=
  let input :=
    match e.checked with
    | some value => ", input_value=" ++ abridge (Text.quote value) ++ ", input_type=str"
    | none => ""
  e.field.name ++ "\n  " ++ e.fault.message ++ " [type=" ++ e.fault.kind ++ input ++ "]\n"

namespace Settings

-- Assumed of the library that checks records: the report on all refusals counts them first.
def reportIssues (issues : List SettingsIssue) : String :=
  let plural := if issues.length = 1 then "" else "s"
  toString issues.length ++ " validation error" ++ plural ++ " for Settings\n" ++
    String.join (issues.map SettingsIssue.render)

-- What is said of a configuration that cannot be used.
def renderIssues (issues : List SettingsIssue) : String :=
  "Invalid configuration: " ++ reportIssues issues

def describeMode : RenderMode → String
  | .ratio => "<RenderMode.RATIO: 'ratio'>"
  | .mixed => "<RenderMode.MIXED: 'mixed'>"

def describeFile : Option FilePath → String
  | some path => "PosixPath(" ++ Text.quote path.render ++ ")"
  | none => "None"

-- The form that the log shows.
def describe (s : Settings) : String :=
  "Settings(render_mode=" ++ describeMode s.renderMode ++
    ", log_level=" ++ Text.quote s.logLevel.name ++
    ", history_file=" ++ describeFile s.historyFile ++
    ", prompt=" ++ Text.quote s.prompt ++ ")"

end Settings

end FractionCalculator
