import FractionCalculator.Settings.Basic

namespace FractionCalculator.EnvironmentFile

-- A blank that does not end the line.
def isGap (c : Char) : Bool :=
  Text.isBlank c && c != '\n'

def skipGap (cs : List Char) : List Char :=
  cs.dropWhile isGap

-- An optional keyword before the name.
def skipExport (cs : List Char) : List Char :=
  if "export".toList.isPrefixOf cs then
    let rest := cs.drop 6
    if rest.head?.any isGap then skipGap rest else cs
  else cs

-- Reads up to the closing mark. A mark behind a backslash closes the value only if no other does.
def readQuoted (mark : Char) : List Char → Option (List Char × List Char)
  | [] => none
  | '\\' :: c :: rest =>
    match readQuoted mark rest with
    | some (value, rest) => some ('\\' :: c :: value, rest)
    | none => if c = mark then some (['\\'], rest) else none
  | c :: rest =>
    if c = mark then some ([], rest)
    else (readQuoted mark rest).map fun (value, rest) => (c :: value, rest)

def singleEscapes : List (Char × Char) :=
  [('\\', '\\'), ('\x27', '\x27')]

def doubleEscapes : List (Char × Char) :=
  [('\\', '\\'), ('\x27', '\x27'), ('\x22', '\x22'), ('a', '\x07'), ('b', '\x08'), ('f', '\x0C'),
    ('n', '\n'), ('r', '\r'), ('t', '\t'), ('v', '\x0B')]

def decodeEscapes (escapes : List (Char × Char)) : List Char → List Char
  | '\\' :: d :: rest =>
    match escapes.lookup d with
    | some c => c :: decodeEscapes escapes rest
    | none => '\\' :: decodeEscapes escapes (d :: rest)
  | c :: rest => c :: decodeEscapes escapes rest
  | [] => []

-- A comment starts with a mark that follows a blank, and the blanks before it belong to it.
def dropComment : List Char → List Char
  | [] => []
  | c :: rest =>
    if Text.isBlank c && (rest.dropWhile Text.isBlank).head? = some '#' then []
    else c :: dropComment rest

-- Reads what follows the equals sign. An unquoted value takes the line up to a comment, without
-- the blanks at its ends. A comment may follow the equals sign itself, if a blank divides them.
def readValue (cs : List Char) : Option (List Char × List Char) :=
  match skipGap cs with
  | '\x27' :: rest =>
    (readQuoted '\x27' rest).map fun (value, rest) => (decodeEscapes singleEscapes value, rest)
  | '\x22' :: rest =>
    (readQuoted '\x22' rest).map fun (value, rest) => (decodeEscapes doubleEscapes value, rest)
  | _ =>
    let line := cs.takeWhile (· != '\n')
    some (Text.trimEnds (dropComment line), cs.dropWhile (· != '\n'))

-- A name is quoted or runs up to a blank, an equals sign or a comment. A comment has no name.
def readName : List Char → Option (Option (List Char) × List Char)
  | '#' :: rest => some (none, '#' :: rest)
  | '\x27' :: rest =>
    match Text.cut '\x27' rest with
    | some (c :: name, rest) => some (some (c :: name), rest)
    | _ => none
  | cs =>
    let isName (c : Char) := c != '=' && c != '#' && !Text.isBlank c
    match cs.takeWhile isName with
    | [] => none
    | name => some (some name, cs.dropWhile isName)

def skipComment (cs : List Char) : List Char :=
  match skipGap cs with
  | '#' :: rest => rest.dropWhile (· != '\n')
  | _ => cs

def readLineEnd (cs : List Char) : Option (List Char) :=
  match skipGap cs with
  | [] => some []
  | '\n' :: rest => some rest
  | _ => none

-- What a statement leaves behind: its name with the value, if it has both, and where reading goes
-- on. A faulty statement leaves nothing and ends with its line.
structure Statement where
  name : Option (List Char)
  value : Option (List Char)
  rest : List Char

def dropLine (cs : List Char) : List Char :=
  match cs.dropWhile (· != '\n') with
  | [] => []
  | _ :: rest => rest

def readStatement (cs : List Char) : Statement :=
  let afterExport := skipExport (cs.dropWhile Text.isBlank)
  match readName afterExport with
  | none => ⟨none, none, dropLine afterExport⟩
  | some (name, afterName) =>
    let afterGap := skipGap afterName
    match afterGap with
    | '=' :: rest =>
      match readValue rest with
      | none => ⟨none, none, dropLine rest⟩
      | some (value, afterValue) =>
        let tail := skipComment afterValue
        match readLineEnd tail with
        | some rest => ⟨name, some value, rest⟩
        | none => ⟨none, none, dropLine tail⟩
    | _ =>
      let tail := skipComment afterGap
      match readLineEnd tail with
      | some rest => ⟨name, none, rest⟩
      | none => ⟨none, none, dropLine tail⟩

-- The statements up to the end of the text. Each one takes at least a character.
def readStatements (cs : List Char) : List Statement :=
  match cs with
  | [] => []
  | c :: cs =>
    let statement := readStatement (c :: cs)
    if _h : statement.rest.length ≤ cs.length then statement :: readStatements statement.rest
    else [statement]
termination_by cs.length
decreasing_by exact Nat.lt_succ_of_le ‹_›

-- A reference to a variable: its name, what stands in for a variable that is not set, and the text
-- behind the reference.
structure Reference where
  name : List Char
  fallback : List Char
  rest : List Char

-- A reference at the start of a text. The name ends at the first colon, which a dash has to follow.
def readReference : List Char → Option Reference
  | '$' :: '{' :: cs =>
    match Text.cut '}' cs with
    | none => none
    | some (body, rest) =>
      match body.dropWhile (· != ':') with
      | [] => some ⟨body, [], rest⟩
      | ':' :: '-' :: fallback => some ⟨body.takeWhile (· != ':'), fallback, rest⟩
      | _ => none
  | _ => none

theorem length_rest_lt {cs : List Char} {r : Reference} (h : readReference cs = some r) :
    r.rest.length < cs.length := by
  unfold readReference at h
  split at h
  · rename_i cs
    split at h
    · cases h
    · rename_i body rest hcut
      have hlength := Text.length_cut_lt hcut
      have hrest : r.rest = rest := by
        split at h <;> cases h <;> rfl
      rw [hrest, List.length_cons, List.length_cons]
      omega
  · cases h

-- A text with something put in for every reference.
def expand (resolve : Reference → List Char) : List Char → List Char
  | [] => []
  | c :: cs =>
    match _h : readReference (c :: cs) with
    | some r => resolve r ++ expand resolve r.rest
    | none => c :: expand resolve cs
termination_by cs => cs.length
decreasing_by
  · exact length_rest_lt ‹_›
  · exact Nat.lt_succ_self _

-- Variables already set come before those that the text has set so far. A name that the text has
-- without an equals sign stands for nothing.
def resolve (env : Environment) (known : List (String × Option String)) (r : Reference) :
    List Char :=
  match env.lookup (String.ofList r.name), known.lookup (String.ofList r.name) with
  | some value, _ => value.toList
  | none, some value => (value.getD "").toList
  | none, none => r.fallback

-- The variables that a text sets. The last statement on a name decides, and a name without an
-- equals sign is not set.
def parse (env : Environment) (text : String) : Environment :=
  let named := (readStatements (Text.unifyLineEnds text.toList)).filterMap fun s =>
    s.name.map fun name => (String.ofList name, s.value)
  let latest := named.foldl (fun known (name, value) =>
    (known.filter fun entry => entry.1 != name) ++
      [(name, value.map fun cs => String.ofList (expand (resolve env known) cs))]) []
  latest.filterMap fun (name, value) => value.map fun v => (name, v)

-- Variables already set keep their values.
def extend (env : Environment) (text : String) : Environment :=
  env ++ (parse env text).filter fun entry => (env.lookup entry.1).isNone

end FractionCalculator.EnvironmentFile
