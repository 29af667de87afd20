import FractionCalculator.Text.Split

namespace FractionCalculator

-- Where home directories are: that of the user, and those of the accounts known by name.
structure Home where
  directory : String
  accounts : List (String × String)

-- A home directory alone, where no account is known by name.
instance : Coe String Home :=
  ⟨fun directory => ⟨directory, []⟩⟩

-- Why there is no home directory for a name.
inductive HomeFault
  | nullInName
  | noDirectory
deriving DecidableEq

namespace Home

-- A directory without the slashes at its end. The root keeps one.
def stripped (directory : String) : String :=
  match directory.toList.reverse.dropWhile (· = '/') with
  | [] => "/"
  | cs => String.ofList cs.reverse

-- The home directory of an account, and without a name that of the user. One that starts with a
-- tilde itself cannot be told from a name that is not known, and counts as none.
def directory? (home : Home) (account : List Char) : Option String :=
  let entered? :=
    if account = [] then some home.directory else home.accounts.lookup (String.ofList account)
  (entered?.map stripped).filter fun directory => directory.toList.head? ≠ some '~'

-- A name that holds the null character cannot even be looked up.
def ofAccount (home : Home) (account : List Char) : Except HomeFault String :=
  if account.contains '\x00' then .error .nullInName
  else
    match home.directory? account with
    | some directory => .ok directory
    | none => .error .noDirectory

end Home

-- A path as its leading slashes and the names between slashes.
structure FilePath where
  slashes : Nat
  names : List String
deriving DecidableEq

namespace FilePath

-- Two leading slashes have a meaning of their own, and any other number counts as one. Empty names
-- and single dots lead nowhere.
def ofText (text : String) : FilePath :=
  let cs := text.toList
  let leading := (cs.takeWhile (· = '/')).length
  let names := (Text.pieces '/' cs).filter fun name => name ≠ [] ∧ name ≠ ['.']
  ⟨if leading ≤ 2 then leading else 1, names.map String.ofList⟩

def render (path : FilePath) : String :=
  if path.slashes = 0 ∧ path.names = [] then "."
  else String.ofList (List.replicate path.slashes '/') ++ "/".intercalate path.names

-- Names below a home directory.
def under (directory : String) (names : List String) : FilePath :=
  let start := ofText directory
  { start with names := start.names ++ names }

-- The account whose home directory a relative path starts from, without a name if it is the user's.
def account? (path : FilePath) : Option (List Char) :=
  match path.slashes, path.names with
  | 0, name :: _ =>
    match name.toList with
    | '~' :: account => some account
    | _ => none
  | _, _ => none

-- A leading tilde stands for a home directory.
def expandHome (home : Home) (path : FilePath) : Except HomeFault FilePath :=
  match path.account? with
  | some account =>
    (home.ofAccount account).map fun directory => under directory path.names.tail
  | none => .ok path

end FilePath

end FractionCalculator
