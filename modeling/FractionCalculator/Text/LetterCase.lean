import FractionCalculator.Text.CaseTable
import FractionCalculator.Text.Printable

namespace FractionCalculator.Text

-- The character that the first row holding it sends it to.
def shifted (rows : List (Nat × Nat × Nat × Int)) (c : Char) : Char :=
  match rows.find? fun (first, last, stride, _) =>
      first ≤ c.toNat && c.toNat ≤ last && (c.toNat - first) % stride == 0 with
  | some (_, _, _, offset) => Char.ofNat (c.toNat + offset).toNat
  | none => c

def mapLetter (long : List (Nat × List Nat)) (rows : List (Nat × Nat × Nat × Int))
    (c : Char) : List Char :=
  match long.lookup c.toNat with
  | some codes => codes.map Char.ofNat
  | none => [shifted rows c]

def capital (c : Char) : List Char :=
  mapLetter longCapitals capitalRows c

def small (c : Char) : List Char :=
  mapLetter longSmalls smallRows c

-- The nearest character that is not passed over is a letter with case.
def facesLetter (cs : List Char) : Bool :=
  match cs.dropWhile (inRanges caseIgnorableRanges) with
  | [] => false
  | c :: _ => inRanges casedRanges c

-- A capital sigma at the end of a word has a small form of its own. What stands before the rest
-- is kept nearest character first.
def smallsAfter (before : List Char) : List Char → List Char
  | [] => []
  | c :: rest =>
    let form :=
      if c = 'Σ' then [if facesLetter before && !facesLetter rest then 'ς' else 'σ'] else small c
    form ++ smallsAfter (c :: before) rest

def toUpper (text : String) : String :=
  String.ofList (text.toList.flatMap capital)

def toLower (text : String) : String :=
  String.ofList (smallsAfter [] text.toList)

end FractionCalculator.Text
