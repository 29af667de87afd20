import FractionCalculator.Literal
import FractionCalculator.Token.Basic

namespace FractionCalculator.Token

-- A word that spells no operator has to be a literal.
def ofWord (word : String) : Except CalcError Token :=
  match Operator.ofSpelling? word with
  | some op => .ok (operator op)
  | none => (Number.parse word).map fun number => value number word

-- The tokens of a line, one for each of its words.
def ofLine (line : String) : Except CalcError (List Token) :=
  (Text.words line).mapM ofWord

def ofLineOption : Option String → Except CalcError (List Token)
  | some line => ofLine line
  | none => .error (.noInput .tokenize)

end FractionCalculator.Token
