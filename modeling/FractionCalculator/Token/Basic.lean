import FractionCalculator.Number.Render

namespace FractionCalculator

inductive Operator
  | add
  | subtract
  | multiply
  | divide
deriving DecidableEq

namespace Operator

def symbol : Operator → String
  | add => "+"
  | subtract => "-"
  | multiply => "*"
  | divide => "/"

-- The operator of higher rank binds tighter.
def rank : Operator → Nat
  | add => 1
  | subtract => 1
  | multiply => 2
  | divide => 2

-- Typographic signs are accepted beside the plain ones, except for addition.
def spellings : Operator → List String
  | add => ["+"]
  | subtract => ["-", "−"]
  | multiply => ["*", "×"]
  | divide => ["/", "÷"]

def all : List Operator :=
  [add, subtract, multiply, divide]

def ofSpelling? (text : String) : Option Operator :=
  all.find? fun op => op.spellings.contains text

def describe (op : Operator) : String :=
  "OP[" ++ op.symbol ++ "|" ++ toString op.rank ++ "]"

end Operator

-- A value keeps the text it was written as.
inductive Token
  | value (number : Number) (text : String)
  | operator (op : Operator)
deriving DecidableEq

namespace Token

def ofNumber (mode : RenderMode) (number : Number) : Token :=
  value number (number.render mode)

-- Tokens agree when they mean the same, however their values were written.
def agrees : Token → Token → Bool
  | value x _, value y _ => x = y
  | operator o, operator p => o = p
  | _, _ => false

def describe : Token → String
  | value number _ => "VALUE[" ++ number.render .ratio ++ "]"
  | operator op => op.describe

def describeAll (tokens : List Token) : String :=
  " ".intercalate (tokens.map describe)

end Token

end FractionCalculator
