import FractionCalculator.Number.Exact

namespace FractionCalculator

-- How fractions beyond one are written.
inductive RenderMode
  | ratio
  | mixed
deriving DecidableEq

def RenderMode.name : RenderMode → String
  | ratio => "ratio"
  | mixed => "mixed"

def RenderMode.ofName? (name : String) : Option RenderMode :=
  if name = "ratio" then some ratio else if name = "mixed" then some mixed else none

namespace Number

def infinityText (negative : Bool) : String :=
  if negative then "-Infinity" else "+Infinity"

-- A whole number stands alone. In mixed form a fraction beyond one shows its whole part, which
-- then carries the sign.
def render (mode : RenderMode) : Number → String
  | nan => "NaN"
  | infinite negative => infinityText negative
  | finite num den =>
    if den = 1 then toString num
    else if mode = .mixed ∧ num.natAbs > den then
      toString (num.tdiv den) ++ "_" ++ toString (num.natAbs % den) ++ "/" ++ toString den
    else toString num ++ "/" ++ toString den

-- The form that log records use.
def describe : Number → String
  | nan => "Rational.NaN"
  | infinite negative =>
    if negative then "Rational.NEGATIVE_INFINITY" else "Rational.POSITIVE_INFINITY"
  | finite num den => "Rational(" ++ toString num ++ ", " ++ toString den ++ ")"

end Number

def Ratio.render (f : Ratio) : String :=
  if f.den = 1 then toString f.num else toString f.num ++ "/" ++ toString f.den

def Rounding.message (r : Rounding) : String :=
  "Denominator of " ++ toString r.num ++ "/" ++ toString r.den ++ " out of range, rounded to " ++
    r.result.render

end FractionCalculator
