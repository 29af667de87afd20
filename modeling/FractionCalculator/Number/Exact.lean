import FractionCalculator.Number.Basic
import FractionCalculator.Number.Nearest

namespace FractionCalculator

-- The outcome of an operation before it has to fit into words.
inductive Exact
  | settled (value : Number)
  | ratio (num den : Int)
deriving DecidableEq

-- A fraction in lowest terms whose denominator did not fit, and what it became.
structure Rounding where
  num : Int
  den : Nat
  result : Ratio
deriving DecidableEq

-- Lowest terms, with the sign in the numerator.
def lowestTerms (num den : Int) : Int × Nat :=
  let divisor := Int.gcd num den
  ((if den < 0 then -num else num) / divisor, den.natAbs / divisor)

-- Values above the largest word are infinite, and so are those below the smallest.
def Ratio.saturate (f : Ratio) : Number :=
  if f.num > wordMax then Number.posInfinity
  else if f.num < wordMin then Number.negInfinity
  else Number.finite f.num f.den.toNat

namespace Exact

-- The range decision: the denominator is rounded first, then the numerator saturates. A constructor
-- announces the rounding before it decides, and fails there if the announcement cannot be written.
def fit : Exact → Number
  | settled value => value
  | ratio num den =>
    let (n, d) := lowestTerms num den
    if d = 0 then Number.nan
    else if d ≤ wordMax then Ratio.saturate ⟨n, d⟩
    else (Ratio.nearest wordMax n d).saturate

-- The rounding that the range decision makes.
def rounding? : Exact → Option Rounding
  | settled _ => none
  | ratio num den =>
    let (n, d) := lowestTerms num den
    if d ≤ wordMax then none else some ⟨n, d, Ratio.nearest wordMax n d⟩

def roundings (e : Exact) : List Rounding :=
  e.rounding?.toList

def ofInt (value : Int) : Exact :=
  ratio value 1

-- Over zero only the sign of the numerator counts.
def ofRatio (num den : Int) : Exact :=
  if den = 0 then
    settled (if num > 0 then Number.posInfinity
      else if num < 0 then Number.negInfinity else Number.nan)
  else ratio num den

-- The whole part gives the sign, and when it is zero the numerator does. All other signs are
-- ignored. Over zero there is no value.
def ofMixed (whole num den : Int) : Exact :=
  let size : Int := whole.natAbs * den.natAbs + num.natAbs
  ratio (if whole < 0 ∨ (whole = 0 ∧ num < 0) then -size else size) den.natAbs

end Exact

end FractionCalculator
