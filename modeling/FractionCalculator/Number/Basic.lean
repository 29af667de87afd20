namespace FractionCalculator

-- The bounds of a signed 32-bit word.
def wordMax : Nat := 2147483647

def wordMin : Int := -2147483648

-- A fraction, one of two infinities, or the undefined value.
inductive Number
  | nan
  | infinite (negative : Bool)
  | finite (num : Int) (den : Nat)
deriving DecidableEq

namespace Number

def zero : Number := finite 0 1

def one : Number := finite 1 1

def maxValue : Number := finite wordMax 1

def minValue : Number := finite wordMin 1

def posInfinity : Number := infinite false

def negInfinity : Number := infinite true

-- A pair of words stands for every number. The special ones have denominator zero, and their
-- numerators are chosen so that negating them swaps the infinities.
def numerator : Number → Int
  | nan => 0
  | infinite negative => if negative then -wordMax else wordMax
  | finite num _ => num

def denominator : Number → Nat
  | finite _ den => den
  | _ => 0

def sign (x : Number) : Int :=
  x.numerator.sign

def isNaN : Number → Bool
  | nan => true
  | _ => false

def isInfinite : Number → Bool
  | infinite _ => true
  | _ => false

def isFinite : Number → Bool
  | finite _ _ => true
  | _ => false

def isZero (x : Number) : Bool :=
  x = zero

-- Every number but zero, NaN included, counts as true.
def toBool (x : Number) : Bool :=
  !x.isZero

-- The numbers that operations produce: a finite one is in lowest terms and both its parts fit.
def Canonical : Number → Prop
  | finite num den =>
    1 ≤ den ∧ den ≤ wordMax ∧ wordMin ≤ num ∧ num ≤ wordMax ∧ num.natAbs.gcd den = 1
  | _ => True

instance (x : Number) : Decidable x.Canonical := by
  cases x <;> unfold Canonical <;> infer_instance

end Number

end FractionCalculator
