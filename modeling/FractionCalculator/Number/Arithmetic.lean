import FractionCalculator.Number.Exact

namespace FractionCalculator

namespace Exact

def negation : Number → Exact
  | .nan => settled .nan
  | .infinite negative => settled (.infinite !negative)
  | .finite num den => ratio (-num) den

-- Zero has no reciprocal, not even an infinite one.
def reciprocal : Number → Exact
  | .nan => settled .nan
  | .infinite _ => settled .zero
  | .finite num den => if num = 0 then settled .nan else ratio den num

-- Finite summands meet over the least common denominator.
def sum : Number → Number → Exact
  | .nan, _ => settled .nan
  | _, .nan => settled .nan
  | .infinite s, .infinite t => settled (if s = t then .infinite s else .nan)
  | .infinite s, _ => settled (.infinite s)
  | _, .infinite t => settled (.infinite t)
  | .finite a b, .finite c d =>
    let shared := b.gcd d
    let left : Int := b / shared
    let right : Int := d / shared
    ratio (left * c + right * a) (left * right * shared)

-- An infinity times zero is zero, and two infinities have no product. Finite factors are
-- cancelled crosswise before they are multiplied.
def product : Number → Number → Exact
  | .nan, _ => settled .nan
  | _, .nan => settled .nan
  | .infinite _, .infinite _ => settled .nan
  | .infinite s, .finite num _ => settled (scaled s num)
  | .finite num _, .infinite s => settled (scaled s num)
  | .finite a b, .finite c d =>
    let first := a.gcd d
    let second := Int.gcd b c
    ratio (a / first * (c / second)) (b / second * (d / first))
where
  scaled (negative : Bool) (num : Int) : Number :=
    if num = 0 then .zero else .infinite (negative != decide (num < 0))

end Exact

namespace Number

def ofInt (value : Int) : Number :=
  (Exact.ofInt value).fit

def negate (x : Number) : Number :=
  (Exact.negation x).fit

def reciprocal (x : Number) : Number :=
  (Exact.reciprocal x).fit

def add (x y : Number) : Number :=
  (Exact.sum x y).fit

def subtract (x y : Number) : Number :=
  x.add y.negate

def multiply (x y : Number) : Number :=
  (Exact.product x y).fit

def divide (x y : Number) : Number :=
  x.multiply y.reciprocal

def abs (x : Number) : Number :=
  if x.numerator < 0 then x.negate else x

end Number

end FractionCalculator
