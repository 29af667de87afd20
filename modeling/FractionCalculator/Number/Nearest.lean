namespace FractionCalculator

-- A fraction that no range limits.
structure Ratio where
  num : Int
  den : Int
deriving DecidableEq

-- Two consecutive convergents of a continued fraction.
structure Convergents where
  earlier : Ratio
  latest : Ratio
deriving DecidableEq

namespace Convergents

def start : Convergents :=
  ⟨⟨0, 1⟩, ⟨1, 0⟩⟩

-- The fraction reached from the earlier convergent by `count` steps of the latest.
def semi (c : Convergents) (count : Int) : Ratio :=
  ⟨c.earlier.num + count * c.latest.num, c.earlier.den + count * c.latest.den⟩

-- The pair that follows after one more partial quotient.
def push (c : Convergents) (quotient : Int) : Convergents :=
  ⟨c.latest, c.semi quotient⟩

-- Expands num / den until the next convergent's denominator would pass the limit. Quotients are
-- floors, so only the first can be negative.
def walk (limit : Nat) (num : Int) (den : Nat) (c : Convergents) : Convergents :=
  if _h : den = 0 then c
  else
    let next := c.push (num / den)
    if next.latest.den > limit then c
    else walk limit den (num % den).toNat next
termination_by den
decreasing_by
  have := Int.emod_lt_of_pos num (show (0 : Int) < den by omega)
  omega

-- The last fraction on the way to the next convergent whose denominator is within the limit.
def bound (c : Convergents) (limit : Nat) : Ratio :=
  c.semi ((limit - c.earlier.den) / c.latest.den)

end Convergents

namespace Ratio

-- The distance to num / den, in units of one over the product of both denominators.
def error (f : Ratio) (num : Int) (den : Nat) : Nat :=
  (f.num * den - num * f.den).natAbs

-- The fraction nearest to num / den with a denominator up to the limit. Of two at the same
-- distance the last convergent wins, which has the smaller denominator.
def nearest (limit : Nat) (num : Int) (den : Nat) : Ratio :=
  let c := Convergents.start.walk limit num den
  let other := c.bound limit
  if c.latest.error num den * other.den ≤ other.error num den * c.latest.den then c.latest
  else other

end Ratio

end FractionCalculator
