import FractionCalculator.Error

namespace FractionCalculator.Number

-- The integer part of a finite number, on the side of zero.
def toInteger : Number → Except CalcError Int
  | nan => .error .nanToInteger
  | infinite _ => .error .infinityToInteger
  | finite num den => .ok (num.tdiv den)

-- The nearest integer of a range.
def clamp (low high n : Int) : Int :=
  if n < low then low else if n > high then high else n

-- The integer next to the number that a signed word of that many bits can hold.
def toSigned (bits : Nat) (x : Number) : Except CalcError Int :=
  let half : Int := Nat.pow 2 (bits - 1)
  x.toInteger.map (clamp (-half) (half - 1))

-- The whole part of the mixed form, which carries the sign.
def mixedWhole : Number → Except CalcError Int
  | finite num den => .ok (num.tdiv den)
  | _ => .error .noMixedForm

-- The numerator of the fractional part of the mixed form, which has no sign.
def mixedNumerator : Number → Except CalcError Nat
  | finite num den => .ok (num.natAbs % den)
  | _ => .error .noMixedForm

-- The nearest binary64 number. Both parts of a fraction are exact in binary64, so one division
-- rounds correctly.
def toFloat : Number → Float
  | nan => 0.0 / 0.0
  | infinite negative => if negative then -1.0 / 0.0 else 1.0 / 0.0
  | finite num den => Float.ofInt num / Float.ofNat den

end FractionCalculator.Number
