import FractionCalculator.Error

namespace FractionCalculator.Number

-- The numeric order. It is undefined for NaN and between equal infinities.
def compare : Number → Number → Except CalcError Ordering
  | nan, _ => .error .nanCompared
  | _, nan => .error .nanCompared
  | infinite s, infinite t =>
    if s = t then .error .infinitiesCompared else .ok (if s then .lt else .gt)
  | infinite s, _ => .ok (if s then .lt else .gt)
  | _, infinite t => .ok (if t then .gt else .lt)
  | finite a b, finite c d => .ok (Ord.compare (a * d) (b * c))

-- A missing value comes after every number, NaN included.
def compareToOption (x : Number) : Option Number → Except CalcError Ordering
  | none => .ok .lt
  | some y => x.compare y

end FractionCalculator.Number
