import FractionCalculator.Error

namespace FractionCalculator

-- An integer that is short enough to be written out.
def isWritable (n : Int) : Bool :=
  n.natAbs < Nat.pow 10 digitLimit

-- A rounding is announced, so it fails when its announcement cannot be written.
def Exact.toNumber (e : Exact) : Except CalcError Number :=
  match e.rounding? with
  | some r => if isWritable r.num && isWritable r.den then .ok e.fit else .error .digitsUnwritable
  | none => .ok e.fit

namespace Number

def ofRatio (num den : Int) : Except CalcError Number :=
  (Exact.ofRatio num den).toNumber

def ofMixed (whole num den : Int) : Except CalcError Number :=
  (Exact.ofMixed whole num den).toNumber

end Number

end FractionCalculator
