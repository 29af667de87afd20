import FractionCalculator.Text.PrintableTable

namespace FractionCalculator.Text

def inRanges (ranges : List (Nat × Nat)) (c : Char) : Bool :=
  ranges.any fun (first, last) => first ≤ c.toNat && c.toNat ≤ last

-- A printable character shows as itself on one line.
def isPrintable (c : Char) : Bool :=
  !inRanges unprintableRanges c

end FractionCalculator.Text
