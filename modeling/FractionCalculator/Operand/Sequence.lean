import FractionCalculator.Operand.Operators
import FractionCalculator.Sorting.Basic

namespace FractionCalculator.Operand

-- The items in ascending order. The first comparison that fails decides on the error.
def sort (items : List Operand) : Except CalcError (List Operand) :=
  Sorting.sort Relation.lt.holds items

-- The items without repetitions, each as it was first written.
def dedupe (items : List Operand) : List Operand :=
  items.foldl (fun kept item => if kept.any (·.same item) then kept else kept ++ [item]) []

end FractionCalculator.Operand
