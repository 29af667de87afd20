import FractionCalculator.Sorting.Search

namespace FractionCalculator.Sorting

variable {α ε : Type}

-- The least length of every run but the last: the number of items divided by two until it is below
-- 64, and one more if any division left a remainder. The number of such runs is then a power of
-- two, or just below one.
def shortestRun (count : Nat) (remainder : Bool) : Nat :=
  if _h : count < 64 then if remainder then count + 1 else count
  else shortestRun (count / 2) (remainder || count % 2 == 1)
termination_by count

-- Puts an item into an ascending run, behind its equals.
def insertItem (lt : α → α → Except ε Bool) (run : List α) (item : α) : Except ε (List α) := do
  let k ← halve .forward (fun other => (lt item other).map (!·)) run 0 run.length
  return run.take k ++ item :: run.drop k

-- The longest beginning, after `last`, whose neighbours all compare in the wanted way, and the
-- rest.
def stretch (lt : α → α → Except ε Bool) (descending : Bool) (last : α) :
    List α → Except ε (List α × List α)
  | [] => .ok ([], [])
  | item :: rest => do
    if (← lt item last) = descending then
      let (run, rest) ← stretch lt descending item rest
      return (item :: run, rest)
    else return ([], item :: rest)

-- An ascending run from the start of a list, and the rest. A beginning that already ascends, or
-- strictly descends, is taken whole. If it is too short, the items behind it are inserted.
def nextRun (lt : α → α → Except ε Bool) (shortest : Nat) : List α → Except ε (List α × List α)
  | first :: second :: rest => do
    let descending ← lt second first
    let (more, rest) ← stretch lt descending second rest
    let run := first :: second :: more
    let lacking := shortest - run.length
    let run ← (rest.take lacking).foldlM (insertItem lt) (if descending then run.reverse else run)
    return (run, rest.drop lacking)
  | items => return (items, [])

end FractionCalculator.Sorting
