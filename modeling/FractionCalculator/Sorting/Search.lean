namespace FractionCalculator.Sorting

variable {α ε : Type}

-- A stretch of items is searched and merged from one of its ends. Its list starts at that end.
inductive Course where
  | forward
  | backward

-- The position half way between two others. Between two middle ones it is the right one of the
-- stretch, from whichever end the list starts.
def Course.middle (course : Course) (lo hi : Nat) : Nat :=
  match course with
  | .forward => (lo + hi) / 2
  | .backward => (lo + hi - 1) / 2

theorem Course.middle_lt (course : Course) {lo hi : Nat} (h : lo < hi) :
    lo ≤ course.middle lo hi ∧ course.middle lo hi < hi := by
  cases course <;> simp only [middle] <;> omega

-- How many items at the start of the list pass a test that none passes behind the first failure.
-- The first `lo` are known to pass, and those from `hi` on to fail.
def halve (course : Course) (passes : α → Except ε Bool) (items : List α) (lo hi : Nat) :
    Except ε Nat :=
  if _h : lo < hi then
    match items[course.middle lo hi]? with
    | none => .ok lo
    | some item => do
      if ← passes item then halve course passes items (course.middle lo hi + 1) hi
      else halve course passes items lo (course.middle lo hi)
  else .ok lo
termination_by hi - lo
decreasing_by
  · have := course.middle_lt _h
    omega
  · have := course.middle_lt _h
    omega

-- Two positions between which the test turns: the last one seen to pass and the first one seen to
-- fail, or the end. The steps between the positions seen double.
def widen (passes : α → Except ε Bool) (items : List α) (last next : Nat) :
    Except ε (Nat × Nat) :=
  if _h : next < items.length then do
    if ← passes items[next] then widen passes items next (2 * next + 1)
    else return (last, next)
  else return (last, items.length)
termination_by items.length - next

-- The count that `halve` gives for the whole list, found with few tests if it is small.
def gallop (course : Course) (passes : α → Except ε Bool) : List α → Except ε Nat
  | [] => return 0
  | first :: rest => do
    if ← passes first then
      let (last, bound) ← widen passes (first :: rest) 0 1
      halve course passes (first :: rest) (last + 1) bound
    else return 0

end FractionCalculator.Sorting
