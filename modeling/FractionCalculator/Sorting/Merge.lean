import FractionCalculator.Sorting.Search

namespace FractionCalculator.Sorting

variable {α ε : Type}

-- Two runs on the way to becoming one, each with the items still to be placed, in the order of the
-- course. The last item that is kept comes behind all the others.
structure Merging (α : Type) where
  kept : List α
  others : List α
  -- The latest one first.
  placed : List α

namespace Merging

def finished (m : Merging α) : Bool :=
  m.others.isEmpty || m.kept.length ≤ 1

-- All items, once the merge is finished.
def result (m : Merging α) : List α :=
  m.placed.reverse ++ m.others ++ m.kept

def placeKept (m : Merging α) (count : Nat) : Merging α :=
  { m with kept := m.kept.drop count, placed := (m.kept.take count).reverse ++ m.placed }

def placeOthers (m : Merging α) (count : Nat) : Merging α :=
  { m with others := m.others.drop count, placed := (m.others.take count).reverse ++ m.placed }

-- Places all kept items that come before the next other one, and then that one. Counts the kept
-- ones.
def strideKept (course : Course) (otherFirst : α → α → Except ε Bool) (m : Merging α) :
    Except ε (Nat × Merging α) :=
  match m.others with
  | [] => return (0, m)
  | other :: _ => do
    let count ← gallop course (fun kept => (otherFirst kept other).map (!·)) m.kept
    let m := m.placeKept count
    return (count, if m.finished then m else m.placeOthers 1)

-- Places all other items that come before the next kept one, and then that one. Counts the others.
def strideOthers (course : Course) (otherFirst : α → α → Except ε Bool) (m : Merging α) :
    Except ε (Nat × Merging α) :=
  match m.kept with
  | [] => return (0, m)
  | kept :: _ => do
    let count ← gallop course (otherFirst kept) m.others
    let m := m.placeOthers count
    return (count, if m.finished then m else m.placeKept 1)

-- Two strides, unless the first one finishes the merge. Tells whether one of them was long.
def inTurn (first second : Merging α → Except ε (Nat × Merging α)) (m : Merging α) :
    Except ε (Bool × Merging α) := do
  let (count, m) ← first m
  if m.finished then return (false, m)
  let (count', m) ← second m
  return (7 ≤ count || 7 ≤ count', m)

-- A stride from each run, the left run of the two first.
def strides (course : Course) (otherFirst : α → α → Except ε Bool) :
    Merging α → Except ε (Bool × Merging α) :=
  match course with
  | .forward => inTurn (strideKept course otherFirst) (strideOthers course otherFirst)
  | .backward => inTurn (strideOthers course otherFirst) (strideKept course otherFirst)

end Merging

-- A merge goes on item by item, with the number that one run has given in a row, or in strides.
inductive Pace where
  | walk (otherGave : Bool) (inRow : Nat)
  | stride

-- Goes on until the merge is finished. Strides begin when one run has given as many items in a row
-- as the patience allows, and end when they are short. Long ones lower the patience. Each round
-- places an item, so as many rounds as there are items suffice.
def Merging.run (course : Course) (otherFirst : α → α → Except ε Bool) :
    Nat → Pace → Nat → Merging α → Except ε (List α × Nat)
  | 0, _, patience, m => return (m.result, patience)
  | rounds + 1, .walk otherGave inRow, patience, m =>
    match m.kept, m.others with
    | kept :: _ :: _, other :: _ => do
      let fromOthers ← otherFirst kept other
      let inRow := if fromOthers = otherGave then inRow + 1 else 1
      let pace := if patience ≤ inRow then Pace.stride else .walk fromOthers inRow
      run course otherFirst rounds pace patience
        (if fromOthers then m.placeOthers 1 else m.placeKept 1)
    | _, _ => return (m.result, patience)
  | rounds + 1, .stride, patience, m => do
    if m.finished then return (m.result, patience)
    let (long, m) ← Merging.strides course otherFirst m
    if m.finished then return (m.result, patience)
    if long then
      run course otherFirst rounds .stride (if 1 < patience then patience - 1 else patience) m
    else run course otherFirst rounds (.walk false 0) (patience + 1) m

-- Merges two runs of which the first item comes from the right one and the last from the left one.
-- The shorter run is kept aside, and the merge starts at its own end.
def mergeCrossed (lt : α → α → Except ε Bool) (patience : Nat) (left right : List α) :
    Except ε (List α × Nat) := do
  let rounds := left.length + right.length
  if left.length ≤ right.length then
    (Merging.placeOthers ⟨left, right, []⟩ 1).run .forward (fun kept other => lt other kept)
      rounds (.walk false 0) patience
  else
    let (items, patience) ←
      (Merging.placeOthers ⟨right.reverse, left.reverse, []⟩ 1).run .backward lt
        rounds (.walk false 0) patience
    return (items.reverse, patience)

-- Merges two ascending runs into one. Equal items keep their order. What the left run holds below
-- the right one, and the right one above the left one, stays in place.
def merge (lt : α → α → Except ε Bool) (patience : Nat) (left right : List α) :
    Except ε (List α × Nat) :=
  match right with
  | [] => return (left, patience)
  | first :: _ => do
    let below ← gallop .forward (fun item => (lt first item).map (!·)) left
    match left.getLast? with
    | none => return (right, patience)
    | some last =>
      if left.length ≤ below then return (left ++ right, patience)
      let above ← gallop .backward (fun item => (lt item last).map (!·)) right.reverse
      let crossing := right.length - above
      if crossing = 0 then return (left ++ right, patience)
      let (items, patience) ← mergeCrossed lt patience (left.drop below) (right.take crossing)
      return (left.take below ++ items ++ right.drop crossing, patience)

end FractionCalculator.Sorting
