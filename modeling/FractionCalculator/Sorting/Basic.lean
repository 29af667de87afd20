import FractionCalculator.Sorting.Run
import FractionCalculator.Sorting.Merge

namespace FractionCalculator.Sorting

variable {α ε : Type}

-- A run that waits to be merged with the one before it. The deeper the boundary between the two,
-- the sooner.
structure Pending (α : Type) where
  items : List α
  depth : Nat

-- How often a row of items is to be halved until two places in it fall into different parts. Both
-- places are given doubled.
def boundaryDepth (count first second : Nat) : Nat → Nat
  | 0 => 0
  | halvings + 1 =>
    if first / count = second / count then boundaryDepth count (2 * first) (2 * second) halvings + 1
    else 1

-- Merges the latest runs while their boundary is deeper than the next one. The latest comes first.
def mergeDeeper (lt : α → α → Except ε Bool) (depth patience : Nat) (latest : Pending α) :
    List (Pending α) → Except ε (List (Pending α) × Nat)
  | [] => return ([latest], patience)
  | earlier :: others => do
    if depth < latest.depth then
      let (items, patience) ← merge lt patience earlier.items latest.items
      mergeDeeper lt depth patience ⟨items, earlier.depth⟩ others
    else return (latest :: earlier :: others, patience)

-- Merges all runs. Of three, the outer one that is shorter goes first.
def mergeAll (lt : α → α → Except ε Bool) (patience : Nat) :
    List (Pending α) → Except ε (List α)
  | [] => return []
  | [run] => return run.items
  | [latest, earlier] => return (← merge lt patience earlier.items latest.items).1
  | latest :: earlier :: earliest :: others => do
    if earliest.items.length < latest.items.length then
      let (items, patience) ← merge lt patience earliest.items earlier.items
      mergeAll lt patience (latest :: ⟨items, earliest.depth⟩ :: others)
    else
      let (items, patience) ← merge lt patience earlier.items latest.items
      mergeAll lt patience (⟨items, earlier.depth⟩ :: earliest :: others)
termination_by runs => runs.length

-- Splits the items from a position on into runs, of which some are merged at once. Each run takes
-- an item, so as many runs as there are items suffice.
def collect (lt : α → α → Except ε Bool) (count : Nat) :
    Nat → Nat → Nat → List (Pending α) → List α → Except ε (List α)
  | 0, _, patience, runs, _ => mergeAll lt patience runs
  | _ + 1, _, patience, runs, [] => mergeAll lt patience runs
  | more + 1, position, patience, runs, items => do
    let (run, rest) ← nextRun lt (shortestRun count false) items
    let next := position + run.length
    match runs with
    | [] => collect lt count more next patience [⟨run, 0⟩] rest
    | latest :: others =>
      let depth :=
        boundaryDepth count (2 * position - latest.items.length) (2 * position + run.length) count
      let (runs, patience) ← mergeDeeper lt depth patience latest others
      collect lt count more next patience (⟨run, depth⟩ :: runs) rest

-- The items in ascending order, equal ones as they stood. Which items are compared, and when, is
-- fixed: it decides which failing comparison is reported.
def sort (lt : α → α → Except ε Bool) (items : List α) : Except ε (List α) :=
  collect lt items.length items.length 0 7 [] items

end FractionCalculator.Sorting
