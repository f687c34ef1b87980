/-
**Sorting by a comparison that may fail.**

A list is cut into runs from its start.  Which neighbouring runs are merged next depends on where they
lie in the list: the border between two runs has a level, and a border is merged away before a new one
of lower level is added.  Where any two elements can be compared, the result is the stable order.

Main definitions:

* `BlockSketch.Order.borderLevel` — the level of the border between two runs;
* `BlockSketch.Order.Pile` — the runs that have been found so far;
* `BlockSketch.Order.sort` — the sorted list, or the first failure of a comparison.
-/

import BlockSketch.Order.Merge
import BlockSketch.Order.Run

set_option relaxedAutoImplicit false
set_option autoImplicit false

namespace BlockSketch.Order

variable {α ε : Type} (before : α → α → Except ε Bool)

/-! ### Sizes -/

/-- The least length of the runs of a list of a length: the length itself below 64, and otherwise its
six leading binary digits, with one more if there are others that are not zero. -/
def leastRun (length : Nat) (more : Nat := 0) : Nat :=
  if length < 64 then length + more else leastRun (length / 2) (max more (length % 2))
termination_by length

/-- The level of the border between two runs: the number of binary digits up to the first in which their
middles, as parts of the whole, differ.  The middles are given twofold. -/
def borderLevel (whole : Nat) : (digits left right : Nat) → Nat
  | 0, _, _ => 0
  | digits + 1, left, right =>
    if whole ≤ left then borderLevel whole digits (2 * (left - whole)) (2 * (right - whole)) + 1
    else if whole ≤ right then 1
    else borderLevel whole digits (2 * left) (2 * right) + 1

/-! ### Piles of runs -/

/-- A run that waits to be merged. -/
structure Waiting (α : Type) where
  /-- The position of its first element in the list. -/
  start : Nat
  run : List α
  /-- The level of the border to the next run. -/
  level : Nat := 0

/-- The runs that wait, the last one first, and the number of wins that it takes to gallop. -/
structure Pile (α : Type) where
  runs : List (Waiting α) := []
  wins : Nat := usualWins

/-- Merges the last two runs as long as the border between them is above a level. -/
def mergeAbove (level : Nat) (wins : Nat) : List (Waiting α) → Except ε (Pile α)
  | last :: next :: rest =>
    if level < next.level then do
      let (run, wins) ← mergeRuns before wins next.run last.run
      mergeAbove level wins ({ next with run } :: rest)
    else .ok ⟨last :: next :: rest, wins⟩
  | runs => .ok ⟨runs, wins⟩
termination_by runs => runs.length

/-- Adds a run to those of a list of a length. -/
def Pile.add (whole : Nat) (p : Pile α) (run : List α) : Except ε (Pile α) :=
  match p.runs with
  | [] => .ok { p with runs := [⟨0, run, 0⟩] }
  | last :: _ => do
    let left := 2 * last.start + last.run.length
    let level := borderLevel whole whole left (left + last.run.length + run.length)
    let p ← mergeAbove before level p.wins p.runs
    match p.runs with
    | last :: rest =>
      let start := last.start + last.run.length
      return { p with runs := ⟨start, run, 0⟩ :: { last with level } :: rest }
    | [] => return p

/-- Merges all runs, of three always the shorter outer one with that in the middle. -/
def mergeAll (wins : Nat) : List (Waiting α) → Except ε (List α)
  | last :: next :: third :: rest =>
    if third.run.length < last.run.length then do
      let (run, wins) ← mergeRuns before wins third.run next.run
      mergeAll wins (last :: { third with run } :: rest)
    else do
      let (run, wins) ← mergeRuns before wins next.run last.run
      mergeAll wins ({ next with run } :: third :: rest)
  | [last, next] => do
    let (run, _) ← mergeRuns before wins next.run last.run
    return run
  | [last] => .ok last.run
  | [] => .ok []
termination_by runs => runs.length

/-! ### Sorting -/

/-- Cuts a list into at most so many runs and adds them to a pile. -/
def pileUp (whole : Nat) : (count : Nat) → Pile α → List α → Except ε (Pile α)
  | 0, p, _ => .ok p
  | count + 1, p, l =>
    if l.isEmpty then .ok p
    else do
      let (run, others) ← longRun before (leastRun whole) l
      let p ← p.add before whole run
      pileUp whole count p others

/-- Sorts a list. -/
def sort (l : List α) : Except ε (List α) := do
  let p ← pileUp before l.length l.length {} l
  mergeAll before p.wins p.runs

end BlockSketch.Order
