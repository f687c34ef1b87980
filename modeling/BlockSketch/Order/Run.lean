/-
**Runs.**

Not all elements of a list need be comparable: a comparison may fail, and an element may be neither
before nor after others.  Sorting then depends on which elements are compared, so this is fixed: a list
is cut into runs, short runs are filled up by bringing further elements to their place, and the runs are
merged.

Main definitions:

* `BlockSketch.Order.firstRun` — the run at the start of a list, and what comes after it;
* `BlockSketch.Order.insert` — bringing one element to its place;
* `BlockSketch.Order.longRun` — a run of at least a given length.
-/

set_option relaxedAutoImplicit false
set_option autoImplicit false

namespace BlockSketch.Order

variable {α ε : Type} (before : α → α → Except ε Bool)

/-- Splits the list after an element where the run of the element ends.  In a falling run each element
is before the last one, and in a rising run none is. -/
def splitRun (falling : Bool) : α → List α → Except ε (List α × List α)
  | _, [] => .ok ([], [])
  | a, b :: rest => do
    let isBefore ← before b a
    if isBefore = falling then
      let (run, others) ← splitRun falling b rest
      return (b :: run, others)
    else return ([], b :: rest)

/-- The run at the start of a list, and what comes after it.  A falling run is turned round. -/
def firstRun : List α → Except ε (List α × List α)
  | a :: b :: rest => do
    let falling ← before b a
    let (run, others) ← splitRun before falling b rest
    let run := a :: b :: run
    return (if falling then run.reverse else run, others)
  | short => .ok (short, [])

/-- Brings an element to its place in a run: before the middle element or after it, and so on in that
half. -/
def insert (a : α) (run : List α) : Except ε (List α) :=
  if h : run.length = 0 then .ok [a]
  else do
    have hmiddle : run.length / 2 < run.length := by omega
    let lower := run.take (run.length / 2)
    let middle := run.get ⟨run.length / 2, hmiddle⟩
    let upper := run.drop (run.length / 2 + 1)
    let isBefore ← before a middle
    if isBefore then
      let placed ← insert a lower
      return placed ++ middle :: upper
    else
      let placed ← insert a upper
      return lower ++ middle :: placed
termination_by run.length
decreasing_by
  all_goals
    simp only [List.length_take, List.length_drop]
    omega

/-- A run at the start of a list that has a given length or more, unless the list is shorter, and what
comes after it. -/
def longRun (length : Nat) (l : List α) : Except ε (List α × List α) := do
  let (run, others) ← firstRun before l
  let missing := length - run.length
  let filled ← (others.take missing).foldlM (fun run a => insert before a run) run
  return (filled, others.drop missing)

end BlockSketch.Order
