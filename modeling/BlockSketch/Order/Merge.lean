/-
**Merging runs.**

Two neighbouring runs are merged element by element.  When one of them wins again and again, the merge
gallops: the elements that go next are then counted by doubling steps and by halving, and moved as a
whole.  How many wins it takes is learned, from one merge to the next.

The elements are taken from the front, or from the back if the right run is the shorter one.  A merge
from the back is one from the front of the runs turned round, with the two runs in exchanged roles.

Main definitions:

* `BlockSketch.Order.gallop` — how many elements at the front of a list pass a test;
* `BlockSketch.Order.Merging` — how far a merge has come;
* `BlockSketch.Order.mergeRuns` — two runs merged, with the wins that the next merge takes to gallop.
-/

set_option relaxedAutoImplicit false
set_option autoImplicit false

namespace BlockSketch.Order

variable {α ε : Type}

/-! ### Galloping -/

/-- Doubles the step while the element that it leads to passes the test.  Gives the bounds within which
the first element that does not pass is. -/
def widen (test : α → Except ε Bool) (l : List α) (low step : Nat) : Except ε (Nat × Nat) :=
  if h : step < l.length then do
    let passes ← test (l.get ⟨step, h⟩)
    if passes then widen test l (step + 1) (2 * step + 1) else return (low, step)
  else .ok (low, l.length)
termination_by l.length - step

/-- Halves the bounds within which the first element is that does not pass the test.  Of two elements in
the middle the nearer one is taken in a list that is turned round. -/
def narrow (turned : Bool) (test : α → Except ε Bool) (l : List α) (low high : Nat) :
    Except ε Nat :=
  if low < high then
    let middle := low + (high - low - (if turned then 1 else 0)) / 2
    match l[middle]? with
    | none => .ok low
    | some a => do
      let passes ← test a
      if passes then narrow turned test l (middle + 1) high else narrow turned test l low middle
  else .ok low
termination_by high - low
decreasing_by
  all_goals
    cases turned <;> simp <;> omega

/-- How many elements at the front of a list pass a test that some pass and the others do not. -/
def gallop (turned : Bool) (test : α → Except ε Bool) : List α → Except ε Nat
  | [] => .ok 0
  | a :: rest => do
    let passes ← test a
    if passes then
      let (low, high) ← widen test (a :: rest) 1 1
      narrow turned test (a :: rest) low high
    else return 0

/-! ### Merging -/

/-- The number of wins after which a merge gallops at first, and that galloping has to bring. -/
def usualWins : Nat :=
  7

/-- How far a merge has come: the elements in their place, the last one first, and those to come. -/
structure Merging (α : Type) where
  placed : List α := []
  left : List α
  right : List α

namespace Merging

/-- The elements to come, if their order is settled: a run is used up, or the left one has only its
greatest element left. -/
def rest? (m : Merging α) : Option (List α) :=
  match m.left, m.right with
  | [], right => some right
  | left, [] => some left
  | [a], right => some (right ++ [a])
  | _, _ => none

/-- Moves elements from the front of a run. -/
def move (m : Merging α) (fromLeft : Bool) (count : Nat) : Merging α :=
  if m.rest?.isSome then m
  else if fromLeft then
    { m with placed := (m.left.take count).reverse ++ m.placed, left := m.left.drop count }
  else { m with placed := (m.right.take count).reverse ++ m.placed, right := m.right.drop count }

/-- How many elements of a run go before the first element of the other one. -/
def wins (before : α → α → Except ε Bool) (turned : Bool) (m : Merging α) (fromLeft : Bool) :
    Except ε Nat :=
  match m.rest?, m.left, m.right with
  | none, a :: _, b :: _ =>
    if fromLeft then gallop turned (fun x => (before b x).map (!·)) m.left
    else gallop turned (fun x => before x a) m.right
  | _, _, _ => .ok 0

end Merging

/-- How a merge goes on. -/
inductive Pace where
  /-- Element by element, after so many wins of the left and the right run. -/
  | single (left right : Nat)
  /-- By galloping, for the first time in a row or again. -/
  | gallop (again : Bool)

/-- Merges for at most so many steps, each of which moves an element.  The result comes with the number
of wins that it takes to gallop. -/
def mergeFor (before : α → α → Except ε Bool) (turned : Bool) :
    (steps wins : Nat) → Pace → Merging α → Except ε (List α × Nat)
  | 0, wins, _, m => .ok (m.placed.reverse ++ m.left ++ m.right, wins)
  | steps + 1, wins, pace, m =>
    match m.rest?, pace, m.left, m.right with
    | none, .single left right, a :: _, b :: _ => do
      let isBefore ← before b a
      let count := if isBefore then right + 1 else left + 1
      let pace : Pace :=
        if wins ≤ count then .gallop false
        else if isBefore then .single 0 count
        else .single count 0
      mergeFor before turned steps wins pace (m.move (!isBefore) 1)
    | none, .gallop again, _, _ => do
      let wins := if again then max 1 (wins - 1) else wins
      let first ← m.wins before turned (!turned)
      let m := (m.move (!turned) first).move turned 1
      let second ← m.wins before turned turned
      let m := (m.move turned second).move (!turned) 1
      if usualWins ≤ first || usualWins ≤ second then
        mergeFor before turned steps wins (.gallop true) m
      else
        mergeFor before turned steps (if m.rest?.isSome then wins else wins + 1) (.single 0 0) m
    | rest, _, _, _ => .ok (m.placed.reverse ++ rest.getD [], wins)

/-- Merges two lists, the first element of the right one being before that of the left one. -/
def mergeLists (before : α → α → Except ε Bool) (turned : Bool) (wins : Nat) (left right : List α) :
    Except ε (List α × Nat) :=
  mergeFor before turned (left.length + right.length) wins (.single 0 0)
    (({ left, right } : Merging α).move false 1)

/-- Merges two runs.  The elements at the outer ends that are in their place already are left there. -/
def mergeRuns (before : α → α → Except ε Bool) (wins : Nat) (left right : List α) :
    Except ε (List α × Nat) :=
  match left.getLast?, right.head? with
  | some last, some first => do
    let settled ← gallop false (fun x => (before first x).map (!·)) left
    let lower := left.take settled
    let left := left.drop settled
    if left.isEmpty then return (lower ++ right, wins)
    let settled ← gallop true (fun x => (before x last).map (!·)) right.reverse
    let upper := right.drop (right.length - settled)
    let right := right.take (right.length - settled)
    if right.isEmpty then return (lower ++ left ++ upper, wins)
    if left.length ≤ right.length then
      let (merged, wins) ← mergeLists before false wins left right
      return (lower ++ merged ++ upper, wins)
    else
      let (merged, wins) ←
        mergeLists (fun x y => before y x) true wins right.reverse left.reverse
      return (lower ++ merged.reverse ++ upper, wins)
  | _, _ => .ok (left ++ right, wins)

end BlockSketch.Order
