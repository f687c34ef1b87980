/-
**The slots of a graph.**

Each slot of a block leads to at most one other block: the target of the first link that leaves the
block by the slot and has both ends in the graph.  Further links of the slot are reported, once.

Main definitions:

* `BlockSketch.SlotTable` — the slots that lead somewhere, with the reports;
* `BlockSketch.SlotTable.target?` — where a slot leads;
* `BlockSketch.Graph.slotTable` — the table of a graph.
-/

import BlockSketch.Graph.Normal
import BlockSketch.Program.Fault

set_option relaxedAutoImplicit false
set_option autoImplicit false

namespace BlockSketch

/-- The slots that lead somewhere, each with its source and target, in the order of their links. -/
structure SlotTable where
  links : List (String × Slot × String) := []
  faults : List Fault := []

namespace SlotTable

/-- Where a slot leads. -/
def target? (t : SlotTable) (source : String) (slot : Slot) : Option String :=
  (t.links.find? fun l => l.1 == source && l.2.1 == slot).map fun l => l.2.2

/-- Reports that a slot has more than one link, unless this has been said. -/
def report (t : SlotTable) (source : String) (slot : Slot) : SlotTable :=
  let fault := Fault.multipleOutputs source slot
  if (t.faults.map Fault.message).contains fault.message then t
  else { t with faults := t.faults ++ [fault] }

/-- Enters a link into the table. -/
def add (nodes : List Node) (t : SlotTable) (e : Edge) : SlotTable :=
  if (nodeById? nodes e.source).isSome && (nodeById? nodes e.target).isSome then
    let slot := e.slotIn nodes
    match t.target? e.source slot with
    | some _ => t.report e.source slot
    | none => { t with links := t.links ++ [(e.source, slot, e.target)] }
  else t

end SlotTable

/-- The slots of a graph. -/
def Graph.slotTable (g : Graph) : SlotTable :=
  g.edges.foldl (SlotTable.add g.nodes) {}

end BlockSketch
