/-
**Normal graphs.**

A normal graph has a setup and a loop block, every block with a tag is drawn as a block, and every
link has a slot and two handles.  A link that names no slot leaves a root to its body and any other
block to the one that follows.

Main definitions:

* `BlockSketch.Edge.slotIn` — the slot of a link, named or not;
* `BlockSketch.ensureRoots` — the blocks with the missing roots at the end;
* `BlockSketch.Edge.typeIn` — the link with its slot and handles;
* `BlockSketch.Graph.normalize` — the normal graph.
-/

import BlockSketch.Graph.Basic

set_option relaxedAutoImplicit false
set_option autoImplicit false

namespace BlockSketch

/-- The slot by which a link leaves its source among the given blocks. -/
def Edge.slotIn (nodes : List Node) (e : Edge) : Slot :=
  match e.namedSlot? with
  | some s => s
  | none => if (nodeById? nodes e.source).any Node.isRoot then .body else .next

/-- The block, drawn as one if it has a tag. -/
def Node.drawn (n : Node) : Node :=
  if n.blockType.isSome then { n with renderType := some visualBlock } else n

/-- The id of a new root: the tag of its kind, or one derived from it if that is taken. -/
def rootId (nodes : List Node) (k : Kind) : String :=
  if nodes.any fun n => n.id == k.tag then k.tag ++ "_root" else k.tag

/-- The height at which a new root is placed. -/
def rootY : Kind → Int
  | .setup => 60
  | _ => 160

/-- The blocks, with a root of the given kind at the end if there is none. -/
def ensureRoot (k : Kind) (nodes : List Node) : List Node :=
  if nodes.any fun n => n.hasKind k then nodes
  else nodes ++ [Node.create k (rootId nodes k) (.int 60) (.int (rootY k))]

/-- The blocks, with the roots that are missing at the end. -/
def ensureRoots (nodes : List Node) : List Node :=
  ensureRoot .loop (ensureRoot .setup nodes)

/-- The blocks of a normal graph. -/
def normalNodes (nodes : List Node) : List Node :=
  ensureRoots (nodes.map Node.drawn)

/-- The link with its slot and both handles; a handle that is there and not empty is kept. -/
def Edge.typeIn (nodes : List Node) (e : Edge) : Edge :=
  let slot := e.slotIn nodes
  { e with
    slot := some slot
    sourceHandle := some ((e.sourceHandle.bind nonEmpty?).getD slot.tag)
    targetHandle := some ((e.targetHandle.bind nonEmpty?).getD arrivalHandle) }

/-- The normal graph of a graph. -/
def Graph.normalize (g : Graph) : Graph :=
  let nodes := normalNodes g.nodes
  { g with nodes := nodes, edges := g.edges.map (Edge.typeIn nodes) }

end BlockSketch
