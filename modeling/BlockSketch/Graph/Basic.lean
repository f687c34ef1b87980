/-
**Block graphs.**

A graph is a list of blocks and a list of links between them, both in the order in which they are
stored.  Blocks are found by their id; should several have the same one, the last is found.  What
the library does not read, such as positions and unknown tags, is kept with the block or link.

Main definitions:

* `BlockSketch.Node`, `BlockSketch.Edge`, `BlockSketch.Graph` — blocks, links and graphs;
* `BlockSketch.Node.kind?`, `BlockSketch.Node.title` — what a block is and how messages name it;
* `BlockSketch.nodeById?` — the block of an id;
* `BlockSketch.Node.create` — a new block with the parameters of the catalog;
* `BlockSketch.Edge.typed` — a new link with its slot.
-/

import BlockSketch.Block.Catalog

set_option relaxedAutoImplicit false
set_option autoImplicit false

namespace BlockSketch

/-- A block.  The tag is kept as it is stored, be it that of a kind or not; `extra` holds the data
that belongs to the editor. -/
structure Node where
  id : String
  blockType : Option String := none
  label : Option String := none
  params : Fields := []
  renderType : Option String := none
  extra : Fields := []
  deriving Inhabited

/-- A link from one block to another. -/
structure Edge where
  id : String
  source : String
  target : String
  slot : Option Slot := none
  sourceHandle : Option String := none
  targetHandle : Option String := none
  extra : Fields := []
  deriving Inhabited

/-- A graph.  Version 2 has typed links; any other version is linear. -/
structure Graph where
  version : Int := 2
  nodes : List Node := []
  edges : List Edge := []
  deriving Inhabited

/-- How the editor draws a block. -/
def visualBlock : String :=
  "visualBlock"

/-- The handle at which links arrive. -/
def arrivalHandle : String :=
  "in"

/-- A text, unless it is empty. -/
def nonEmpty? (s : String) : Option String :=
  if s = "" then none else some s

namespace Node

/-- The kind of a block, if its tag names one. -/
def kind? (n : Node) : Option Kind :=
  n.blockType.bind Kind.ofTag?

/-- Whether a block is of the given kind. -/
def hasKind (n : Node) (k : Kind) : Bool :=
  n.kind? == some k

/-- Whether a block is a root. -/
def isRoot (n : Node) : Bool :=
  n.kind?.any Kind.isRoot

/-- Whether a block closes a container of a linear graph. -/
def isEnd (n : Node) : Bool :=
  n.hasKind .endBlock

/-- The name of a block in messages: its label, else its tag, else its id. -/
def title (n : Node) : String :=
  ((n.label.bind nonEmpty?).or (n.blockType.bind nonEmpty?)).getD n.id

/-- A place on the canvas. -/
def position (x y : Value) : Fields :=
  [("position", .object [("x", x), ("y", y)])]

/-- A new block of a kind: the catalog gives its parameters, which `params` overrides, and its label
unless one is given. -/
def create (k : Kind) (id : String) (x y : Value) (label : Option String := none)
    (params : Fields := []) : Node where
  id := id
  blockType := some k.tag
  label := some (label.getD (Catalog.label k))
  params := Fields.setAll (Catalog.params k) params
  renderType := some visualBlock
  extra := position x y

end Node

/-- The last block of the given id. -/
def nodeById? : List Node → String → Option Node
  | [], _ => none
  | n :: ns, id =>
    match nodeById? ns id with
    | some m => some m
    | none => if n.id = id then some n else none

/-- The id of a typed link. -/
def typedId (source target : String) (slot : Slot) : String :=
  "v2_" ++ slot.tag ++ "_" ++ source ++ "_" ++ target

/-- A new link that leaves its source by the given slot. -/
def Edge.typed (source target : String) (slot : Slot) : Edge where
  id := typedId source target slot
  source := source
  target := target
  slot := some slot
  sourceHandle := some slot.tag
  targetHandle := some arrivalHandle

/-- The slot that a link names, by its stored slot or by its handle. -/
def Edge.namedSlot? (e : Edge) : Option Slot :=
  e.slot.or (e.sourceHandle.bind Slot.ofTag?)

namespace Graph

/-- The block of an id. -/
def node? (g : Graph) (id : String) : Option Node :=
  nodeById? g.nodes id

/-- Whether some link names its slot. -/
def hasTypedEdges (g : Graph) : Bool :=
  g.edges.any fun e => e.namedSlot?.isSome

end Graph

end BlockSketch
