/-
**Linear graphs.**

In a linear graph every block has one plain link to the next.  The chain of a root is read from its
first block on: a container opens a scope with the block after it, unless that one closes a scope
again, and an end block closes the innermost scope.  The reading yields typed links: from the root
to its first statement, from each statement of a scope to the next one, and from a container to the
first statement of its body.  End blocks are dropped.

A chain that comes back to one of its blocks is read up to that point.  End blocks at the start of a
chain are skipped; if they form a ring, there is no first statement to be found, and this is the one
way in which the upgrade fails.

Main definitions:

* `BlockSketch.follow?` — the block after a block;
* `BlockSketch.skipEnds?` — the first block of a chain that is no end block;
* `BlockSketch.Reading`, `BlockSketch.Reading.step`, `BlockSketch.Reading.run` — the reading of a
  chain, block by block;
* `BlockSketch.collectLinks` — the typed links, without repeats and self-links;
* `BlockSketch.Graph.migration`, `BlockSketch.Graph.migrate` — the upgrade of a graph.
-/

import BlockSketch.Graph.Normal

set_option relaxedAutoImplicit false
set_option autoImplicit false

namespace BlockSketch

/-- The block after a block: the target of the first link that leaves it. -/
def follow? (edges : List Edge) (id : String) : Option String :=
  (edges.find? fun e => e.source == id).map Edge.target

/-- Whether the id is that of an end block. -/
def isEndId (nodes : List Node) (id : String) : Bool :=
  (nodeById? nodes id).any Node.isEnd

/-- The first id of a chain that is not that of an end block; `none` within if the chain ends
before.  Without fuel there is no answer. -/
def skipEnds? (nodes : List Node) (edges : List Edge) :
    (fuel : Nat) → Option String → Option (Option String)
  | _, none => some none
  | 0, some id => if isEndId nodes id then none else some (some id)
  | fuel + 1, some id =>
    if isEndId nodes id then skipEnds? nodes edges fuel (follow? edges id) else some (some id)

/-- A link that a reading has found. -/
structure Link where
  source : String
  target : String
  slot : Slot
  deriving DecidableEq, Repr

/-- How far a chain has been read.  A scope is known by its last statement. -/
structure Reading where
  /-- The block to be read next. -/
  current : Option String
  /-- The last statement of the innermost scope. -/
  last : Option String := none
  /-- The last statements of the scopes around it, from the inside out. -/
  outer : List (Option String) := []
  /-- The blocks read so far. -/
  visited : List String := []
  /-- The links found so far. -/
  links : List Link := []
  /-- The block at which the chain came back to itself. -/
  revisit : Option String := none

namespace Reading

/-- Closes the innermost scope, unless it is that of the root. -/
def close (r : Reading) : Reading :=
  match r.outer with
  | [] => r
  | last :: outer => { r with last := last, outer := outer }

/-- Adds a statement to the innermost scope. -/
def addStatement (r : Reading) (id : String) : Reading :=
  { r with
    last := some id
    links := r.links ++ r.last.toList.map fun prev => ⟨prev, id, .next⟩ }

/-- Opens the scope of a container whose body starts with the given block. -/
def openScope (r : Reading) (container first : String) : Reading :=
  { r with
    last := none
    outer := r.last :: r.outer
    links := r.links ++ [⟨container, first, .body⟩] }

/-- The first block of a container's body: the one after it, if it is a block that closes nothing. -/
def bodyStart? (nodes : List Node) (node : Node) (following : Option String) : Option String :=
  if node.kind?.any Kind.isContainer then
    following.filter fun id => (nodeById? nodes id).any fun n => !n.isEnd
  else none

/-- Reads one block. -/
def step (nodes : List Node) (edges : List Edge) (r : Reading) : Reading :=
  match r.current with
  | none => r
  | some id =>
    if id ∈ r.visited then { r with current := none, revisit := some id }
    else
      let r := { r with visited := r.visited ++ [id] }
      match nodeById? nodes id with
      | none => { r with current := none }
      | some node =>
        let following := follow? edges id
        if node.isEnd then { r.close with current := following }
        else
          let r := r.addStatement id
          match bodyStart? nodes node following with
          | some first => { r.openScope id first with current := following }
          | none => { r with current := following }

/-- Reads as many blocks as there is fuel for. -/
def run (nodes : List Node) (edges : List Edge) : (fuel : Nat) → Reading → Reading
  | 0, r => r
  | fuel + 1, r => run nodes edges fuel (r.step nodes edges)

/-- The reading of the whole chain from its first statement.  No block is read twice, so one step
more than there are blocks is enough. -/
def ofChain (nodes : List Node) (edges : List Edge) (first : String) : Reading :=
  run nodes edges (nodes.length + 1) { current := some first }

end Reading

/-- The root whose chain starts with a ring of end blocks. -/
structure EndlessChain where
  root : String
  deriving DecidableEq, Repr

/-- The message of a failed upgrade. -/
def EndlessChain.message (e : EndlessChain) : String :=
  "The chain of '" ++ e.root ++ "' starts with a ring of end blocks."

/-- What the chains of the roots yield: links, and the blocks at which a chain came back to itself,
each with the root. -/
structure ChainLinks where
  links : List Link := []
  revisits : List (String × String) := []

/-- Reads the chain of one root. -/
def rootLinks (nodes : List Node) (edges : List Edge) (root : String) :
    Except EndlessChain ChainLinks :=
  match skipEnds? nodes edges nodes.length (follow? edges root) with
  | none => .error ⟨root⟩
  | some none => .ok {}
  | some (some first) =>
    if (nodeById? nodes first).isSome then
      let r := Reading.ofChain nodes edges first
      .ok ⟨⟨root, first, .body⟩ :: r.links, r.revisit.toList.map fun id => (root, id)⟩
    else .ok {}

/-- Reads the chains of the roots, one after the other. -/
def chainLinks (nodes : List Node) (edges : List Edge) :
    List String → Except EndlessChain ChainLinks
  | [] => .ok {}
  | root :: roots => do
    let a ← rootLinks nodes edges root
    let b ← chainLinks nodes edges roots
    return ⟨a.links ++ b.links, a.revisits ++ b.revisits⟩

/-- The typed links of the list after those already there: no self-links, and no link whose id is
taken. -/
def collectLinks : (seen : List Edge) → List Link → List Edge
  | seen, [] => seen
  | seen, l :: ls =>
    let e := Edge.typed l.source l.target l.slot
    if l.source = l.target ∨ seen.any (fun f => f.id == e.id) then collectLinks seen ls
    else collectLinks (seen ++ [e]) ls

/-- An upgraded graph, with what there is to tell about the upgrade. -/
structure Migration where
  graph : Graph
  /-- The roots whose chain came back to itself, each with the block where it did. -/
  revisits : List (String × String)
  /-- How many end blocks were dropped. -/
  endBlocks : Nat

/-- The ids of the roots, in the order of the blocks. -/
def rootIds (nodes : List Node) : List String :=
  (nodes.filter Node.isRoot).map Node.id

/-- Upgrades a linear graph. -/
def Graph.migration (g : Graph) : Except EndlessChain Migration := do
  let nodes := normalNodes g.nodes
  let found ← chainLinks nodes g.edges (rootIds nodes)
  let kept := nodes.filter fun n => !n.isEnd
  return {
    graph := { version := 2, nodes := kept, edges := collectLinks [] found.links }
    revisits := found.revisits
    endBlocks := nodes.length - kept.length }

/-- The graph in version 2.  A graph that is there already is made normal. -/
def Graph.migrate (g : Graph) : Except EndlessChain Graph :=
  if g.version = 2 then .ok g.normalize else g.migration.map Migration.graph

end BlockSketch
