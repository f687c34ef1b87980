/-
**What a program depends on.**

Of a block, building a program reads id, tag, label and parameters; of a link, its ends and the slot by
which it leaves, be it named or not.  The *bare* graph holds just that.  A graph and its bare graph have
one program: their slots are the same, and a walk finds the same blocks in the same order, so that it
claims, reports and yields the same.

Making a graph normal that has both roots changes only what is not part of the bare graph: how blocks
are drawn, handles, and whether the slot of a link is written down.  So it does not change the program.

Main definitions:

* `BlockSketch.Node.bare`, `BlockSketch.Edge.bareIn`, `BlockSketch.Graph.bare` — blocks, links and graphs
  without what only the editor reads.

Main results:

* `BlockSketch.Graph.slotTable_bare`, `BlockSketch.Blueprint.build_bare` — the slots and the walks are
  the same;
* `BlockSketch.Graph.build_bare` — **a program depends on the bare graph only**;
* `BlockSketch.Graph.build_normalize_eq` — **a graph with both roots and its normal graph have one
  program**.
-/

import BlockSketch.Proofs.NormalForm

set_option relaxedAutoImplicit false
set_option autoImplicit false

namespace BlockSketch

/-! ### Blocks and links -/

/-- The block without what only the editor reads. -/
def Node.bare (n : Node) : Node :=
  { n with renderType := none, extra := [] }

section Bare

variable (n : Node)

@[simp] theorem Node.id_bare : n.bare.id = n.id := rfl

@[simp] theorem Node.kind?_bare : n.bare.kind? = n.kind? := rfl

/-- Drawing a block makes no difference to it. -/
theorem Node.bare_drawn : n.drawn.bare = n.bare := by
  unfold drawn
  split <;> rfl

end Bare

/-- A change that keeps the ids of blocks is made to the block that is found. -/
theorem nodeById?_map {f : Node → Node} (hf : ∀ n, (f n).id = n.id) (ns : List Node) (id : String) :
    nodeById? (ns.map f) id = (nodeById? ns id).map f := by
  induction ns with
  | nil => rfl
  | cons n ns ih =>
      rw [List.map_cons, nodeById?_cons, nodeById?_cons, ih, hf, Option.map_or]
      split <;> rfl

theorem nodeById?_map_bare (ns : List Node) (id : String) :
    nodeById? (ns.map Node.bare) id = (nodeById? ns id).map Node.bare :=
  nodeById?_map Node.id_bare ns id

/-- The ends of a link, with the slot by which it leaves its source among the given blocks. -/
def Edge.bareIn (nodes : List Node) (e : Edge) : Edge where
  id := ""
  source := e.source
  target := e.target
  slot := some (e.slotIn nodes)

/-- The graph without what only the editor reads. -/
def Graph.bare (g : Graph) : Graph where
  nodes := g.nodes.map Node.bare
  edges := g.edges.map (Edge.bareIn g.nodes)

/-! ### Slots -/

/-- Entering a link does the same to the slots of the graph and of the bare graph. -/
theorem SlotTable.add_bare (nodes : List Node) (t : SlotTable) (e : Edge) :
    t.add (nodes.map Node.bare) (e.bareIn nodes) = t.add nodes e := by
  have hslot : (e.bareIn nodes).slotIn (nodes.map Node.bare) = e.slotIn nodes := rfl
  rw [add, hslot, nodeById?_map_bare, nodeById?_map_bare, Option.isSome_map, Option.isSome_map]
  rfl

namespace Graph

theorem slotTable_bare (g : Graph) : g.bare.slotTable = g.slotTable := by
  rw [slotTable, slotTable, bare, List.foldl_map]
  simp only [SlotTable.add_bare]

end Graph

/-! ### Walks -/

namespace Blueprint

/-- The blueprint without what only the editor reads. -/
def bare (b : Blueprint) : Blueprint where
  nodes := b.nodes.map Node.bare
  slots := b.slots

variable (b : Blueprint)

@[simp] theorem target?_bare : b.bare.target? = b.target? := rfl

theorem statement_bare (inner : Option ChainBuilder) (n : Node) (w : Walk) :
    b.bare.statement inner n.bare w = b.statement inner n w := rfl

/-- A chain is followed in the same way, block by block. -/
theorem chainFrom_bare (inner : Option ChainBuilder) (chain : Chain) (fuel : Nat)
    (visited : List String) (start : Option String) (w : Walk) :
    b.bare.chainFrom inner chain fuel visited start w =
      b.chainFrom inner chain fuel visited start w := by
  induction fuel generalizing visited start w with
  | zero => rfl
  | succ fuel ih =>
      cases start with
      | none => rfl
      | some id =>
          have hfind : nodeById? b.bare.nodes id = (nodeById? b.nodes id).map Node.bare :=
            nodeById?_map_bare b.nodes id
          rw [chainFrom, chainFrom, hfind]
          cases nodeById? b.nodes id with
          | none => rfl
          | some n =>
              simp only [Option.map_some, Node.kind?_bare, statement_bare, target?_bare, ih]

/-- The statements of a chain are the same, with what is claimed and reported on the way. -/
theorem build_bare (room : Nat) : b.bare.build room = b.build room := by
  have hlength : b.bare.nodes.length = b.nodes.length := List.length_map ..
  induction room with
  | zero =>
      funext chain start w
      rw [build, build, hlength]
      exact b.chainFrom_bare none chain _ [] start w
  | succ room ih =>
      funext chain start w
      rw [build, build, ih, hlength]
      exact b.chainFrom_bare (some (b.build room)) chain _ [] start w

end Blueprint

/-! ### Declarations -/

section Tables

variable (nodes : List Node)

theorem explicitGlobals_bare : explicitGlobals (nodes.map Node.bare) = explicitGlobals nodes := by
  rw [explicitGlobals, List.filter_map, List.filterMap_map]
  rfl

theorem explicitPinModes_bare : explicitPinModes (nodes.map Node.bare) = explicitPinModes nodes := by
  rw [explicitPinModes, List.filter_map, List.filterMap_map]
  rfl

theorem allGlobals_bare : allGlobals (nodes.map Node.bare) = allGlobals nodes := by
  funext as
  rw [allGlobals, explicitGlobals_bare, allGlobals]

end Tables

/-! ### Programs -/

namespace Graph

variable (g : Graph)

theorem blueprint_bare : g.bare.blueprint = g.blueprint.bare := by
  rw [blueprint, slotTable_bare]
  rfl

theorem root?_bare (k : Kind) : g.bare.root? k = (g.root? k).map Node.bare :=
  List.find?_map ..

theorem start?_bare (k : Kind) :
    g.bare.blueprint.start? (g.bare.root? k) = g.blueprint.start? (g.root? k) := by
  rw [blueprint_bare, root?_bare]
  cases g.root? k <;> rfl

theorem firstWalk_bare : g.bare.firstWalk = g.firstWalk := by
  rw [firstWalk, slotTable_bare, root?_bare, root?_bare, Option.isNone_map, Option.isNone_map]
  rfl

theorem walkSetup_bare : g.bare.walkSetup = g.walkSetup := by
  rw [walkSetup, start?_bare, firstWalk_bare, blueprint_bare, Blueprint.build_bare]
  rfl

theorem walkLoop_bare : g.bare.walkLoop = g.walkLoop := by
  rw [walkLoop, start?_bare, walkSetup_bare, blueprint_bare, Blueprint.build_bare]
  rfl

theorem unconnected_bare : g.bare.unconnected = g.unconnected := by
  funext claimed
  rw [unconnected, bare, List.filter_map, List.map_map]
  rfl

/-- **A program depends on the bare graph only.** -/
theorem build_bare : g.bare.build = g.build := by
  have hglobals := allGlobals_bare g.nodes
  have hpins := explicitPinModes_bare g.nodes
  have hnodes : g.bare.nodes = g.nodes.map Node.bare := rfl
  rw [build, build, walkSetup_bare, walkLoop_bare, unconnected_bare]
  simp only [globalTable, servoConflicts, pinTable, pinConflicts, pinUse, hnodes, hglobals, hpins]

/-! ### Normal graphs -/

variable {g}

/-- The slot of a link does not change when the blocks are drawn. -/
theorem slotIn_drawn (nodes : List Node) (e : Edge) :
    e.slotIn (nodes.map Node.drawn) = e.slotIn nodes := by
  have hroot (n : Node) : n.drawn.isRoot = n.isRoot := by
    rw [Node.isRoot, Node.kind?_drawn, Node.isRoot]
  rw [Edge.slotIn, nodeById?_map Node.id_drawn, Option.any_map]
  simp only [hroot]
  rfl

/-- Making a graph normal that has both roots does not change the bare graph. -/
theorem bare_normalize (h : ∀ k ∈ rootKinds, ∃ n ∈ g.nodes, n.hasKind k = true) :
    g.normalize.bare = g.bare := by
  have hnodes : normalNodes g.nodes = g.nodes.map Node.drawn := by
    rw [normalNodes_eq, newRoots_eq_nil h, List.append_nil]
  have hedge (e : Edge) : (e.typeIn (g.nodes.map Node.drawn)).bareIn (g.nodes.map Node.drawn) =
      e.bareIn g.nodes := by
    rw [Edge.bareIn, Edge.bareIn, ← slotIn_drawn g.nodes e]
    rfl
  rw [bare, normalize, hnodes, bare]
  simp only [List.map_map, Function.comp_def, hedge, Node.bare_drawn]

/-- **A graph with both roots and its normal graph have one program**, whatever its links name or leave
open. -/
theorem build_normalize_eq (g : Graph) (hsetup : ∃ n ∈ g.nodes, n.kind? = some .setup)
    (hloop : ∃ n ∈ g.nodes, n.kind? = some .loop) : g.normalize.build = g.build := by
  have hroots : ∀ k ∈ rootKinds, ∃ n ∈ g.nodes, n.hasKind k = true := by
    simpa [rootKinds, Node.hasKind] using And.intro hsetup hloop
  rw [← build_bare, bare_normalize hroots, build_bare]

/-- A graph with a link of each sort: one that names its slot, one with a handle only, one that is
plain, a second one by a slot, and one that leads nowhere. -/
def patchwork : Graph where
  version := 1
  nodes := [
    Node.create .setup "s" .null .null, { id := "x", blockType := some "teleport" },
    Node.create .ifElse "c" .null .null, Node.create .delay "d" .null .null,
    Node.create .loop "l" .null .null]
  edges := [
    { id := "", source := "s", target := "c" },
    { id := "", source := "c", target := "d", slot := some .otherwise, sourceHandle := some "body" },
    { id := "", source := "c", target := "x", sourceHandle := some "body" },
    { id := "", source := "c", target := "d", sourceHandle := some "body" },
    { id := "", source := "l", target := "gone", sourceHandle := some "out" }]

/-- Every link is given a slot, the program is the same, and the slot with two links is still a fault
of it. -/
theorem patchwork_build : (∃ n ∈ patchwork.nodes, n.kind? = some .setup) ∧
    (∃ n ∈ patchwork.nodes, n.kind? = some .loop) ∧
    patchwork.normalize.edges.map Edge.slot =
      [some .body, some .otherwise, some .body, some .body, some .body] ∧
    patchwork.normalize.build = patchwork.build ∧
    Fault.multipleOutputs "c" .body ∈ patchwork.build.faults := by
  have hsetup : ∃ n ∈ patchwork.nodes, n.kind? = some .setup := ⟨_, List.mem_cons_self, rfl⟩
  have hloop : ∃ n ∈ patchwork.nodes, n.kind? = some .loop :=
    ⟨Node.create .loop "l" .null .null, by simp [patchwork], rfl⟩
  exact ⟨hsetup, hloop, rfl, build_normalize_eq patchwork hsetup hloop, by decide⟩

end Graph

end BlockSketch
