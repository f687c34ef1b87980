/-
**Normal graphs stay as they are.**

A graph is normal if both roots are there, every block with a tag is drawn as a block, and every link
has a slot and two handles.  Whatever is loaded is normal: making a graph normal gives it what it lacks,
and an upgrade starts from normal blocks, drops none of the roots and makes typed links only.  A graph
that is normal is not changed by being made normal again.

Main definitions:

* `BlockSketch.Edge.IsTyped` — a link has a slot and two handles;
* `BlockSketch.Graph.IsNormal` — a graph has roots, drawn blocks and typed links.

Main results:

* `BlockSketch.Graph.IsNormal.normalize_eq` — **a normal graph is not changed**;
* `BlockSketch.Graph.isNormal_normalize`, `BlockSketch.Graph.isNormal_migration`,
  `BlockSketch.Graph.isNormal_load` — graphs that are made normal, upgraded or loaded are normal.
-/

import BlockSketch.Proofs.LinkIds
import BlockSketch.Proofs.RootIds

set_option relaxedAutoImplicit false
set_option autoImplicit false

namespace BlockSketch

/-! ### Handles -/

/-- A handle that is there and not empty. -/
def IsHandle (h : Option String) : Prop :=
  ∃ s, s ≠ "" ∧ h = some s

theorem isHandle_some {s : String} (h : s ≠ "") : IsHandle (some s) :=
  ⟨s, h, rfl⟩

/-- A handle that is not empty is kept. -/
theorem IsHandle.getD_eq {h : Option String} (hh : IsHandle h) (fallback : String) :
    some ((h.bind nonEmpty?).getD fallback) = h := by
  obtain ⟨s, hs, rfl⟩ := hh
  simp [nonEmpty?, hs]

/-- A handle that is missing or empty is filled in. -/
theorem isHandle_getD (h : Option String) {fallback : String} (hf : fallback ≠ "") :
    IsHandle (some ((h.bind nonEmpty?).getD fallback)) := by
  cases h with
  | none => exact isHandle_some hf
  | some s =>
      by_cases hs : s = ""
      · simpa [nonEmpty?, hs] using isHandle_some hf
      · simpa [nonEmpty?, hs] using isHandle_some hs

theorem Slot.tag_ne_empty (k : Slot) : k.tag ≠ "" := by
  cases k <;> decide

theorem arrivalHandle_ne_empty : arrivalHandle ≠ "" := by
  decide

/-! ### Links -/

/-- A link with a slot and two handles. -/
structure Edge.IsTyped (e : Edge) : Prop where
  slot : e.slot.isSome = true
  sourceHandle : IsHandle e.sourceHandle
  targetHandle : IsHandle e.targetHandle

namespace Edge

variable (nodes : List Node)

/-- A typed link is not changed. -/
theorem IsTyped.typeIn_eq {e : Edge} (h : e.IsTyped) : e.typeIn nodes = e := by
  obtain ⟨k, hk⟩ := Option.isSome_iff_exists.1 h.slot
  have hslot : e.slotIn nodes = k := by simp [slotIn, namedSlot?, hk]
  rw [typeIn, hslot, ← hk, h.sourceHandle.getD_eq, h.targetHandle.getD_eq]

theorem isTyped_typeIn (e : Edge) : (e.typeIn nodes).IsTyped where
  slot := rfl
  sourceHandle := isHandle_getD e.sourceHandle (Slot.tag_ne_empty _)
  targetHandle := isHandle_getD e.targetHandle arrivalHandle_ne_empty

end Edge

theorem Link.isTyped_edge (l : Link) : l.edge.IsTyped where
  slot := rfl
  sourceHandle := isHandle_some l.slot.tag_ne_empty
  targetHandle := isHandle_some arrivalHandle_ne_empty

/-! ### Blocks -/

/-- A drawn block is not changed. -/
@[simp] theorem Node.drawn_drawn (n : Node) : n.drawn.drawn = n.drawn := by
  cases hb : n.blockType.isSome <;> simp [drawn, hb]

/-- Every block of a normal graph is drawn, be it one of the graph's own or a new root. -/
theorem drawn_of_mem_normalNodes {nodes : List Node} {n : Node} (h : n ∈ normalNodes nodes) :
    n.drawn = n := by
  rw [normalNodes_eq, List.mem_append] at h
  rcases h with h | h
  · obtain ⟨m, -, rfl⟩ := List.mem_map.1 h
    exact m.drawn_drawn
  · obtain ⟨k, -, -, rfl⟩ := mem_newRoots.1 h
    exact Node.drawn_create ..

/-- Blocks with both roots are given no new ones. -/
theorem newRoots_eq_nil {nodes : List Node} (h : ∀ k ∈ rootKinds, ∃ n ∈ nodes, n.hasKind k = true) :
    newRoots nodes = [] := by
  have hfilter : (rootKinds.filter fun k => !nodes.any fun n => n.hasKind k) = [] := by
    rw [List.filter_eq_nil_iff]
    intro k hk
    simpa using h k hk
  rw [newRoots, hfilter, List.map_nil]

theorem isKept_of_hasKind {n : Node} {k : Kind} (hk : k ∈ rootKinds) (h : n.hasKind k = true)
    (upgrade : Bool) : n.isKept upgrade = true := by
  have hkind : n.kind? = some k := by simpa [Node.hasKind] using h
  simp only [rootKinds, List.mem_cons, List.not_mem_nil, or_false] at hk
  rcases hk with rfl | rfl <;> simp [Node.isKept, Node.isEnd, Node.hasKind, hkind]

/-! ### Graphs -/

/-- A graph with both roots, drawn blocks and typed links. -/
structure Graph.IsNormal (g : Graph) : Prop where
  roots : ∀ k ∈ rootKinds, ∃ n ∈ g.nodes, n.hasKind k = true
  drawn : ∀ n ∈ g.nodes, n.drawn = n
  typed : ∀ e ∈ g.edges, e.IsTyped

namespace Graph

variable {g : Graph}

/-- **A normal graph is not changed.** -/
theorem IsNormal.normalize_eq (h : g.IsNormal) : g.normalize = g := by
  have hnodes : normalNodes g.nodes = g.nodes := by
    rw [normalNodes_eq, newRoots_eq_nil h.roots, List.append_nil]
    exact (List.map_congr_left h.drawn).trans (List.map_id _)
  have hedges : g.edges.map (Edge.typeIn g.nodes) = g.edges :=
    (List.map_congr_left fun e he => (h.typed e he).typeIn_eq g.nodes).trans (List.map_id _)
  rw [normalize, hnodes, hedges]

/-- Normal blocks, with or without the end blocks, and typed links make a normal graph. -/
theorem isNormal_of_nodes_eq {nodes : List Node} {upgrade : Bool}
    (hnodes : g.nodes = (normalNodes nodes).filter fun n => n.isKept upgrade)
    (htyped : ∀ e ∈ g.edges, e.IsTyped) : g.IsNormal where
  roots k hk := by
    have hroot : k.isRoot = true := by
      simp only [rootKinds, List.mem_cons, List.not_mem_nil, or_false] at hk
      rcases hk with rfl | rfl <;> rfl
    obtain ⟨r, hr⟩ := exists_find?_root nodes hroot
    have hkind := List.find?_some hr
    refine ⟨r, ?_, hkind⟩
    rw [hnodes]
    exact List.mem_filter.2 ⟨List.mem_of_find?_eq_some hr, isKept_of_hasKind hk hkind upgrade⟩
  drawn n hn := by
    rw [hnodes] at hn
    exact drawn_of_mem_normalNodes (List.mem_filter.1 hn).1
  typed := htyped

theorem isNormal_normalize (g : Graph) : g.normalize.IsNormal := by
  refine isNormal_of_nodes_eq normalize_nodes fun e he => ?_
  obtain ⟨f, -, rfl⟩ := List.mem_map.1 he
  exact Edge.isTyped_typeIn _ f

theorem isNormal_migration {u : Migration} (h : g.migration = .ok u) : u.graph.IsNormal := by
  refine isNormal_of_nodes_eq (migration_nodes h) fun e he => ?_
  obtain ⟨found, -, hu⟩ := exists_of_migration h
  rw [hu] at he
  obtain ⟨l, -, rfl⟩ := mem_collectLinks.1 he
  exact l.isTyped_edge

/-- What is loaded is a normal graph of version 2. -/
theorem isNormal_load {mode : Mode} {r : Loaded} (h : g.load mode = .ok r) :
    r.graph.IsNormal ∧ r.graph.version = 2 := by
  rcases load_cases h with ⟨-, u, hu, hr⟩ | ⟨-, hr⟩
  · obtain ⟨found, -, hgraph⟩ := exists_of_migration hu
    rw [hr]
    exact ⟨isNormal_migration hu, by rw [hgraph]⟩
  · rw [hr]
    exact ⟨isNormal_normalize _, rfl⟩

end Graph

end BlockSketch
