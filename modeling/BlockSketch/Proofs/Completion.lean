/-
**Making a graph normal only adds to it.**

A normal graph is made by filling in what is missing.  The blocks stay, in their order, and change in
how they are drawn at most; after them come the roots that the graph lacks, one of each kind.  The links
stay too.  A link keeps the slot and the handles that it has, and is given those that it has not.

The slot of a link that names none is looked up among the new blocks.  A new root may be found there
under the id of a block that was in the graph before, or where there was none.  What is looked up then
is stored with the link, so that the next time nothing is looked up at all.

Main definitions:

* `BlockSketch.Edge.IsCompletedTo` — a link with what it lacks filled in;
* `BlockSketch.Graph.IsCompletedTo` — a graph with what it lacks filled in.

Main results:

* `BlockSketch.Edge.isCompletedTo_typeIn` — a typed link is the link, completed;
* `BlockSketch.Graph.normalize_completes` — **making a graph normal completes it, and once is enough**.
-/

import BlockSketch.Proofs.UpgradeShape

set_option relaxedAutoImplicit false
set_option autoImplicit false

namespace BlockSketch

/-- The second link is the first one with what it lacks filled in: a slot by which it leaves its source
among the blocks, and two handles. -/
structure Edge.IsCompletedTo (nodes : List Node) (e e' : Edge) : Prop where
  id : e'.id = e.id
  ends : e'.source = e.source ∧ e'.target = e.target
  extra : e'.extra = e.extra
  slot : ∀ k, e.slot = some k → e'.slot = some k
  sourceHandle : IsHandle e.sourceHandle → e'.sourceHandle = e.sourceHandle
  targetHandle : IsHandle e.targetHandle → e'.targetHandle = e.targetHandle
  typed : e'.IsTyped
  resolved : e'.slot = some (e.slotIn nodes)

/-- A typed link is the link, completed. -/
theorem Edge.isCompletedTo_typeIn (nodes : List Node) (e : Edge) :
    e.IsCompletedTo nodes (e.typeIn nodes) where
  id := rfl
  ends := ⟨rfl, rfl⟩
  extra := rfl
  slot k hk := by simp [typeIn, slotIn, namedSlot?, hk]
  sourceHandle h := h.getD_eq _
  targetHandle h := h.getD_eq _
  typed := isTyped_typeIn nodes e
  resolved := rfl

/-- The second graph is the first one with what it lacks filled in: its blocks and links, each in its
place, and one root of each kind that it has not. -/
structure Graph.IsCompletedTo (g m : Graph) : Prop where
  version : m.version = g.version
  nodes : ∃ kept added, m.nodes = kept ++ added ∧ List.Forall₂ Node.IsRedrawn g.nodes kept ∧
    added.map Node.kind? = (rootKinds.filter fun k => !g.nodes.any fun n => n.hasKind k).map some
  edges : List.Forall₂ (Edge.IsCompletedTo m.nodes) g.edges m.edges

namespace Graph

theorem isCompletedTo_normalize (g : Graph) : g.IsCompletedTo g.normalize where
  version := rfl
  nodes := by
    refine ⟨g.nodes.map Node.drawn, newRoots g.nodes, normalNodes_eq g.nodes, ?_,
      kinds_newRoots g.nodes⟩
    rw [List.forall₂_map_right_iff, List.forall₂_same]
    exact fun n _ => n.isRedrawn_drawn
  edges := by
    change List.Forall₂ _ g.edges (g.edges.map (Edge.typeIn (normalNodes g.nodes)))
    rw [List.forall₂_map_right_iff, List.forall₂_same]
    exact fun e _ => e.isCompletedTo_typeIn _

/-- **Making a graph normal completes it, and once is enough.**  This holds of every graph, whatever
its ids are and wherever its links lead. -/
theorem normalize_completes (g : Graph) :
    g.IsCompletedTo g.normalize ∧ g.normalize.normalize = g.normalize :=
  ⟨isCompletedTo_normalize g, (isNormal_normalize g).normalize_eq⟩

end Graph

end BlockSketch
