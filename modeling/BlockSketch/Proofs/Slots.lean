/-
**Lookups by id and by slot.**

A walk through a graph finds blocks by their ids and follows slots.  This module says what the two
lookups find: the block of an id has this id, and a slot leads to the target of the first link that
leaves by it with both ends in the graph.

Main definitions:

* `BlockSketch.Fuelled` — a chain has fuel for all blocks that it has not met;
* `BlockSketch.Edge.isPresent` — both ends of a link are in the graph;
* `BlockSketch.Edge.fills` — a link fills a slot of a block;
* `BlockSketch.Blueprint.Closed` — every slot leads to a block.

Main results:

* `BlockSketch.Graph.slotTable_target?` — **the first link of a slot wins**;
* `BlockSketch.Graph.slotTable_faults_eq_nil` — links that share no slot are not reported;
* `BlockSketch.Graph.blueprint_closed` — the slots of a graph lead to its blocks.
-/

import BlockSketch.Program.Build
import Mathlib.Data.List.Basic

set_option relaxedAutoImplicit false
set_option autoImplicit false

namespace BlockSketch

/-! ### Blocks by id -/

@[simp] theorem nodeById?_nil (id : String) : nodeById? [] id = none := rfl

theorem nodeById?_cons (n : Node) (ns : List Node) (id : String) :
    nodeById? (n :: ns) id = (nodeById? ns id).or (if n.id = id then some n else none) := by
  rw [nodeById?]
  cases nodeById? ns id <;> rfl

theorem nodeById?_append (ns ms : List Node) (id : String) :
    nodeById? (ns ++ ms) id = (nodeById? ms id).or (nodeById? ns id) := by
  induction ns with
  | nil => simp
  | cons n ns ih => rw [List.cons_append, nodeById?_cons, ih, nodeById?_cons, Option.or_assoc]

/-- The block that is found is in the list and has the id. -/
theorem nodeById?_eq_some {ns : List Node} {id : String} {n : Node}
    (h : nodeById? ns id = some n) : n ∈ ns ∧ n.id = id := by
  induction ns with
  | nil => simp at h
  | cons m ns ih =>
      rw [nodeById?_cons, Option.or_eq_some_iff] at h
      rcases h with h | ⟨_, h⟩
      · exact ⟨List.mem_cons_of_mem m (ih h).1, (ih h).2⟩
      · split at h
        · obtain rfl := Option.some.inj h
          exact ⟨List.mem_cons_self, by assumption⟩
        · simp at h

theorem nodeById?_id {ns : List Node} {id : String} {n : Node}
    (h : nodeById? ns id = some n) : n.id = id :=
  (nodeById?_eq_some h).2

/-- An id is found exactly if some block has it. -/
theorem nodeById?_isSome_iff {ns : List Node} {id : String} :
    (nodeById? ns id).isSome ↔ id ∈ ns.map Node.id := by
  induction ns with
  | nil => simp
  | cons m ns ih =>
      rw [nodeById?_cons, Option.isSome_or, Bool.or_eq_true, ih, List.map_cons, List.mem_cons]
      by_cases hm : m.id = id
      · simp [hm]
      · simp [hm, Ne.symm hm]

/-- If the ids are distinct, every block is found by its own. -/
theorem nodeById?_of_mem {ns : List Node} {n : Node} (hd : (ns.map Node.id).Nodup) (hn : n ∈ ns) :
    nodeById? ns n.id = some n := by
  induction ns with
  | nil => simp at hn
  | cons m ns ih =>
      rw [List.map_cons, List.nodup_cons] at hd
      rw [nodeById?_cons]
      rcases List.mem_cons.1 hn with rfl | hn
      · have hnone : nodeById? ns n.id = none := by
          rw [← Option.not_isSome_iff_eq_none, nodeById?_isSome_iff]
          exact hd.1
        simp [hnone]
      · rw [ih hd.2 hn, Option.some_or]

/-- A list of distinct ids of blocks is no longer than the list of blocks. -/
theorem length_le_of_subset_ids {nodes : List Node} {visited : List String} (hd : visited.Nodup)
    (hsub : ∀ v ∈ visited, v ∈ nodes.map Node.id) : visited.length ≤ nodes.length := by
  simpa using hd.length_le_of_subset hsub

/-- The blocks that a chain has met are distinct, and there is fuel for all others and one step more. -/
structure Fuelled (nodes : List Node) (visited : List String) (fuel : Nat) : Prop where
  nodup : visited.Nodup
  subset : ∀ v ∈ visited, v ∈ nodes.map Node.id
  length : visited.length + fuel = nodes.length + 1

namespace Fuelled

variable {nodes : List Node} {visited : List String} {fuel : Nat}

theorem start (nodes : List Node) : Fuelled nodes [] (nodes.length + 1) :=
  ⟨List.nodup_nil, by simp, by simp⟩

/-- The fuel does not run out. -/
theorem pos (h : Fuelled nodes visited fuel) : 0 < fuel := by
  have hle := length_le_of_subset_ids h.nodup h.subset
  have hlen := h.length
  omega

/-- Meeting a block takes one step. -/
theorem visit (h : Fuelled nodes visited (fuel + 1)) {id : String} (hv : id ∉ visited)
    (hid : (nodeById? nodes id).isSome = true) : Fuelled nodes (id :: visited) fuel := by
  refine ⟨List.nodup_cons.2 ⟨hv, h.nodup⟩,
    List.forall_mem_cons.2 ⟨nodeById?_isSome_iff.1 hid, h.subset⟩, ?_⟩
  have hlen := h.length
  rw [List.length_cons]
  omega

end Fuelled

/-! ### Slots -/

/-- Both ends of a link are among the blocks. -/
def Edge.isPresent (nodes : List Node) (e : Edge) : Bool :=
  (nodeById? nodes e.source).isSome && (nodeById? nodes e.target).isSome

/-- A link leaves the given block by the given slot and has both ends among the blocks. -/
def Edge.fills (nodes : List Node) (source : String) (slot : Slot) (e : Edge) : Bool :=
  e.isPresent nodes && (e.source == source && e.slotIn nodes == slot)

theorem Edge.fills_iff {nodes : List Node} {source : String} {slot : Slot} {e : Edge} :
    e.fills nodes source slot = true ↔
      e.isPresent nodes = true ∧ e.source = source ∧ e.slotIn nodes = slot := by
  simp [Edge.fills]

namespace SlotTable

theorem target?_append (links : List (String × Slot × String)) (faults : List Fault)
    (source target s : String) (slot k : Slot) :
    SlotTable.target? ⟨links ++ [(source, slot, target)], faults⟩ s k =
      (SlotTable.target? ⟨links, faults⟩ s k).or
        (if source = s ∧ slot = k then some target else none) := by
  simp only [target?, List.find?_append, Option.map_or]
  congr 1
  by_cases h : source = s ∧ slot = k
  · simp [h]
  · have hf : (source == s && slot == k) = false := by
      simpa using h
    simp [h, hf]

@[simp] theorem report_target? (t : SlotTable) (source : String) (slot : Slot) :
    (t.report source slot).target? = t.target? := by
  unfold report
  dsimp only
  split <;> rfl

/-- A slot after one more link. -/
theorem add_target? (nodes : List Node) (t : SlotTable) (e : Edge) (s : String) (k : Slot) :
    (t.add nodes e).target? s k =
      (t.target? s k).or (if e.fills nodes s k then some e.target else none) := by
  unfold add
  by_cases hp : e.isPresent nodes = true
  · have hp' := hp
    unfold Edge.isPresent at hp'
    simp only [hp', if_true]
    by_cases hsk : e.source = s ∧ e.slotIn nodes = k
    · obtain ⟨rfl, rfl⟩ := hsk
      have hf : e.fills nodes e.source (e.slotIn nodes) = true := Edge.fills_iff.2 ⟨hp, rfl, rfl⟩
      cases ht : t.target? e.source (e.slotIn nodes) with
      | none =>
          have := target?_append t.links t.faults e.source e.target e.source
            (e.slotIn nodes) (e.slotIn nodes)
          simpa [hf, ht] using this
      | some x => simp [ht]
    · have hf : ¬ e.fills nodes s k = true := fun h => hsk (Edge.fills_iff.1 h).2
      cases ht : t.target? e.source (e.slotIn nodes) with
      | none =>
          have := target?_append t.links t.faults e.source e.target s (e.slotIn nodes) k
          simpa [hf, hsk] using this
      | some x => simp [hf]
  · have hf : ¬ e.fills nodes s k = true := fun h => hp (Edge.fills_iff.1 h).1
    have hp' := hp
    unfold Edge.isPresent at hp'
    simp [hp', hf]

/-- A slot after several more links: the first that fills it wins, unless it was filled before. -/
theorem foldl_add_target? (nodes : List Node) (es : List Edge) (t : SlotTable) (s : String)
    (k : Slot) :
    (es.foldl (SlotTable.add nodes) t).target? s k =
      (t.target? s k).or ((es.find? (Edge.fills nodes s k)).map Edge.target) := by
  induction es generalizing t with
  | nil => simp
  | cons e es ih =>
      rw [List.foldl_cons, ih, add_target?, List.find?_cons, Option.or_assoc]
      cases e.fills nodes s k <;> simp

/-- A link into a free slot is not reported. -/
theorem add_faults_of_free {nodes : List Node} {t : SlotTable} {e : Edge}
    (h : t.target? e.source (e.slotIn nodes) = none) : (t.add nodes e).faults = t.faults := by
  unfold add
  split
  · simp [h]
  · rfl

/-- Links into different free slots are not reported. -/
theorem foldl_add_faults {nodes : List Node} (es : List Edge) (t : SlotTable)
    (hfree : ∀ e ∈ es, t.target? e.source (e.slotIn nodes) = none)
    (hdistinct : es.Pairwise fun e f => (e.source, e.slotIn nodes) ≠ (f.source, f.slotIn nodes)) :
    (es.foldl (SlotTable.add nodes) t).faults = t.faults := by
  induction es generalizing t with
  | nil => rfl
  | cons e es ih =>
      rw [List.pairwise_cons] at hdistinct
      have hfree' : ∀ f ∈ es, (t.add nodes e).target? f.source (f.slotIn nodes) = none := by
        intro f hf
        have hne : ¬ e.fills nodes f.source (f.slotIn nodes) = true := by
          intro h
          obtain ⟨_, hs, hk⟩ := Edge.fills_iff.1 h
          exact hdistinct.1 f hf (by rw [hs, hk])
        rw [add_target?, hfree f (List.mem_cons_of_mem e hf)]
        simp [hne]
      rw [List.foldl_cons, ih _ hfree' hdistinct.2, add_faults_of_free (hfree e List.mem_cons_self)]

/-- A table reports nothing but slots with several links. -/
theorem mem_add_faults {nodes : List Node} {t : SlotTable} {e : Edge} {f : Fault}
    (h : f ∈ (t.add nodes e).faults) : f ∈ t.faults ∨ ∃ s k, f = .multipleOutputs s k := by
  unfold add at h
  split at h
  · dsimp only at h
    split at h
    · unfold report at h
      dsimp only at h
      split at h
      · exact Or.inl h
      · rcases List.mem_append.1 h with h | h
        · exact Or.inl h
        · exact Or.inr ⟨_, _, List.mem_singleton.1 h⟩
    · exact Or.inl h
  · exact Or.inl h

theorem mem_foldl_add_faults {nodes : List Node} {f : Fault} (es : List Edge) (t : SlotTable)
    (h : f ∈ (es.foldl (SlotTable.add nodes) t).faults) :
    f ∈ t.faults ∨ ∃ s k, f = .multipleOutputs s k := by
  induction es generalizing t with
  | nil => exact Or.inl h
  | cons e es ih =>
      rcases ih _ h with h | h
      · exact mem_add_faults h
      · exact Or.inr h

end SlotTable

/-- **The first link of a slot wins.** -/
theorem Graph.slotTable_target? (g : Graph) (s : String) (k : Slot) :
    g.slotTable.target? s k = (g.edges.find? (Edge.fills g.nodes s k)).map Edge.target := by
  rw [Graph.slotTable, SlotTable.foldl_add_target?]
  rfl

/-- Links that share no slot are not reported. -/
theorem Graph.slotTable_faults_eq_nil {g : Graph}
    (h : g.edges.Pairwise fun e f =>
      (e.source, e.slotIn g.nodes) ≠ (f.source, f.slotIn g.nodes)) :
    g.slotTable.faults = [] :=
  SlotTable.foldl_add_faults g.edges {} (fun _ _ => rfl) h

/-- The slots of a graph have one kind of fault. -/
theorem Graph.mem_slotTable_faults {g : Graph} {f : Fault} (h : f ∈ g.slotTable.faults) :
    ∃ s k, f = .multipleOutputs s k := by
  rcases SlotTable.mem_foldl_add_faults g.edges {} h with h | h
  · simp at h
  · exact h

/-! ### Blueprints -/

/-- Every slot leads to a block. -/
def Blueprint.Closed (b : Blueprint) : Prop :=
  ∀ ⦃s : String⦄ ⦃k : Slot⦄ ⦃id : String⦄, b.target? s k = some id →
    (nodeById? b.nodes id).isSome = true

/-- The slots of a graph lead to its blocks. -/
theorem Graph.blueprint_closed (g : Graph) : g.blueprint.Closed := by
  intro s k id h
  change g.slotTable.target? s k = some id at h
  rw [g.slotTable_target?, Option.map_eq_some_iff] at h
  obtain ⟨e, he, rfl⟩ := h
  have hp := (Edge.fills_iff.1 (List.find?_some he)).1
  rw [Edge.isPresent, Bool.and_eq_true] at hp
  exact hp.2

/-- The chain of a root starts at a block. -/
theorem Blueprint.Closed.start? {b : Blueprint} (hb : b.Closed) {root : Option Node} {id : String}
    (h : b.start? root = some id) : (nodeById? b.nodes id).isSome = true := by
  obtain ⟨n, -, h⟩ := Option.bind_eq_some_iff.1 h
  rcases Option.or_eq_some_iff.1 h with h | ⟨_, h⟩
  · obtain ⟨x, hx, h⟩ := Option.bind_eq_some_iff.1 h
    unfold nonEmpty? at h
    split at h
    · simp at h
    · obtain rfl := Option.some.inj h
      exact hb hx
  · exact hb h

end BlockSketch
