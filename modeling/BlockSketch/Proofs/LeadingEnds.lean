/-
**End blocks at the start of a chain.**

The upgrade of a linear graph skips the end blocks at the start of each root's chain, with as much
fuel as there are blocks.  If the skipping ends at all, this is enough: the end blocks that are
skipped are a chain of their own among the end blocks, and such a chain does not come back to one of
its blocks.

Main definitions:

* `BlockSketch.endBlocks` — the blocks whose ids are those of end blocks;
* `BlockSketch.Graph.SkipsEnds` — the skipping ends for every root.

Main results:

* `BlockSketch.exists_chainOf_endBlocks`, `BlockSketch.skipEnds?_isSome_of_chainOf` — the skipping
  ends just where the end blocks that it meets are a chain;
* `BlockSketch.skipEnds?_isSome` — **where the skipping ends, the fuel is enough**;
* `BlockSketch.Graph.exists_load` — a graph is loaded if the skipping ends.
-/

import BlockSketch.Graph.Load
import BlockSketch.Proofs.ChainLinks

set_option relaxedAutoImplicit false
set_option autoImplicit false

namespace BlockSketch

/-- The blocks whose ids are those of end blocks. -/
def endBlocks (nodes : List Node) : List Node :=
  nodes.filter fun n => isEndId nodes n.id

/-- A choice of blocks by their ids does not change which block an id is that of. -/
theorem nodeById?_filter_id (p : String → Bool) (ns : List Node) (id : String) :
    nodeById? (ns.filter fun n => p n.id) id = if p id then nodeById? ns id else none := by
  induction ns with
  | nil => simp
  | cons n ns ih =>
      rw [List.filter_cons]
      by_cases hid : n.id = id
      · cases hp : p id with
        | true => simp [hid, hp, nodeById?_cons, ih]
        | false => simp [hid, hp, ih]
      · cases hp : p n.id with
        | true => simp [hid, nodeById?_cons, ih]
        | false => simp [hid, nodeById?_cons, ih]

section Skipping

variable {nodes : List Node} {edges : List Edge} {start : Option String}

/-- An end block is among the end blocks, and what is none is not. -/
theorem nodeById?_endBlocks (id : String) :
    nodeById? (endBlocks nodes) id = if isEndId nodes id then nodeById? nodes id else none :=
  nodeById?_filter_id (isEndId nodes) nodes id

theorem nodeById?_isSome_of_isEndId {id : String} (h : isEndId nodes id = true) :
    ∃ n, nodeById? nodes id = some n := by
  obtain ⟨n, hn, -⟩ := (Option.any_eq_true _ _).1 h
  exact ⟨n, hn⟩

/-- The end blocks that are skipped are a chain among the end blocks. -/
theorem exists_chainOf_endBlocks {fuel : Nat}
    (h : (skipEnds? nodes edges fuel start).isSome = true) :
    ∃ ns, ChainOf (endBlocks nodes) edges start ns := by
  induction fuel generalizing start with
  | zero =>
      cases start with
      | none => exact ⟨[], ChainOf.stop⟩
      | some id =>
          cases hend : isEndId nodes id with
          | true => simp [skipEnds?, hend] at h
          | false => exact ⟨[], ChainOf.missing (by simp [nodeById?_endBlocks, hend])⟩
  | succ fuel ih =>
      cases start with
      | none => exact ⟨[], ChainOf.stop⟩
      | some id =>
          cases hend : isEndId nodes id with
          | true =>
              rw [skipEnds?, hend, if_pos rfl] at h
              obtain ⟨ns, hns⟩ := ih h
              obtain ⟨n, hn⟩ := nodeById?_isSome_of_isEndId hend
              exact ⟨n :: ns, ChainOf.block (by rw [nodeById?_endBlocks, hend, if_pos rfl, hn]) hns⟩
          | false => exact ⟨[], ChainOf.missing (by simp [nodeById?_endBlocks, hend])⟩

/-- A chain of end blocks is skipped if there is fuel for each of them. -/
theorem skipEnds?_isSome_of_chainOf {ns : List Node}
    (h : ChainOf (endBlocks nodes) edges start ns) {fuel : Nat} (hf : ns.length ≤ fuel) :
    (skipEnds? nodes edges fuel start).isSome = true := by
  induction h generalizing fuel with
  | stop => cases fuel <;> rfl
  | @missing id hn =>
      have hend : isEndId nodes id = false := by
        by_contra hend
        rw [Bool.not_eq_false] at hend
        obtain ⟨n, hn'⟩ := nodeById?_isSome_of_isEndId hend
        rw [nodeById?_endBlocks, hend, if_pos rfl, hn'] at hn
        cases hn
      cases fuel <;> simp [skipEnds?, hend]
  | @block id n ns hn _ ih =>
      have hend : isEndId nodes id = true := by
        by_contra hend
        rw [nodeById?_endBlocks, if_neg hend] at hn
        cases hn
      cases fuel with
      | zero => simp at hf
      | succ fuel =>
          rw [skipEnds?, hend, if_pos rfl]
          exact ih (by simpa using hf)

/-- **Where the skipping ends, the fuel is enough.** -/
theorem skipEnds?_isSome (h : ∃ fuel, (skipEnds? nodes edges fuel start).isSome = true) :
    (skipEnds? nodes edges nodes.length start).isSome = true := by
  obtain ⟨fuel, h⟩ := h
  obtain ⟨ns, hns⟩ := exists_chainOf_endBlocks h
  exact skipEnds?_isSome_of_chainOf hns (Nat.le_trans hns.length_le (List.length_filter_le _ _))

/-- The chain of a root is read if the skipping ends. -/
theorem exists_rootLinks_of_skipEnds? {root : String}
    (h : ∃ fuel, (skipEnds? nodes edges fuel (follow? edges root)).isSome = true) :
    ∃ found, rootLinks nodes edges root = .ok found := by
  obtain ⟨first, hfirst⟩ := Option.isSome_iff_exists.1 (skipEnds?_isSome h)
  rw [rootLinks, hfirst]
  cases first with
  | none => exact ⟨_, rfl⟩
  | some first =>
      dsimp only
      split <;> exact ⟨_, rfl⟩

theorem exists_chainLinks_of_rootLinks {roots : List String}
    (h : ∀ root ∈ roots, ∃ found, rootLinks nodes edges root = .ok found) :
    ∃ found, chainLinks nodes edges roots = .ok found := by
  induction roots with
  | nil => exact ⟨_, rfl⟩
  | cons root roots ih =>
      rw [List.forall_mem_cons] at h
      obtain ⟨a, ha⟩ := h.1
      obtain ⟨b, hb⟩ := ih h.2
      exact ⟨_, by rw [chainLinks, ha, hb]; rfl⟩

end Skipping

namespace Graph

/-- The skipping of the end blocks at the start of a chain ends for every root. -/
def SkipsEnds (g : Graph) : Prop :=
  ∀ root ∈ rootIds (normalNodes g.nodes), ∃ fuel,
    (skipEnds? (normalNodes g.nodes) g.edges fuel (follow? g.edges root)).isSome = true

variable {g : Graph}

/-- A graph is upgraded if the skipping ends. -/
theorem exists_migration (h : g.SkipsEnds) : ∃ m, g.migration = .ok m := by
  obtain ⟨found, hfound⟩ := exists_chainLinks_of_rootLinks fun root hroot =>
    exists_rootLinks_of_skipEnds? (h root hroot)
  exact ⟨_, by rw [migration, hfound]; rfl⟩

/-- A graph is loaded if the skipping ends, should it be needed. -/
theorem exists_load {mode : Mode} (h : mode.isLegacy g = true → g.SkipsEnds) :
    ∃ r, g.load mode = .ok r := by
  rw [load]
  cases hlegacy : mode.isLegacy g with
  | false => exact ⟨_, rfl⟩
  | true =>
      have hends : ({ g with version := 1 } : Graph).SkipsEnds := h hlegacy
      obtain ⟨m, hm⟩ := exists_migration hends
      rw [if_pos rfl, hm]
      exact ⟨_, rfl⟩

end Graph

end BlockSketch
