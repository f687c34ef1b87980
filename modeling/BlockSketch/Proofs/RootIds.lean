/-
**Ids of new roots.**

A graph that lacks a root is given one.  Its id is the tag of its kind, or one derived from the tag if
that is taken; whether the derived one is taken as well is not asked.  If it is, two blocks have one
id, and looking it up finds the new root: the block that was there before is *shadowed*.

Nothing else disturbs the ids.  Reading editor state keeps the first block of each id, making a graph
normal leaves the blocks where they are and adds roots after them, and an upgrade drops end blocks.  So
the ids of a loaded graph are distinct exactly if no block is shadowed that is still there.

Main definitions:

* `BlockSketch.newRoots` — the roots that a graph is given;
* `BlockSketch.Node.isShadowed` — a new root takes the id of the block;
* `BlockSketch.Graph.CarriesTo` — what becomes of the blocks of a graph.

Main results:

* `BlockSketch.normalNodes_eq` — a normal graph has its blocks, drawn, and the new roots after them;
* `BlockSketch.nodup_firstsById` — stored blocks have distinct ids;
* `BlockSketch.Graph.carriesTo_of_nodes_eq` — blocks that are not shadowed have an id of their own;
* `BlockSketch.Graph.ids_distinct_iff_not_shadowed` — **loading a graph keeps ids distinct exactly if
  no block is shadowed**.
-/

import BlockSketch.Graph.Load
import BlockSketch.Proofs.LinearGraph

set_option relaxedAutoImplicit false
set_option autoImplicit false

namespace BlockSketch

/-! ### New roots -/

section Drawn

variable (n : Node) (k : Kind)

@[simp] theorem Node.id_drawn : n.drawn.id = n.id := by
  unfold drawn
  split <;> rfl

@[simp] theorem Node.kind?_drawn : n.drawn.kind? = n.kind? := by
  unfold drawn kind?
  split <;> rfl

@[simp] theorem Node.hasKind_drawn : n.drawn.hasKind k = n.hasKind k := by
  simp [hasKind]

@[simp] theorem Node.isEnd_drawn : n.drawn.isEnd = n.isEnd := by
  simp [isEnd]

end Drawn

/-- The kinds of roots, in the order in which they are added. -/
def rootKinds : List Kind :=
  [.setup, .loop]

/-- The root of a kind that is added to the blocks. -/
def newRoot (nodes : List Node) (k : Kind) : Node :=
  Node.create k (rootId nodes k) (.int 60) (.int (rootY k))

/-- The roots that are added to the blocks. -/
def newRoots (nodes : List Node) : List Node :=
  (rootKinds.filter fun k => !nodes.any fun n => n.hasKind k).map (newRoot nodes)

section NewRoot

variable (nodes : List Node) (k : Kind)

/-- The id of a new root is the tag of its kind if no block has it. -/
theorem rootId_eq :
    rootId nodes k = if k.tag ∈ nodes.map Node.id then k.tag ++ "_root" else k.tag := by
  simp [rootId]

theorem rootId_mem : rootId nodes k ∈ [k.tag, k.tag ++ "_root"] := by
  rw [rootId_eq]
  split <;> simp

/-- No id for a new root of one kind is one for the other kind. -/
theorem rootId_setup_ne {id : String} (h : id ∈ [Kind.loop.tag, Kind.loop.tag ++ "_root"]) :
    rootId nodes .setup ≠ id := by
  rintro rfl
  have hmem := rootId_mem nodes .setup
  revert h hmem
  generalize rootId nodes .setup = id
  simp only [List.mem_cons, List.not_mem_nil, or_false]
  rintro (rfl | rfl) <;> decide

/-- A new setup root makes no difference to the loop root. -/
theorem newRoot_loop_append :
    newRoot (nodes ++ [newRoot nodes .setup]) .loop = newRoot nodes .loop := by
  have hne : Kind.loop.tag ≠ (newRoot nodes .setup).id :=
    (rootId_setup_ne nodes (List.mem_cons_self)).symm
  have hid : rootId (nodes ++ [newRoot nodes .setup]) .loop = rootId nodes .loop := by
    simp only [rootId_eq, List.map_append, List.map_singleton, List.mem_append, List.mem_singleton,
      or_iff_left hne]
  rw [newRoot, hid, newRoot]

theorem ensureRoot_eq : ensureRoot k nodes =
    if nodes.any fun n => n.hasKind k then nodes else nodes ++ [newRoot nodes k] := rfl

end NewRoot

theorem ensureRoots_eq (nodes : List Node) : ensureRoots nodes = nodes ++ newRoots nodes := by
  have hsetup : (newRoot nodes .setup).hasKind .loop = false := by
    simp [newRoot, Node.hasKind]
  have hloop : ((nodes ++ [newRoot nodes .setup]).any fun n => n.hasKind .loop) =
      nodes.any fun n => n.hasKind .loop := by
    simp [hsetup]
  rw [ensureRoots, ensureRoot_eq _ .setup, newRoots, rootKinds]
  cases hs : nodes.any fun n => n.hasKind .setup with
  | true =>
      rw [if_pos rfl, ensureRoot_eq]
      cases hl : nodes.any fun n => n.hasKind .loop <;> simp [hs, hl]
  | false =>
      rw [if_neg (by simp), ensureRoot_eq, hloop, newRoot_loop_append]
      cases hl : nodes.any fun n => n.hasKind .loop <;> simp [hs, hl]

/-- A normal graph has its blocks, drawn, and the new roots after them. -/
theorem normalNodes_eq (nodes : List Node) :
    normalNodes nodes = nodes.map Node.drawn ++ newRoots nodes := by
  have hid (k : Kind) : rootId (nodes.map Node.drawn) k = rootId nodes k := by
    simp [rootId_eq]
  have hroot : newRoot (nodes.map Node.drawn) = newRoot nodes := by
    funext k
    rw [newRoot, hid, newRoot]
  have hkind (k : Kind) :
      ((nodes.map Node.drawn).any fun n => n.hasKind k) = nodes.any fun n => n.hasKind k := by
    simp [List.any_map, Function.comp_def]
  rw [normalNodes, ensureRoots_eq]
  simp only [newRoots, hroot, hkind]

theorem mem_newRoots {nodes : List Node} {r : Node} : r ∈ newRoots nodes ↔
    ∃ k ∈ rootKinds, (∀ n ∈ nodes, n.hasKind k = false) ∧ newRoot nodes k = r := by
  simp [newRoots, and_assoc]

theorem nodup_newRoots (nodes : List Node) : ((newRoots nodes).map Node.id).Nodup := by
  have hids : (rootKinds.map (rootId nodes)).Nodup := by
    simp [rootKinds, rootId_setup_ne nodes (rootId_mem nodes .loop)]
  rw [newRoots, List.map_map]
  exact hids.sublist (List.filter_sublist.map _)

/-! ### Shadowed blocks -/

/-- Whether a new root takes the id of the block: there is no root of its kind, a block has the first
id for it, and this one has the second. -/
def Node.isShadowed (nodes : List Node) (n : Node) : Bool :=
  rootKinds.any fun k =>
    nodes.all (fun m => !m.hasKind k) && nodes.any (fun m => m.id == k.tag) &&
      n.id == k.tag ++ "_root"

/-- A block is shadowed exactly if a new root has its id. -/
theorem Node.isShadowed_iff {nodes : List Node} {n : Node} (hn : n ∈ nodes) :
    n.isShadowed nodes = true ↔ ∃ r ∈ newRoots nodes, r.id = n.id := by
  constructor
  · intro h
    simp only [isShadowed, List.any_eq_true, Bool.and_eq_true, List.all_eq_true, beq_iff_eq,
      Bool.not_eq_true'] at h
    obtain ⟨k, hk, ⟨hkind, m, hm, hid⟩, htaken⟩ := h
    refine ⟨newRoot nodes k, mem_newRoots.2 ⟨k, hk, hkind, rfl⟩, ?_⟩
    have htag : k.tag ∈ nodes.map Node.id := hid ▸ List.mem_map_of_mem hm
    rw [newRoot, Node.id_create, rootId_eq, if_pos htag, htaken]
  · rintro ⟨r, hr, hid⟩
    obtain ⟨k, hk, hkind, rfl⟩ := mem_newRoots.1 hr
    rw [newRoot, Node.id_create, rootId_eq] at hid
    split at hid
    · rename_i htag
      obtain ⟨m, hm, hmid⟩ := List.mem_map.1 htag
      simp only [isShadowed, List.any_eq_true, Bool.and_eq_true, List.all_eq_true, beq_iff_eq,
        Bool.not_eq_true']
      exact ⟨k, hk, ⟨hkind, m, hm, hmid⟩, hid.symm⟩
    · rename_i htag
      exact absurd (hid ▸ List.mem_map_of_mem hn) htag

/-- Whether the block is still there after an upgrade, if there is one. -/
def Node.isKept (upgrade : Bool) (n : Node) : Bool :=
  !(upgrade && n.isEnd)

/-- The blocks that are still there, drawn. -/
def keptNodes (upgrade : Bool) (nodes : List Node) : List Node :=
  (nodes.filter fun n => n.isKept upgrade).map Node.drawn

theorem filter_normalNodes (upgrade : Bool) (nodes : List Node) :
    (normalNodes nodes).filter (fun n => n.isKept upgrade) =
      keptNodes upgrade nodes ++ newRoots nodes := by
  have hnew : ∀ r ∈ newRoots nodes, r.isKept upgrade = true := by
    intro r hr
    obtain ⟨k, hk, -, rfl⟩ := mem_newRoots.1 hr
    simp only [rootKinds, List.mem_cons, List.not_mem_nil, or_false] at hk
    rcases hk with rfl | rfl <;> simp [Node.isKept, Node.isEnd, Node.hasKind, newRoot]
  rw [normalNodes_eq, List.filter_append, List.filter_eq_self.2 hnew, List.filter_map]
  simp [keptNodes, Function.comp_def, Node.isKept]

section Kept

variable {nodes : List Node} {upgrade : Bool} (hd : (nodes.map Node.id).Nodup)

theorem drawn_mem_keptNodes {n : Node} (hn : n ∈ nodes) (hk : n.isKept upgrade = true) :
    n.drawn ∈ keptNodes upgrade nodes :=
  List.mem_map_of_mem (List.mem_filter.2 ⟨hn, hk⟩)

include hd

theorem nodup_keptNodes : ((keptNodes upgrade nodes).map Node.id).Nodup := by
  have hids : (keptNodes upgrade nodes).map Node.id =
      (nodes.filter fun n => n.isKept upgrade).map Node.id := by
    simp [keptNodes, Function.comp_def]
  rw [hids]
  exact hd.sublist (List.filter_sublist.map _)

/-- The ids of blocks and new roots are distinct exactly if no block is shadowed. -/
theorem nodup_keptNodes_append_iff :
    ((keptNodes upgrade nodes ++ newRoots nodes).map Node.id).Nodup ↔
      ∀ n ∈ nodes, n.isKept upgrade = true → n.isShadowed nodes = false := by
  rw [List.map_append, List.nodup_append]
  constructor
  · rintro ⟨-, -, hapart⟩ n hn hk
    rw [← Bool.not_eq_true, Node.isShadowed_iff hn]
    rintro ⟨r, hr, hid⟩
    have hmem : n.id ∈ (keptNodes upgrade nodes).map Node.id :=
      n.id_drawn ▸ List.mem_map_of_mem (drawn_mem_keptNodes hn hk)
    exact hapart n.id hmem r.id (List.mem_map_of_mem hr) hid.symm
  · intro hfree
    refine ⟨nodup_keptNodes hd, nodup_newRoots nodes, ?_⟩
    rintro id hid _ hnew rfl
    obtain ⟨m, hm, hmid⟩ := List.mem_map.1 hid
    obtain ⟨n, hn, rfl⟩ := List.mem_map.1 hm
    obtain ⟨r, hr, hrid⟩ := List.mem_map.1 hnew
    obtain ⟨hn, hk⟩ := List.mem_filter.1 hn
    rw [n.id_drawn, ← hrid] at hmid
    have hshadowed := (Node.isShadowed_iff hn).2 ⟨r, hr, hmid.symm⟩
    rw [hfree n hn hk] at hshadowed
    cases hshadowed

/-- A block is found by its id exactly if it is not shadowed. -/
theorem nodeById?_keptNodes_append_iff {n : Node} (hn : n ∈ nodes) (hk : n.isKept upgrade = true) :
    nodeById? (keptNodes upgrade nodes ++ newRoots nodes) n.id = some n.drawn ↔
      n.isShadowed nodes = false := by
  have hfound : nodeById? (keptNodes upgrade nodes) n.id = some n.drawn :=
    n.id_drawn ▸ nodeById?_of_mem (nodup_keptNodes hd) (drawn_mem_keptNodes hn hk)
  have hnew : (nodeById? (newRoots nodes) n.id).isSome = n.isShadowed nodes := by
    rw [Bool.eq_iff_iff, nodeById?_isSome_iff, Node.isShadowed_iff hn, List.mem_map]
  rw [nodeById?_append, hfound]
  cases hr : nodeById? (newRoots nodes) n.id with
  | none =>
      rw [hr] at hnew
      simp [← hnew]
  | some r =>
      -- the root that is found is of a kind that no block has
      obtain ⟨k, -, hkind, rfl⟩ := mem_newRoots.1 (nodeById?_eq_some hr).1
      rw [hr] at hnew
      simp only [Option.some_or, Option.some.injEq, ← hnew, Option.isSome_some, reduceCtorEq,
        iff_false]
      intro heq
      have hk := hkind n hn
      rw [← n.hasKind_drawn, ← heq] at hk
      simp [newRoot, Node.hasKind] at hk

end Kept

/-! ### Graphs -/

/-- What becomes of the blocks of a graph.  The ids are distinct exactly if no block is shadowed, and
a block is found by its id exactly if it is not.  An upgrade drops end blocks. -/
structure Graph.CarriesTo (g : Graph) (upgrade : Bool) (m : Graph) : Prop where
  nodup_iff : (m.nodes.map Node.id).Nodup ↔
    ∀ n ∈ g.nodes, n.isKept upgrade = true → n.isShadowed g.nodes = false
  node?_iff : ∀ n ∈ g.nodes, n.isKept upgrade = true →
    (m.node? n.id = some n.drawn ↔ n.isShadowed g.nodes = false)

namespace Graph

variable {g m : Graph}

theorem carriesTo_of_nodes_eq {upgrade : Bool} (hd : (g.nodes.map Node.id).Nodup)
    (h : m.nodes = (normalNodes g.nodes).filter fun n => n.isKept upgrade) :
    g.CarriesTo upgrade m := by
  rw [filter_normalNodes] at h
  constructor
  · rw [h]
    exact nodup_keptNodes_append_iff hd
  · intro n hn hk
    rw [Graph.node?, h]
    exact nodeById?_keptNodes_append_iff hd hn hk

theorem normalize_nodes : g.normalize.nodes =
    (normalNodes g.nodes).filter fun n => n.isKept false := by
  simp [normalize, Node.isKept]

theorem migration_nodes {u : Migration} (h : g.migration = .ok u) :
    u.graph.nodes = (normalNodes g.nodes).filter fun n => n.isKept true := by
  obtain ⟨found, -, hu⟩ := exists_of_migration h
  simp [hu, Node.isKept]

theorem migrate_nodes (h : g.migrate = .ok m) :
    m.nodes = (normalNodes g.nodes).filter fun n => n.isKept (g.version != 2) := by
  by_cases hv : g.version = 2
  · rw [migrate, if_pos hv] at h
    rw [← Except.ok.inj h, normalize_nodes, hv]
    rfl
  · obtain ⟨u, hu, rfl⟩ := exists_migration_of_migrate hv h
    rw [migration_nodes hu, bne_iff_ne.2 hv]

/-- A loaded graph was upgraded or made normal, as its mode tells. -/
theorem load_cases {mode : Mode} {r : Loaded} (h : g.load mode = .ok r) :
    (mode.isLegacy g = true ∧
      ∃ u, ({ g with version := 1 } : Graph).migration = .ok u ∧ r.graph = u.graph) ∨
    (mode.isLegacy g = false ∧ r.graph = ({ g with version := 2 } : Graph).normalize) := by
  rw [load] at h
  cases hlegacy : mode.isLegacy g with
  | false =>
      rw [hlegacy] at h
      rw [← Except.ok.inj h]
      exact Or.inr ⟨rfl, rfl⟩
  | true =>
      rw [hlegacy, if_pos rfl] at h
      cases hu : ({ g with version := 1 } : Graph).migration with
      | error e =>
          rw [hu] at h
          cases h
      | ok u =>
          rw [hu] at h
          rw [← Except.ok.inj h]
          exact Or.inl ⟨rfl, u, rfl, rfl⟩

theorem load_nodes {mode : Mode} {r : Loaded} (h : g.load mode = .ok r) :
    r.graph.nodes = (normalNodes g.nodes).filter fun n => n.isKept (mode.isLegacy g) := by
  rcases load_cases h with ⟨hlegacy, u, hu, hr⟩ | ⟨hlegacy, hr⟩
  · rw [hr, hlegacy]
    exact migration_nodes hu
  · rw [hr, hlegacy]
    exact normalize_nodes

end Graph

/-! ### Stored blocks -/

/-- Of several blocks with one id the first is kept. -/
theorem nodup_firstsById (seen : List String) (ns : List Node) :
    ((firstsById seen ns).map Node.id).Nodup ∧ ∀ n ∈ firstsById seen ns, n.id ∉ seen := by
  induction ns generalizing seen with
  | nil => simp [firstsById]
  | cons n ns ih =>
      rw [firstsById]
      split
      · exact ih seen
      · rename_i hn
        obtain ⟨hnodup, hseen⟩ := ih (n.id :: seen)
        rw [List.map_cons, List.nodup_cons, List.forall_mem_cons]
        refine ⟨⟨fun hmem => ?_, hnodup⟩, hn, fun m hm hmem => ?_⟩
        · obtain ⟨m, hm, hid⟩ := List.mem_map.1 hmem
          exact hseen m hm (hid ▸ List.mem_cons_self)
        · exact hseen m hm (List.mem_cons_of_mem n.id hmem)

namespace Graph

theorem nodup_ofValue (state : Value) : ((ofValue state).nodes.map Node.id).Nodup :=
  (nodup_firstsById [] _).1

/-- **Loading a graph keeps ids distinct exactly if no block is shadowed**, and so do making it normal
and upgrading it. -/
theorem ids_distinct_iff_not_shadowed (g : Graph) (state : Value) (mode : Mode) :
    ((g.nodes.map Node.id).Nodup →
      g.CarriesTo false g.normalize ∧
        ∀ m, g.migrate = .ok m → g.CarriesTo (g.version != 2) m) ∧
    ∀ r, BlockSketch.load state mode = .ok r →
      (ofValue state).CarriesTo (mode.isLegacy (ofValue state)) r.graph := by
  refine ⟨fun hd => ⟨carriesTo_of_nodes_eq hd normalize_nodes, fun m hm => ?_⟩, fun r hr => ?_⟩
  · exact carriesTo_of_nodes_eq hd (migrate_nodes hm)
  · exact carriesTo_of_nodes_eq (nodup_ofValue state) (load_nodes hr)

/-- Editor state without a setup block, where some other block has its id. -/
def borrowed : Value :=
  .object [("version", .int 1), ("nodes", .array [
    .object [("id", .string "setup"), ("data", .object [("blockType", .string "delay")])],
    .object [("id", .string "setup_root"), ("data", .object [("blockType", .string "end_block")])],
    .object [("id", .string "loop"), ("data", .object [("blockType", .string "loop")])]])]

/-- The end block that has the second id is shadowed in the normal graph.  Loading the state drops it,
and the new root can have its id. -/
theorem borrowed_ids : ((ofValue borrowed).nodes.map Node.id).Nodup ∧
    ¬((ofValue borrowed).normalize.nodes.map Node.id).Nodup ∧
    ∃ r, BlockSketch.load borrowed .auto = .ok r ∧
      r.graph.nodes.map Node.id = ["setup", "loop", "setup_root"] ∧
      (r.graph.nodes.map Node.id).Nodup := by
  have hd := nodup_ofValue borrowed
  obtain ⟨hnormal, hload⟩ := ids_distinct_iff_not_shadowed (ofValue borrowed) borrowed .auto
  refine ⟨hd, fun h => ?_, _, rfl, rfl, (hload _ rfl).nodup_iff.2 (by decide)⟩
  exact absurd ((hnormal hd).1.nodup_iff.1 h) (by decide)

/-- Editor state without a setup block, where both ids for it are taken. -/
def crowded : Value :=
  .object [("version", .int 2), ("nodes", .array [
    .object [("id", .string "setup"), ("data", .object [("blockType", .string "delay")])],
    .object [("id", .string "setup_root"), ("data", .object [("blockType", .string "comment")])],
    .object [("id", .string "loop"), ("data", .object [("blockType", .string "loop")])]])]

/-- The new root takes the id of the comment, which is not found any more. -/
theorem crowded_ids : ((ofValue crowded).nodes.map Node.id).Nodup ∧
    ∃ r, BlockSketch.load crowded .current = .ok r ∧
      r.graph.nodes.map Node.id = ["setup", "setup_root", "loop", "setup_root"] ∧
      ¬(r.graph.nodes.map Node.id).Nodup ∧
      (r.graph.node? "setup_root").map Node.kind? = some (some .setup) :=
  ⟨nodup_ofValue crowded, _, rfl, rfl, by decide, rfl⟩

end Graph

end BlockSketch
