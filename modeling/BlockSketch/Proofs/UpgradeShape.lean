/-
**What an upgraded graph looks like.**

A graph in version 2 is only made normal, and a normal graph is not changed.  So a second upgrade does
nothing, if what the first one makes is normal already.

The upgrade of a linear graph makes more than that.  No end block is left, and the links between the
other blocks all have one form.  That a link has both of its ends among the blocks that are left is an
invariant of the reading: it starts where the last statement was, it ends at the statement that is read
or at the first one of a body, and no statement is an end block.  This goes by the ids of the blocks.
Ids may repeat, and then the block that an id finds need not be the one whose chain is read.

Main definitions:

* `BlockSketch.Node.IsRedrawn` — two blocks that differ in how they are drawn at most;
* `BlockSketch.Edge.IsJoint` — a link between two blocks, in the form that the upgrade gives it;
* `BlockSketch.Graph.IsUpgradeOf` — the form of an upgraded graph.

Main results:

* `BlockSketch.isEndId_of_skipEnds?` — the skipping of end blocks does not stop at one;
* `BlockSketch.Reading.target_mem_run`, `BlockSketch.target_mem_kept_of_chainLinks` — links end at
  statements;
* `BlockSketch.Graph.isUpgradeOf_migrate` — an upgraded graph has that form;
* `BlockSketch.Graph.migrate_settles` — **a second upgrade changes nothing**.
-/

import BlockSketch.Proofs.SlotTargets

set_option relaxedAutoImplicit false
set_option autoImplicit false

namespace BlockSketch

/-! ### Links end at statements -/

section Targets

variable {nodes kept : List Node} {edges : List Edge}

/-- The skipping of end blocks does not stop at one. -/
theorem isEndId_of_skipEnds? {fuel : Nat} {start : Option String} {first : String}
    (h : skipEnds? nodes edges fuel start = some (some first)) : isEndId nodes first = false := by
  fun_induction skipEnds? nodes edges fuel start with
  | case1 => cases h
  | case2 => cases h
  | case3 id hend =>
      obtain rfl := Option.some.inj (Option.some.inj h)
      exact Bool.eq_false_iff.2 hend
  | case4 fuel id hend ih => exact ih h
  | case5 fuel id hend =>
      obtain rfl := Option.some.inj (Option.some.inj h)
      exact Bool.eq_false_iff.2 hend

/-- A body starts with a statement. -/
theorem exists_of_bodyStart? {n : Node} {following : Option String} {first : String}
    (h : Reading.bodyStart? nodes n following = some first) :
    ∃ m, nodeById? nodes first = some m ∧ m.isEnd = false := by
  unfold Reading.bodyStart? at h
  split at h
  · obtain ⟨-, hstatement⟩ := Option.filter_eq_some_iff.1 h
    obtain ⟨m, hm, hend⟩ := (Option.any_eq_true _ _).1 hstatement
    exact ⟨m, hm, by simpa using hend⟩
  · cases h

section Reading

variable (hkept : ∀ id n, nodeById? nodes id = some n → n.isEnd = false → id ∈ kept.map Node.id)
include hkept

namespace Reading

variable {r : Reading}

/-- A step adds links to statements only: to the one that is read, and to the first one of its body. -/
theorem target_mem_step (h : ∀ l ∈ r.links, l.target ∈ kept.map Node.id) :
    ∀ l ∈ (r.step nodes edges).links, l.target ∈ kept.map Node.id := by
  obtain ⟨-, -, -, hlinks⟩ | ⟨id, n, -, hn, hcases⟩ := r.step_cases nodes edges
  · rw [hlinks]
    exact h
  · have hread (he : n.isEnd = false) :
        ∀ l ∈ r.links ++ r.last.toList.map (⟨·, id, .next⟩), l.target ∈ kept.map Node.id := by
      intro l hl
      rcases List.mem_append.1 hl with hl | hl
      · exact h l hl
      · obtain ⟨x, -, rfl⟩ := List.mem_map.1 hl
        exact hkept id n hn he
    obtain ⟨-, hstep⟩ | ⟨he, first, hb, hstep⟩ | ⟨he, -, hstep⟩ := hcases <;> rw [hstep]
    · rw [close.eq_def]
      split <;> exact h
    · obtain ⟨m, hm, hend⟩ := exists_of_bodyStart? hb
      rw [List.forall_mem_append, List.forall_mem_singleton]
      exact ⟨hread he, hkept first m hm hend⟩
    · exact hread he

theorem target_mem_run (h : ∀ l ∈ r.links, l.target ∈ kept.map Node.id) (fuel : Nat) :
    ∀ l ∈ (run nodes edges fuel r).links, l.target ∈ kept.map Node.id := by
  induction fuel generalizing r with
  | zero => exact h
  | succ fuel ih => exact ih (target_mem_step hkept h)

end Reading

/-- The links that are found end at any blocks among which are the statements. -/
theorem target_mem_kept_of_chainLinks {roots : List String} {found : ChainLinks}
    (h : chainLinks nodes edges roots = .ok found) :
    ∀ l ∈ found.links, l.target ∈ kept.map Node.id := by
  refine forall_mem_chainLinks h fun root _ a ha => ?_
  obtain hnil | ⟨first, hfirst, hsome, hlinks⟩ := rootLinks_cases ha
  · simp [hnil]
  · obtain ⟨n, hn⟩ := Option.isSome_iff_exists.1 hsome
    have hend : n.isEnd = false := by
      have hid := isEndId_of_skipEnds? hfirst
      rwa [isEndId, hn] at hid
    rw [hlinks, List.forall_mem_cons]
    exact ⟨hkept first n hn hend, Reading.target_mem_run hkept (by simp) _⟩

end Reading

/-- A link that is due leads into a body or to a successor. -/
theorem Link.IsDue.slot_eq {l : Link} (h : l.IsDue nodes edges) : l.slot = .body ∨ l.slot = .next := by
  obtain ⟨x, y, k⟩ := l
  cases k with
  | body => exact Or.inl rfl
  | next => exact Or.inr rfl
  | otherwise => exact h.elim

end Targets

/-! ### Blocks that are left -/

/-- The second block is the first one, but for how it is drawn. -/
def Node.IsRedrawn (n n' : Node) : Prop :=
  { n' with renderType := n.renderType } = n

theorem Node.isRedrawn_drawn (n : Node) : n.IsRedrawn n.drawn := by
  unfold IsRedrawn drawn
  split <;> rfl

theorem Node.isEnd_eq_false_of_isRoot {n : Node} (h : n.isRoot = true) : n.isEnd = false := by
  obtain ⟨k, hk, hroot⟩ := (Option.any_eq_true _ _).1 h
  rw [isEnd, hasKind, hk]
  cases k <;> first | rfl | cases hroot

section Kept

variable {nodes : List Node} {id : String}

/-- A statement is a block that is left. -/
theorem mem_kept_of_nodeById? {n : Node} (hn : nodeById? nodes id = some n) (he : n.isEnd = false) :
    id ∈ (nodes.filter fun n => !n.isEnd).map Node.id := by
  obtain ⟨hmem, rfl⟩ := nodeById?_eq_some hn
  exact List.mem_map_of_mem (List.mem_filter.2 ⟨hmem, by simp [he]⟩)

/-- A root is a block that is left, even if its id finds another one. -/
theorem mem_kept_of_rootIds (h : id ∈ rootIds nodes) :
    id ∈ (nodes.filter fun n => !n.isEnd).map Node.id := by
  obtain ⟨r, hr, rfl⟩ := List.mem_map.1 h
  obtain ⟨hmem, hroot⟩ := List.mem_filter.1 hr
  refine List.mem_map_of_mem (List.mem_filter.2 ⟨hmem, ?_⟩)
  rw [Node.isEnd_eq_false_of_isRoot hroot]
  rfl

end Kept

/-- The new roots are of the kinds that no block has. -/
theorem kinds_newRoots (nodes : List Node) : (newRoots nodes).map Node.kind? =
    (rootKinds.filter fun k => !nodes.any fun n => n.hasKind k).map some := by
  rw [newRoots, List.map_map]
  refine List.map_congr_left fun k _ => ?_
  simp [newRoot]

/-! ### Upgraded graphs -/

/-- A link between two different blocks of the list, in the form that the upgrade gives it.  It leads
into a body or to a successor, and its id and its handle tell which. -/
structure Edge.IsJoint (nodes : List Node) (e : Edge) : Prop where
  kind : ∃ k : Slot, (k = .body ∨ k = .next) ∧ e.slot = some k ∧ e.sourceHandle = some k.tag ∧
    e.id = "v2_" ++ k.tag ++ "_" ++ e.source ++ "_" ++ e.target
  targetHandle : e.targetHandle = some "in"
  ne : e.source ≠ e.target
  source_mem : e.source ∈ nodes.map Node.id
  target_mem : e.target ∈ nodes.map Node.id

/-- The form of an upgraded graph: the blocks but for the end blocks, in their order, then the roots
that were missing, and links with distinct ids between them. -/
structure Graph.IsUpgradeOf (m g : Graph) : Prop where
  version : m.version = 2
  roots : ∀ k ∈ rootKinds, ∃ n ∈ m.nodes, n.hasKind k = true
  isEnd : ∀ n ∈ m.nodes, n.isEnd = false
  nodes : ∃ kept added, m.nodes = kept ++ added ∧
    List.Forall₂ Node.IsRedrawn (g.nodes.filter fun n => !n.isEnd) kept ∧
    added.map Node.kind? = (rootKinds.filter fun k => !g.nodes.any fun n => n.hasKind k).map some
  ids : (m.edges.map Edge.id).Nodup
  edges : ∀ e ∈ m.edges, e.IsJoint m.nodes

namespace Graph

variable {g m : Graph}

/-- The links of an upgraded graph join blocks of it. -/
theorem isJoint_of_migration {u : Migration} (h : g.migration = .ok u) :
    ∀ e ∈ u.graph.edges, e.IsJoint u.graph.nodes := by
  obtain ⟨found, hfound, hgraph⟩ := exists_of_migration h
  rw [hgraph]
  intro e he
  obtain ⟨l, hl, rfl⟩ := mem_collectLinks.1 he
  obtain ⟨hmem, hne, -⟩ := holder?_eq_some hl
  have hkept : ∀ id n, nodeById? (normalNodes g.nodes) id = some n → n.isEnd = false →
      id ∈ ((normalNodes g.nodes).filter fun n => !n.isEnd).map Node.id := by
    intro id n hn he
    exact mem_kept_of_nodeById? hn he
  exact {
    kind := ⟨l.slot, (isDue_of_chainLinks hfound l hmem).slot_eq, rfl, rfl, rfl⟩
    targetHandle := rfl
    ne := hne
    source_mem := source_mem_kept_of_chainLinks hfound hkept (fun _ => mem_kept_of_rootIds) l hmem
    target_mem := target_mem_kept_of_chainLinks hkept hfound l hmem }

theorem isUpgradeOf_migrate (hv : g.version ≠ 2) (hm : g.migrate = .ok m) : m.IsUpgradeOf g := by
  obtain ⟨u, hu, rfl⟩ := exists_migration_of_migrate hv hm
  obtain ⟨found, -, hgraph⟩ := exists_of_migration hu
  have hnodes := migration_nodes hu
  constructor
  case version => rw [hgraph]
  case roots => exact (isNormal_migration hu).roots
  case isEnd =>
    intro n hn
    rw [hnodes] at hn
    simpa [Node.isKept] using (List.mem_filter.1 hn).2
  case nodes =>
    refine ⟨keptNodes true g.nodes, newRoots g.nodes, ?_, ?_, kinds_newRoots g.nodes⟩
    · rw [hnodes, filter_normalNodes]
    · simp only [keptNodes, Node.isKept, Bool.true_and]
      rw [List.forall₂_map_right_iff, List.forall₂_same]
      exact fun n _ => n.isRedrawn_drawn
  case ids =>
    rw [hgraph]
    exact nodup_collectLinks found.links List.nodup_nil
  case edges => exact isJoint_of_migration hu

/-- A normal graph of version 2 is what its upgrade gives. -/
theorem IsNormal.migrate_eq (h : m.IsNormal) (hv : m.version = 2) : m.migrate = .ok m := by
  rw [migrate, if_pos hv, h.normalize_eq]

/-- **A second upgrade changes nothing**: what an upgrade gives is normal, whichever way it was made.
What it makes of a linear graph has roots, no end blocks, and links of one form between the blocks that
are left. -/
theorem migrate_settles (g m : Graph) (hm : g.migrate = .ok m) :
    m.migrate = .ok m ∧ (g.version ≠ 2 → m.IsUpgradeOf g) := by
  refine ⟨?_, fun hv => isUpgradeOf_migrate hv hm⟩
  by_cases hv : g.version = 2
  · rw [migrate, if_pos hv] at hm
    obtain rfl := Except.ok.inj hm
    exact (isNormal_normalize g).migrate_eq hv
  · obtain ⟨u, hu, rfl⟩ := exists_migration_of_migrate hv hm
    exact (isNormal_migration hu).migrate_eq (isUpgradeOf_migrate hv hm).version

/-- A linear graph without a setup block.  One of the loops leads to itself.  The chain of the other one
starts with an end block, has one too many and comes back to its container. -/
def frayed : Graph where
  version := 1
  nodes :=
    [Node.create .endBlock "e" .null .null, Node.create .loop "l" .null .null,
      Node.create .whileLoop "w" .null .null, Node.create .delay "a" .null .null,
      Node.create .endBlock "f" .null .null, Node.create .endBlock "h" .null .null,
      { Node.create .delay "b" .null .null with renderType := none },
      Node.create .loop "k" .null .null]
  edges :=
    List.zipWith (fun source target => ⟨"", source, target, none, none, none, []⟩)
      ["l", "e", "w", "a", "f", "h", "b", "k"] ["e", "w", "a", "f", "h", "b", "w", "k"]

/-- The setup block is added at the end, and the link of the loop to itself is dropped. -/
theorem frayed_upgrade : frayed.version ≠ 2 ∧ ∃ m, frayed.migrate = .ok m ∧
    m.nodes.map Node.id = ["l", "w", "a", "b", "k", "setup"] ∧
    m.edges.map Edge.id = ["v2_body_l_w", "v2_body_w_a", "v2_next_w_b"] ∧
    m.migrate = .ok m ∧ m.IsUpgradeOf frayed := by
  have hv : frayed.version ≠ 2 := by decide
  have hsettles := migrate_settles frayed _ rfl
  exact ⟨hv, _, rfl, by decide, by decide, hsettles.1, hsettles.2 hv⟩

end Graph

end BlockSketch
