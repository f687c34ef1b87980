/-
**Upgrading and building a linear graph is reading its chains.**

The upgrade turns the chains of a linear graph into typed links, and the program is then built by
walking along these links.  Neither of the two knows of the other.  Together they yield the direct
reading `BlockSketch.readChain` of the two chains, provided that the chains are finite and apart from
each other and that no link is lost because its id is taken.

The slots of the upgraded graph are the links of the roots' outlines: the links of one outline do not
share a slot because its blocks are distinct, and those of two outlines do not because the chains are
apart.

Main definitions:

* `BlockSketch.Graph.HasLinearChains` — the chains of a graph are finite and apart;
* `BlockSketch.Graph.RootChain` — the blocks after the first root of a kind.

Main results:

* `BlockSketch.exists_collectLinks` — no link is lost if different links have different ids;
* `BlockSketch.Graph.target?_of_links` — the slots of a graph with typed links are its links;
* `BlockSketch.Graph.migrate_build_eq_reading` — **upgrading and building is reading**.
-/

import BlockSketch.Proofs.ChainLinks
import BlockSketch.Proofs.Unfolding

set_option relaxedAutoImplicit false
set_option autoImplicit false

namespace BlockSketch

/-! ### Typed links -/

/-- The typed link of a link that a reading has found. -/
def Link.edge (l : Link) : Edge :=
  Edge.typed l.source l.target l.slot

@[simp] theorem Link.edge_slotIn (l : Link) (nodes : List Node) : l.edge.slotIn nodes = l.slot := rfl

theorem collectLinks_cons (seen : List Edge) (l : Link) (ls : List Link) :
    collectLinks seen (l :: ls) =
      if l.source = l.target ∨ seen.any (fun f => f.id == l.edge.id) then collectLinks seen ls
      else collectLinks (seen ++ [l.edge]) ls := by
  rw [collectLinks]
  rfl

/-- No link is lost if none leads back to its source and different links have different ids. -/
theorem exists_collectLinks {seen ls : List Link} (hd : seen.Nodup)
    (hself : ∀ l ∈ ls, l.source ≠ l.target)
    (hinj : ∀ l ∈ seen ++ ls, ∀ l' ∈ seen ++ ls, l.edge.id = l'.edge.id → l = l') :
    ∃ ks : List Link, collectLinks (seen.map Link.edge) ls = ks.map Link.edge ∧ ks.Nodup ∧
      ∀ l, l ∈ ks ↔ l ∈ seen ++ ls := by
  induction ls generalizing seen with
  | nil => exact ⟨seen, rfl, hd, by simp⟩
  | cons l ls ih =>
      have hself' : ∀ x ∈ ls, x.source ≠ x.target := fun x hx => hself x (List.mem_cons_of_mem l hx)
      have hne : l.source ≠ l.target := hself l List.mem_cons_self
      -- an id is taken only by the link itself
      have htaken : ((seen.map Link.edge).any fun f => f.id == l.edge.id) = true ↔ l ∈ seen := by
        rw [List.any_map, List.any_eq_true]
        constructor
        · rintro ⟨x, hx, hid⟩
          have hid : x.edge.id = l.edge.id := by simpa using hid
          rwa [← hinj x (by simp [hx]) l (by simp) hid]
        · exact fun hl => ⟨l, hl, by simp⟩
      rw [collectLinks_cons]
      by_cases hl : l ∈ seen
      · have hsub : ∀ x ∈ seen ++ ls, x ∈ seen ++ l :: ls := by
          intro x hx
          rw [List.mem_append] at hx ⊢
          exact hx.imp id (List.mem_cons_of_mem l)
        obtain ⟨ks, hks, hkd, hmem⟩ :=
          ih hd hself' fun x hx y hy => hinj x (hsub x hx) y (hsub y hy)
        refine ⟨ks, ?_, hkd, fun x => ?_⟩
        · rw [if_pos (Or.inr (htaken.2 hl)), hks]
        · rw [hmem, List.mem_append, List.mem_append, List.mem_cons]
          constructor
          · exact fun hx => hx.imp id Or.inr
          · rintro (hx | rfl | hx)
            · exact Or.inl hx
            · exact Or.inl hl
            · exact Or.inr hx
      · have hd' : (seen ++ [l]).Nodup := by
          rw [List.nodup_append]
          refine ⟨hd, by simp, ?_⟩
          rintro x hx y hy rfl
          exact hl (List.mem_singleton.1 hy ▸ hx)
        have hassoc : seen ++ l :: ls = seen ++ [l] ++ ls := by simp
        rw [hassoc] at hinj ⊢
        obtain ⟨ks, hks, hkd, hmem⟩ := ih hd' hself' hinj
        refine ⟨ks, ?_, hkd, hmem⟩
        rw [if_neg (fun h => h.elim hne fun h => hl (htaken.1 h)), ← hks, List.map_append,
          List.map_singleton]

namespace Graph

/-- An upgrade that succeeds has read the chains of all roots.  It keeps the blocks but for the end
blocks and has the typed links that were found. -/
theorem exists_of_migration {g : Graph} {u : Migration} (h : g.migration = .ok u) :
    ∃ found, chainLinks (normalNodes g.nodes) g.edges (rootIds (normalNodes g.nodes)) = .ok found ∧
      u.graph =
        ⟨2, (normalNodes g.nodes).filter fun n => !n.isEnd, collectLinks [] found.links⟩ := by
  rw [migration] at h
  cases hfound : chainLinks (normalNodes g.nodes) g.edges (rootIds (normalNodes g.nodes)) with
  | error e =>
      rw [hfound] at h
      cases h
  | ok found =>
      rw [hfound] at h
      exact ⟨found, rfl, (congrArg Migration.graph (Except.ok.inj h)).symm⟩

theorem exists_migration_of_migrate {g m : Graph} (hv : g.version ≠ 2) (h : g.migrate = .ok m) :
    ∃ u, g.migration = .ok u ∧ u.graph = m := by
  rw [migrate, if_neg hv] at h
  cases hu : g.migration with
  | error e =>
      rw [hu] at h
      cases h
  | ok u =>
      rw [hu] at h
      exact ⟨u, rfl, Except.ok.inj h⟩

section Links

variable {g : Graph} {ks : List Link}

/-- The slots of a graph with typed links are its links, if no two of them share a slot. -/
theorem target?_of_links (he : g.edges = ks.map Link.edge)
    (hp : ∀ l ∈ ks, l.source ∈ g.nodes.map Node.id ∧ l.target ∈ g.nodes.map Node.id)
    (hu : ∀ s t t' k, (⟨s, t, k⟩ : Link) ∈ ks → (⟨s, t', k⟩ : Link) ∈ ks → t = t')
    (s t : String) (k : Slot) : g.blueprint.target? s k = some t ↔ (⟨s, t, k⟩ : Link) ∈ ks := by
  have hfills (l : Link) (hl : l ∈ ks) :
      l.edge.fills g.nodes s k = true ↔ l.source = s ∧ l.slot = k := by
    have hpresent : l.edge.isPresent g.nodes = true := by
      rw [Edge.isPresent, Bool.and_eq_true, nodeById?_isSome_iff, nodeById?_isSome_iff]
      exact hp l hl
    rw [Edge.fills_iff, Link.edge_slotIn]
    exact ⟨fun h => h.2, fun h => ⟨hpresent, h⟩⟩
  change g.slotTable.target? s k = some t ↔ _
  rw [slotTable_target?, he, List.find?_map, Option.map_map, Option.map_eq_some_iff]
  constructor
  · rintro ⟨l, hl, rfl⟩
    have hmem := List.mem_of_find?_eq_some hl
    have hfound := List.find?_some hl
    obtain ⟨rfl, rfl⟩ := (hfills l hmem).1 hfound
    exact hmem
  · intro hmem
    have hsome : (ks.find? (Edge.fills g.nodes s k ∘ Link.edge)).isSome = true :=
      List.find?_isSome.2 ⟨_, hmem, (hfills _ hmem).2 ⟨rfl, rfl⟩⟩
    obtain ⟨l, hl⟩ := Option.isSome_iff_exists.1 hsome
    have hlmem := List.mem_of_find?_eq_some hl
    have hfound := List.find?_some hl
    obtain ⟨rfl, rfl⟩ := (hfills l hlmem).1 hfound
    exact ⟨l, hl, hu _ _ _ _ hlmem hmem⟩

/-- Links that share no slot are not reported. -/
theorem slotTable_faults_of_links (he : g.edges = ks.map Link.edge) (hd : ks.Nodup)
    (hu : ∀ s t t' k, (⟨s, t, k⟩ : Link) ∈ ks → (⟨s, t', k⟩ : Link) ∈ ks → t = t') :
    g.slotTable.faults = [] := by
  apply slotTable_faults_eq_nil
  rw [he, List.pairwise_map]
  refine List.Pairwise.imp_of_mem ?_ hd
  rintro ⟨s, t, k⟩ ⟨s', t', k'⟩ hl hl' hne heq
  obtain ⟨hs, hk⟩ := Prod.mk.inj heq
  change s = s' at hs
  change k = k' at hk
  subst hs hk
  exact hne (by rw [hu _ _ _ _ hl hl'])

end Links

/-! ### Linear graphs -/

/-- The chain of a root: the root and the blocks after it. -/
def IsRootChain (g : Graph) (r : Node) (ns : List Node) : Prop :=
  r ∈ (normalNodes g.nodes).filter Node.isRoot ∧
    ChainOf (normalNodes g.nodes) g.edges (some r.id) (r :: ns)

/-- The blocks after the first root of a kind. -/
def RootChain (g : Graph) (k : Kind) (ns : List Node) : Prop :=
  ∃ r, (normalNodes g.nodes).find? (fun n => n.hasKind k) = some r ∧ g.IsRootChain r ns

/-- The chains of the roots are finite and apart, and different links of theirs have different ids. -/
structure HasLinearChains (g : Graph) : Prop where
  nodup : ((normalNodes g.nodes).map Node.id).Nodup
  nonempty : "" ∉ (normalNodes g.nodes).map Node.id
  finite : ∀ r ∈ (normalNodes g.nodes).filter Node.isRoot,
    ∃ ns, ChainOf (normalNodes g.nodes) g.edges (some r.id) ns
  apart : ∀ r ns r' ns', g.IsRootChain r ns → g.IsRootChain r' ns' → r.id ≠ r'.id →
    ∀ n ∈ r :: ns, n ∉ r' :: ns'
  typedId_inj : ∀ found,
    chainLinks (normalNodes g.nodes) g.edges (rootIds (normalNodes g.nodes)) = .ok found →
      ∀ l ∈ found.links, ∀ l' ∈ found.links,
        typedId l.source l.target l.slot = typedId l'.source l'.target l'.slot → l = l'

/-- A normal graph has both roots. -/
theorem exists_find?_root (nodes : List Node) {k : Kind} (hk : k.isRoot = true) :
    ∃ r, (normalNodes nodes).find? (fun n => n.hasKind k) = some r := by
  have hcreate (ns : List Node) (k : Kind) : (ensureRoot k ns).any fun n => n.hasKind k := by
    unfold ensureRoot
    split
    · assumption
    · simp [Node.create, Node.hasKind, Node.kind?, Kind.ofTag?_tag]
  have hkeep (ns : List Node) (k k' : Kind) (h : (ns.any fun n => n.hasKind k') = true) :
      (ensureRoot k ns).any fun n => n.hasKind k' := by
    unfold ensureRoot
    split
    · exact h
    · rw [List.any_append, h, Bool.true_or]
  have hany : ((normalNodes nodes).any fun n => n.hasKind k) = true := by
    cases k with
    | setup => exact hkeep _ _ _ (hcreate _ _)
    | loop => exact hcreate _ _
    | _ => exact absurd hk (by decide)
  rw [← Option.isSome_iff_exists, List.find?_isSome]
  simpa using hany

namespace IsRootChain

variable {g : Graph} {r r' : Node} {ns ns' : List Node}

/-- The blocks of a root's outline. -/
theorem nodes_eq (h : g.IsRootChain r ns) :
    (rootOutline r ns).nodes = (r :: ns).filter fun n => !n.isEnd := by
  have hr : r.isEnd = false := by
    have hroot := (List.mem_filter.1 h.1).2
    cases hk : r.kind? with
    | none => simp [Node.isEnd, Node.hasKind, hk]
    | some k =>
        rw [Node.isRoot, hk] at hroot
        cases k <;> simp_all [Node.isEnd, Node.hasKind, Kind.isRoot]
  simp [rootOutline, Outline.nodes, readChain_nodes, hr]

theorem distinct (h : g.IsRootChain r ns) : (rootOutline r ns).Distinct := by
  unfold Outline.Distinct
  rw [h.nodes_eq]
  exact h.2.nodup.sublist (List.filter_sublist.map Node.id)

/-- The blocks of a root's outline are kept by the upgrade. -/
theorem mem_kept (h : g.IsRootChain r ns) {n : Node} (hn : n ∈ (rootOutline r ns).nodes) :
    n ∈ (normalNodes g.nodes).filter fun n => !n.isEnd := by
  rw [h.nodes_eq, List.mem_filter] at hn
  exact List.mem_filter.2 ⟨h.2.subset_nodes n hn.1, hn.2⟩

/-- Outlines with a block in common are those of one root. -/
theorem eq_of_mem (h : g.IsRootChain r ns) (h' : g.IsRootChain r' ns') (hg : g.HasLinearChains)
    {x : String} (hx : x ∈ (rootOutline r ns).nodes.map Node.id)
    (hx' : x ∈ (rootOutline r' ns').nodes.map Node.id) : r = r' ∧ ns = ns' := by
  obtain ⟨n, hn, rfl⟩ := List.mem_map.1 hx
  obtain ⟨n', hn', hid⟩ := List.mem_map.1 hx'
  have hmem := (List.mem_filter.1 (h.mem_kept hn)).1
  have hmem' := (List.mem_filter.1 (h'.mem_kept hn')).1
  have hfound := nodeById?_of_mem hg.nodup hmem
  rw [← hid, nodeById?_of_mem hg.nodup hmem'] at hfound
  obtain rfl := Option.some.inj hfound
  rw [h.nodes_eq] at hn
  rw [h'.nodes_eq] at hn'
  by_cases hr : r.id = r'.id
  · have hchain := h.2
    rw [hr] at hchain
    exact List.cons.inj (hchain.unique h'.2)
  · exact absurd (List.mem_filter.1 hn').1
      (hg.apart r ns r' ns' h h' hr _ (List.mem_filter.1 hn).1)

end IsRootChain

namespace HasLinearChains

variable {g : Graph} {r : Node}

/-- Every root has a chain. -/
theorem exists_isRootChain (h : g.HasLinearChains)
    (hr : r ∈ (normalNodes g.nodes).filter Node.isRoot) : ∃ ns, g.IsRootChain r ns := by
  obtain ⟨ns, hns⟩ := h.finite r hr
  have hfound := nodeById?_of_mem h.nodup (List.mem_filter.1 hr).1
  cases hns with
  | missing hn => rw [hfound] at hn; simp at hn
  | block hn hrest =>
      obtain rfl := Option.some.inj (hfound.symm.trans hn)
      exact ⟨_, hr, ChainOf.block hn hrest⟩

theorem exists_rootChain (h : g.HasLinearChains) {k : Kind} (hk : k.isRoot = true) :
    ∃ ns, g.RootChain k ns := by
  obtain ⟨r, hr⟩ := exists_find?_root g.nodes hk
  have hkind : r.kind? = some k := by simpa [Node.hasKind] using List.find?_some hr
  have hroot : r ∈ (normalNodes g.nodes).filter Node.isRoot :=
    List.mem_filter.2 ⟨List.mem_of_find?_eq_some hr, by rw [Node.isRoot, hkind]; exact hk⟩
  obtain ⟨ns, hns⟩ := h.exists_isRootChain hroot
  exact ⟨ns, r, hr, hns⟩

end HasLinearChains

/-! ### The upgraded graph -/

/-- What the upgrade of a linear graph yields: the blocks but for the end blocks, and the links of the
roots' outlines. -/
structure Upgraded (g m : Graph) (ks : List Link) : Prop where
  nodes_eq : m.nodes = (normalNodes g.nodes).filter fun n => !n.isEnd
  edges_eq : m.edges = ks.map Link.edge
  nodup : ks.Nodup
  mem_iff : ∀ l, l ∈ ks ↔ ∃ r ns, g.IsRootChain r ns ∧ l ∈ (rootOutline r ns).links

/-- The upgrade succeeds and loses no link. -/
theorem HasLinearChains.exists_upgraded {g : Graph} (h : g.HasLinearChains) (hv : g.version ≠ 2) :
    ∃ m ks, g.migrate = .ok m ∧ g.Upgraded m ks := by
  have hroots : ∀ id ∈ rootIds (normalNodes g.nodes),
      ∃ n ns, ChainOf (normalNodes g.nodes) g.edges (some id) (n :: ns) := by
    intro id hid
    obtain ⟨r, hr, rfl⟩ := List.mem_map.1 hid
    obtain ⟨ns, hns⟩ := h.exists_isRootChain hr
    exact ⟨r, ns, hns.2⟩
  obtain ⟨found, hfound, hlinks⟩ := exists_chainLinks hroots
  have hmem (l : Link) :
      l ∈ found.links ↔ ∃ r ns, g.IsRootChain r ns ∧ l ∈ (rootOutline r ns).links := by
    rw [hlinks]
    constructor
    · rintro ⟨id, hid, n, ns, hchain, hl⟩
      obtain ⟨r, hr, rfl⟩ := List.mem_map.1 hid
      obtain ⟨ns', hns'⟩ := h.exists_isRootChain hr
      obtain ⟨rfl, rfl⟩ := List.cons.inj (hns'.2.unique hchain)
      exact ⟨r, ns', hns', hl⟩
    · rintro ⟨r, ns, hns, hl⟩
      exact ⟨r.id, List.mem_map_of_mem hns.1, r, ns, hns.2, hl⟩
  have hself : ∀ l ∈ found.links, l.source ≠ l.target := by
    intro l hl
    obtain ⟨r, ns, hns, hl⟩ := (hmem l).1 hl
    exact hns.distinct.source_ne_target hl
  obtain ⟨ks, hks, hkd, hkmem⟩ :=
    exists_collectLinks List.nodup_nil hself (h.typedId_inj found hfound)
  let m : Graph :=
    ⟨2, (normalNodes g.nodes).filter fun n => !n.isEnd, collectLinks [] found.links⟩
  refine ⟨m, ks, ?_, rfl, hks, hkd, fun l => (hkmem l).trans (hmem l)⟩
  rw [migrate, if_neg hv, migration, hfound]
  rfl

namespace Upgraded

variable {g m : Graph} {ks : List Link} {r : Node} {ns : List Node}

/-- No two links of the upgraded graph share a slot. -/
theorem target_unique (hu : g.Upgraded m ks) (h : g.HasLinearChains) (s t t' : String) (k : Slot)
    (hl : (⟨s, t, k⟩ : Link) ∈ ks) (hl' : (⟨s, t', k⟩ : Link) ∈ ks) : t = t' := by
  obtain ⟨r, ns, hns, hl⟩ := (hu.mem_iff _).1 hl
  obtain ⟨r', ns', hns', hl'⟩ := (hu.mem_iff _).1 hl'
  obtain ⟨rfl, rfl⟩ := hns.eq_of_mem hns' h (Outline.mem_nodes_of_mem_links hl).1
    (Outline.mem_nodes_of_mem_links hl').1
  exact hns.distinct.target_unique hl hl'

/-- The slots of the upgraded graph are the links of the outlines. -/
theorem follows (hu : g.Upgraded m ks) (h : g.HasLinearChains) (hr : g.IsRootChain r ns) :
    m.blueprint.Follows (rootOutline r ns) := by
  have hp : ∀ l ∈ ks, l.source ∈ m.nodes.map Node.id ∧ l.target ∈ m.nodes.map Node.id := by
    intro l hl
    obtain ⟨r', ns', hns', hl⟩ := (hu.mem_iff l).1 hl
    obtain ⟨hs, ht⟩ := Outline.mem_nodes_of_mem_links hl
    obtain ⟨a, ha, has⟩ := List.mem_map.1 hs
    obtain ⟨b, hb, hbt⟩ := List.mem_map.1 ht
    rw [hu.nodes_eq, ← has, ← hbt]
    exact ⟨List.mem_map_of_mem (hns'.mem_kept ha), List.mem_map_of_mem (hns'.mem_kept hb)⟩
  intro x hx k t
  rw [target?_of_links hu.edges_eq hp (hu.target_unique h), hu.mem_iff]
  constructor
  · rintro ⟨r', ns', hns', hl⟩
    obtain ⟨rfl, rfl⟩ := hr.eq_of_mem hns' h hx (Outline.mem_nodes_of_mem_links hl).1
    exact hl
  · exact fun hl => ⟨r, ns, hr, hl⟩

/-- The blocks of an outline are found in the upgraded graph. -/
theorem nodeById?_of_mem (hu : g.Upgraded m ks) (h : g.HasLinearChains) (hr : g.IsRootChain r ns)
    {n : Node} (hn : n ∈ (rootOutline r ns).nodes) : nodeById? m.nodes n.id = some n := by
  have hd : (m.nodes.map Node.id).Nodup := by
    rw [hu.nodes_eq]
    exact h.nodup.sublist (List.filter_sublist.map Node.id)
  refine BlockSketch.nodeById?_of_mem hd ?_
  rw [hu.nodes_eq]
  exact hr.mem_kept hn

/-- The roots are those of the linear graph. -/
theorem root?_eq (hu : g.Upgraded m ks) {k : Kind} (hk : k.isRoot = true) :
    m.root? k = (normalNodes g.nodes).find? fun n => n.hasKind k := by
  rw [root?, hu.nodes_eq, List.find?_filter]
  congr 1
  funext n
  cases hn : n.hasKind k with
  | false => simp
  | true =>
      have hkind : n.kind? = some k := by simpa [Node.hasKind] using hn
      have hend : n.isEnd = false := by
        rw [Node.isEnd, Node.hasKind, hkind]
        cases k <;> simp_all [Kind.isRoot]
      simp [hend]

/-- The chain of a root unfolds to the reading of the blocks after it. -/
theorem unfolds (hu : g.Upgraded m ks) (h : g.HasLinearChains) {k : Kind} (hk : k.isRoot = true)
    (hr : g.RootChain k ns) : Unfolds m.blueprint (m.start? k) (readChain ns) := by
  obtain ⟨r, hfind, hns⟩ := hr
  have hfollows := hu.follows h hns
  obtain ⟨hbody, -, hnext⟩ := hfollows.slots hns.distinct
  have hmem : ∀ n ∈ (readChain ns).nodes, n ∈ (rootOutline r ns).nodes := by
    intro n hn
    simp [rootOutline, Outline.nodes, hn]
  -- the id of the first statement is not empty, so that the body of the root is not passed over
  have hstart : m.start? k = (readChain ns).first? := by
    rw [start?, hu.root?_eq hk, hfind, Blueprint.start?, Option.bind_some, hbody, hnext]
    cases hf : (readChain ns).first? with
    | none => rfl
    | some id =>
        obtain ⟨n, hn, rfl⟩ := List.mem_map.1 (Outline.first?_mem hf)
        have hne : n.id ≠ "" := by
          intro hid
          apply h.nonempty
          rw [← hid]
          exact List.mem_map_of_mem (List.mem_filter.1 (hns.mem_kept (hmem n hn))).1
        simp [nonEmpty?, hne]
  rw [hstart]
  refine (hfollows.parts hns.distinct).1.unfolds hns.distinct.parts.1.1 ?_ fun n hn =>
    hu.nodeById?_of_mem h hns (hmem n hn)
  rw [readChain_eq]
  exact (readScopes_shaped 0 ns).1

/-- Both chains together unfold to the readings. -/
theorem unfoldsTo (hu : g.Upgraded m ks) (h : g.HasLinearChains) {ss ls : List Node}
    (hs : g.RootChain .setup ss) (hl : g.RootChain .loop ls)
    (hns : (readChain ss).nesting ≤ maxNesting) (hnl : (readChain ls).nesting ≤ maxNesting) :
    m.UnfoldsTo (readChain ss) (readChain ls) := by
  refine ⟨hu.unfolds h rfl hs, hu.unfolds h rfl hl, ?_, hns, hnl⟩
  obtain ⟨r, hr, hss⟩ := hs
  obtain ⟨r', hr', hls⟩ := hl
  have hsub (r : Node) (ns : List Node) : (readChain ns).ids.Sublist
      ((rootOutline r ns).nodes.map Node.id) := by
    refine (Outline.ids_sublist _).trans ?_
    simp [rootOutline, Outline.nodes]
  rw [List.nodup_append]
  refine ⟨hss.distinct.sublist (hsub r ss), hls.distinct.sublist (hsub r' ls), ?_⟩
  rintro x hx y hy rfl
  obtain ⟨rfl, -⟩ := hss.eq_of_mem hls h ((hsub r ss).subset hx) ((hsub r' ls).subset hy)
  have hk : r.kind? = some .setup := by simpa [Node.hasKind] using List.find?_some hr
  have hk' : r.kind? = some .loop := by simpa [Node.hasKind] using List.find?_some hr'
  rw [hk] at hk'
  exact absurd hk' (by decide)

/-- The upgraded graph has no fault before the walks. -/
theorem firstWalk_faults (hu : g.Upgraded m ks) (h : g.HasLinearChains) :
    m.firstWalk.faults = [] := by
  obtain ⟨r, hr⟩ := exists_find?_root g.nodes (k := .loop) rfl
  simp [firstWalk, slotTable_faults_of_links hu.edges_eq hu.nodup (hu.target_unique h),
    hu.root?_eq (k := .loop) rfl, hr]

end Upgraded

/-- The program of the upgraded graph has no fault and consists of the readings of the two chains, if
these do not nest too many containers. -/
theorem HasLinearChains.exists_build {g : Graph} (h : g.HasLinearChains) (hv : g.version ≠ 2)
    {ss ls : List Node} (hs : g.RootChain .setup ss) (hl : g.RootChain .loop ls) :
    ∃ m, g.migrate = .ok m ∧
      ((readChain ss).nesting ≤ maxNesting → (readChain ls).nesting ≤ maxNesting →
        m.build.faults = [] ∧ m.build.setup = (readChain ss).statements ∧
          m.build.loop = (readChain ls).statements) := by
  obtain ⟨m, ks, hm, hu⟩ := h.exists_upgraded hv
  refine ⟨m, hm, fun hns hnl => ?_⟩
  have hunfolds := hu.unfoldsTo h hs hl hns hnl
  refine ⟨?_, hunfolds.statements⟩
  exact hunfolds.walk_faults_eq.2.trans (hu.firstWalk_faults h)

/-- **Upgrading and building is reading**: the upgrade of a linear graph succeeds, and the program of
the upgraded graph has no fault and consists of the readings of the two chains, if these do not nest
too many containers. -/
theorem migrate_build_eq_reading (g : Graph) (hv : g.version ≠ 2) (h : g.HasLinearChains) :
    ∃ m ss ls, g.migrate = .ok m ∧ g.RootChain .setup ss ∧ g.RootChain .loop ls ∧
      ((readChain ss).nesting ≤ maxNesting → (readChain ls).nesting ≤ maxNesting →
        m.build.faults = [] ∧ m.build.setup = (readChain ss).statements ∧
          m.build.loop = (readChain ls).statements) := by
  obtain ⟨ss, hs⟩ := h.exists_rootChain (k := .setup) rfl
  obtain ⟨ls, hl⟩ := h.exists_rootChain (k := .loop) rfl
  obtain ⟨m, hm, hbuild⟩ := h.exists_build hv hs hl
  exact ⟨m, ss, ls, hm, hs, hl, hbuild⟩

/-- A linear graph whose end blocks do not match its containers: one stands at the start of a chain,
one after a container without a body, and one where nothing is open.  The last link leads nowhere. -/
def ragged : Graph where
  version := 1
  nodes :=
    [Node.create .setup "s" .null .null, Node.create .loop "l" .null .null,
     Node.create .endBlock "e" .null .null, Node.create .comment "a" .null .null,
     Node.create .whileLoop "w" .null .null, Node.create .ifThen "i" .null .null,
     Node.create .comment "b" .null .null, Node.create .endBlock "e1" .null .null,
     Node.create .whileLoop "v" .null .null, Node.create .endBlock "e2" .null .null,
     Node.create .endBlock "e3" .null .null, Node.create .comment "c" .null .null]
  edges :=
    [⟨"1", "s", "e", none, none, none, []⟩, ⟨"2", "e", "a", none, none, none, []⟩,
     ⟨"3", "l", "w", none, none, none, []⟩, ⟨"4", "w", "i", none, none, none, []⟩,
     ⟨"5", "i", "b", none, none, none, []⟩, ⟨"6", "b", "e1", none, none, none, []⟩,
     ⟨"7", "e1", "v", none, none, none, []⟩, ⟨"8", "v", "e2", none, none, none, []⟩,
     ⟨"9", "e2", "e3", none, none, none, []⟩, ⟨"10", "e3", "c", none, none, none, []⟩,
     ⟨"11", "c", "lost", none, none, none, []⟩]

/-- The blocks of the given ids. -/
def pick (g : Graph) (ids : List String) : List Node :=
  ids.filterMap (nodeById? (normalNodes g.nodes))

theorem ragged_setup : ChainOf (normalNodes ragged.nodes) ragged.edges (some "s")
    (ragged.pick ["s", "e", "a"]) :=
  .block rfl (.block rfl (.block rfl .stop))

theorem ragged_loop : ChainOf (normalNodes ragged.nodes) ragged.edges (some "l")
    (ragged.pick ["l", "w", "i", "b", "e1", "v", "e2", "e3", "c"]) :=
  .block rfl (.block rfl (.block rfl (.block rfl (.block rfl (.block rfl (.block rfl
    (.block rfl (.block rfl (.missing rfl)))))))))

/-- The roots of the graph and the ids of their chains. -/
theorem ragged_isRootChain {r : Node} {ns : List Node} (h : ragged.IsRootChain r ns) :
    (r.id = "s" ∧ r :: ns = ragged.pick ["s", "e", "a"]) ∨
      (r.id = "l" ∧ r :: ns = ragged.pick ["l", "w", "i", "b", "e1", "v", "e2", "e3", "c"]) := by
  have hroots : ((normalNodes ragged.nodes).filter Node.isRoot).map Node.id = ["s", "l"] := rfl
  have hid : r.id = "s" ∨ r.id = "l" := by
    simpa [hroots] using List.mem_map_of_mem (f := Node.id) h.1
  have hchain := h.2
  rcases hid with hid | hid
  · rw [hid] at hchain
    exact Or.inl ⟨hid, hchain.unique ragged_setup⟩
  · rw [hid] at hchain
    exact Or.inr ⟨hid, hchain.unique ragged_loop⟩

theorem ragged_hasLinearChains : ragged.HasLinearChains := by
  have hids : (normalNodes ragged.nodes).map Node.id =
      ["s", "l", "e", "a", "w", "i", "b", "e1", "v", "e2", "e3", "c"] := rfl
  have hroots : ((normalNodes ragged.nodes).filter Node.isRoot).map Node.id = ["s", "l"] := rfl
  have hapart : ∀ x ∈ (ragged.pick ["s", "e", "a"]).map Node.id,
      x ∉ (ragged.pick ["l", "w", "i", "b", "e1", "v", "e2", "e3", "c"]).map Node.id := by
    decide
  refine ⟨?_, ?_, ?_, ?_, ?_⟩
  · rw [hids]
    decide
  · rw [hids]
    decide
  · intro r hr
    have hid : r.id = "s" ∨ r.id = "l" := by
      simpa [hroots] using List.mem_map_of_mem (f := Node.id) hr
    rcases hid with hid | hid
    · exact ⟨_, hid ▸ ragged_setup⟩
    · exact ⟨_, hid ▸ ragged_loop⟩
  · intro r ns r' ns' h h' hne n hn hn'
    rcases ragged_isRootChain h with ⟨hid, hns⟩ | ⟨hid, hns⟩ <;>
      rcases ragged_isRootChain h' with ⟨hid', hns'⟩ | ⟨hid', hns'⟩
    · exact hne (hid.trans hid'.symm)
    · rw [hns] at hn
      rw [hns'] at hn'
      exact hapart n.id (List.mem_map_of_mem hn) (List.mem_map_of_mem hn')
    · rw [hns] at hn
      rw [hns'] at hn'
      exact hapart n.id (List.mem_map_of_mem hn') (List.mem_map_of_mem hn)
    · exact hne (hid.trans hid'.symm)
  · intro found hfound
    have hlinks : found.links =
        [⟨"s", "a", .body⟩, ⟨"l", "w", .body⟩, ⟨"w", "i", .body⟩, ⟨"i", "b", .body⟩,
         ⟨"i", "v", .next⟩, ⟨"w", "c", .next⟩] := by
      rw [← Except.ok.inj hfound]
      rfl
    rw [hlinks]
    decide

/-- The loop that has no body takes the end block of the one around it. -/
theorem ragged_reading : ragged.HasLinearChains ∧ ∃ m, ragged.migrate = .ok m ∧
    m.build.faults = [] ∧ m.build.setup = [.action (.comment "")] ∧
    m.build.loop =
      [.whileLoop "true" [.branch "true" [.action (.comment "")] [], .whileLoop "true" []],
       .action (.comment "")] := by
  refine ⟨ragged_hasLinearChains, ?_⟩
  obtain ⟨m, ss, ls, hm, ⟨r, hr, hss⟩, ⟨r', hr', hls⟩, hbuild⟩ :=
    migrate_build_eq_reading ragged (by decide) ragged_hasLinearChains
  have hid : some r.id = some "s" := congrArg (Option.map Node.id) hr.symm
  have hid' : some r'.id = some "l" := congrArg (Option.map Node.id) hr'.symm
  have hsetup : ss = ragged.pick ["e", "a"] := by
    rcases ragged_isRootChain hss with ⟨-, h⟩ | ⟨h, -⟩
    · exact (List.cons.inj h).2
    · exact absurd (hid.symm.trans (congrArg some h)) (by decide)
  have hloop : ls = ragged.pick ["w", "i", "b", "e1", "v", "e2", "e3", "c"] := by
    rcases ragged_isRootChain hls with ⟨h, -⟩ | ⟨-, h⟩
    · exact absurd (hid'.symm.trans (congrArg some h)) (by decide)
    · exact (List.cons.inj h).2
  subst hsetup hloop
  obtain ⟨hfaults, hs, hl⟩ := hbuild (by decide) (by decide)
  exact ⟨m, hm, hfaults, hs, hl⟩

end Graph

end BlockSketch
