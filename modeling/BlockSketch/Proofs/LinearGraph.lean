/-
**Chains of imported blocks.**

An imported sketch is a linear graph with both roots whose blocks are numbered along one chain.  The
ids tell all blocks and links apart, the chain of loop has all blocks, and that of setup has none; so
what is known about linear graphs applies to it.

Main definitions:

* `BlockSketch.IsChainId` — the ids of such a graph.

Main results:

* `BlockSketch.chainOf_chainEdges` — the links lead from each block to the next;
* `BlockSketch.typedId_inj` — the ids of typed links tell them apart;
* `BlockSketch.linearGraph_hasLinearChains` — **the graph has finite chains that are apart**;
* `BlockSketch.linearGraph_rootChain_setup`, `BlockSketch.linearGraph_rootChain_loop` — what the two
  chains are.
-/

import BlockSketch.Proofs.Numerals
import BlockSketch.Proofs.Scanning
import BlockSketch.Proofs.Upgrade
import BlockSketch.Sketch.Import

set_option relaxedAutoImplicit false
set_option autoImplicit false

namespace BlockSketch

open BlockSketch.Text

/-! ### Ids -/

theorem chainId_toList (i : Nat) :
    (chainId i).toList = "node_".toList ++ Decimal.digitChars i := by
  simp [chainId, Decimal.digitChars]

theorem chainId_inj {i j : Nat} (h : chainId i = chainId j) : i = j := by
  have hlist := congrArg String.toList h
  rw [chainId_toList, chainId_toList] at hlist
  have hvalue := congrArg digitsValue (List.append_cancel_left hlist)
  rwa [digitsValue_digitChars, digitsValue_digitChars] at hvalue

/-- An id that starts with another letter is not that of a place. -/
theorem chainId_ne {s : String} (h : s.toList.head? ≠ some 'n') (i : Nat) : chainId i ≠ s := by
  rintro rfl
  rw [chainId_toList] at h
  exact h rfl

/-- The ids of the blocks of a chain and of its roots. -/
def IsChainId (id : String) : Prop :=
  id = "setup" ∨ id = "loop" ∨ ∃ i, id = chainId i

/-- What stands before a mark for the first time is known from the whole text. -/
theorem append_mark_inj {mark : Char} {a b s t : List Char} (ha : mark ∉ a) (hb : mark ∉ b)
    (h : a ++ mark :: s = b ++ mark :: t) : a = b ∧ s = t := by
  have hscan := congrArg (upTo? mark) h
  rw [upTo?_append ha, upTo?_append hb] at hscan
  exact Prod.mk.inj (Option.some.inj hscan)

/-- The id of a block ends at the first underscore that does not belong to it. -/
theorem IsChainId.append_inj {a b : String} {s t : List Char} (ha : IsChainId a)
    (hb : IsChainId b) (h : a.toList ++ '_' :: s = b.toList ++ '_' :: t) : a = b ∧ s = t := by
  have hdigits (i : Nat) : '_' ∉ Decimal.digitChars i := fun hmem =>
    absurd (Decimal.isDigit_of_mem_digitChars hmem) (by decide)
  rcases ha with rfl | rfl | ⟨i, rfl⟩ <;> rcases hb with rfl | rfl | ⟨j, rfl⟩
  · exact ⟨rfl, (append_mark_inj (by decide) (by decide) h).2⟩
  · simp at h
  · simp [chainId_toList] at h
  · simp at h
  · exact ⟨rfl, (append_mark_inj (by decide) (by decide) h).2⟩
  · simp [chainId_toList] at h
  · simp [chainId_toList] at h
  · simp [chainId_toList] at h
  · rw [chainId_toList, chainId_toList, List.append_assoc, List.append_assoc] at h
    obtain ⟨hids, hrest⟩ :=
      append_mark_inj (hdigits i) (hdigits j) (List.append_cancel_left h)
    refine ⟨String.toList_inj.1 ?_, hrest⟩
    rw [chainId_toList, chainId_toList, hids]

/-- The tags of slots have one length. -/
theorem Slot.tag_append_inj {k k' : Slot} {s t : List Char}
    (h : k.tag.toList ++ s = k'.tag.toList ++ t) : k = k' ∧ s = t := by
  have hlen (k : Slot) : k.tag.toList.length = 4 := by cases k <;> rfl
  obtain ⟨htag, hrest⟩ := List.append_inj h ((hlen k).trans (hlen k').symm)
  have hsome := congrArg Slot.ofTag? (String.toList_inj.1 htag)
  rw [Slot.ofTag?_tag, Slot.ofTag?_tag] at hsome
  exact ⟨Option.some.inj hsome, hrest⟩

theorem typedId_toList (source target : String) (slot : Slot) :
    (typedId source target slot).toList =
      "v2_".toList ++ (slot.tag.toList ++ '_' :: (source.toList ++ '_' :: target.toList)) := by
  simp [typedId]

/-- The ids of typed links tell them apart. -/
theorem typedId_inj {l l' : Link} (hs : IsChainId l.source) (hs' : IsChainId l'.source)
    (h : typedId l.source l.target l.slot = typedId l'.source l'.target l'.slot) : l = l' := by
  have hlist := congrArg String.toList h
  rw [typedId_toList, typedId_toList] at hlist
  obtain ⟨hslot, hrest⟩ := Slot.tag_append_inj (List.append_cancel_left hlist)
  obtain ⟨hsource, htarget⟩ := hs.append_inj hs' (List.cons.inj hrest).2
  obtain ⟨s, t, k⟩ := l
  obtain ⟨s', t', k'⟩ := l'
  rw [Link.mk.injEq]
  exact ⟨hsource, String.toList_inj.1 htarget, hslot⟩

/-! ### Blocks -/

section Create

variable (k : Kind) (id : String) (x y : Value) (label : Option String) (params : Fields)

@[simp] theorem Node.kind?_create : (Node.create k id x y label params).kind? = some k := by
  simp [Node.kind?, Node.create]

@[simp] theorem Node.id_create : (Node.create k id x y label params).id = id := rfl

@[simp] theorem Node.drawn_create :
    (Node.create k id x y label params).drawn = Node.create k id x y label params := rfl

end Create

/-- The blocks are numbered. -/
theorem chainNodes_map_id (place : Nat) (es : List BlockEntry) :
    (chainNodes place es).map Node.id = (List.range' place es.length).map chainId := by
  induction es generalizing place with
  | nil => rfl
  | cons e es ih => simp [chainNodes, List.range'_succ, ih]

theorem chainNodes_map_drawn (place : Nat) (es : List BlockEntry) :
    (chainNodes place es).map Node.drawn = chainNodes place es := by
  induction es generalizing place with
  | nil => rfl
  | cons e es ih => simp [chainNodes, ih]

/-- The kinds of the blocks are those of the entries. -/
theorem chainNodes_map_kind? (place : Nat) (es : List BlockEntry) :
    (chainNodes place es).map Node.kind? = es.map fun e => some e.1 := by
  induction es generalizing place with
  | nil => rfl
  | cons e es ih => simp [chainNodes, ih]

theorem chainNodes_append (place : Nat) (es es' : List BlockEntry) :
    chainNodes place (es ++ es') = chainNodes place es ++ chainNodes (place + es.length) es' := by
  induction es generalizing place with
  | nil => rfl
  | cons e es ih => simp [chainNodes, ih, Nat.add_assoc, Nat.add_comm 1]

/-- The block from which setup starts. -/
def setupNode : Node :=
  Node.create .setup "setup" (.int 60) (.int 60)

/-- The block from which loop starts. -/
def loopNode : Node :=
  Node.create .loop "loop" (.int 60) (.int 180)

theorem linearGraph_nodes (es : List BlockEntry) :
    (linearGraph es).nodes = setupNode :: loopNode :: chainNodes 1 es := rfl

/-- The graph has both roots. -/
theorem normalNodes_linearGraph (es : List BlockEntry) :
    normalNodes (linearGraph es).nodes = (linearGraph es).nodes := by
  have hsetup : setupNode.hasKind .setup = true := by decide
  have hloop : loopNode.hasKind .loop = true := by decide
  have hdrawn : setupNode.drawn = setupNode ∧ loopNode.drawn = loopNode := ⟨rfl, rfl⟩
  simp [normalNodes, ensureRoots, ensureRoot, linearGraph_nodes, chainNodes_map_drawn, hsetup, hloop,
    hdrawn]

/-- The ids of the graph tell its blocks apart. -/
theorem nodup_linearGraph_ids (es : List BlockEntry) :
    ((linearGraph es).nodes.map Node.id).Nodup := by
  rw [linearGraph_nodes, List.map_cons, List.map_cons, chainNodes_map_id, List.nodup_cons,
    List.nodup_cons]
  refine ⟨?_, ?_, ?_⟩
  · simp only [List.mem_cons, List.mem_map, not_or, not_exists, not_and]
    exact ⟨by decide, fun i _ => chainId_ne (by decide) i⟩
  · simp only [List.mem_map, not_exists, not_and]
    exact fun i _ => chainId_ne (by decide) i
  · exact List.Pairwise.map _ (fun i j hne h => hne (chainId_inj h)) List.nodup_range'

theorem isChainId_of_mem_linearGraph {es : List BlockEntry} {id : String}
    (h : id ∈ (linearGraph es).nodes.map Node.id) : IsChainId id := by
  rw [linearGraph_nodes, List.map_cons, List.map_cons, chainNodes_map_id] at h
  rcases List.mem_cons.1 h with rfl | h
  · exact Or.inl rfl
  · rcases List.mem_cons.1 h with rfl | h
    · exact Or.inr (Or.inl rfl)
    · obtain ⟨i, -, rfl⟩ := List.mem_map.1 h
      exact Or.inr (Or.inr ⟨i, rfl⟩)

/-! ### Chains -/

/-- Links that leave other blocks are passed over. -/
theorem follow?_append {pre post : List Edge} {id : String} (h : ∀ e ∈ pre, e.source ≠ id) :
    follow? (pre ++ post) id = follow? post id := by
  have hfind : pre.find? (fun e => e.source == id) = none := by
    rw [List.find?_eq_none]
    intro e he
    simpa using h e he
  rw [follow?, List.find?_append, hfind, Option.none_or, follow?]

/-- The links lead from each block to the next. -/
theorem chainOf_chainEdges {nodes : List Node} (hd : (nodes.map Node.id).Nodup)
    (pre : List Edge) {last : String} {place : Nat} {es : List BlockEntry}
    (hnodes : ∀ n ∈ chainNodes place es, n ∈ nodes)
    (hpre : ∀ e ∈ pre, e.source ≠ last ∧ ∀ i, place ≤ i → e.source ≠ chainId i)
    (hlast : ∀ i, place ≤ i → last ≠ chainId i) :
    ChainOf nodes (pre ++ chainEdges last place es)
      (follow? (pre ++ chainEdges last place es) last) (chainNodes place es) := by
  induction es generalizing pre last place with
  | nil =>
      rw [follow?_append fun e he => (hpre e he).1]
      exact ChainOf.stop
  | cons e es ih =>
      have hfollow : follow? (chainEdges last place (e :: es)) last = some (chainId place) := by
        simp [follow?, chainEdges]
      rw [follow?_append fun e he => (hpre e he).1, hfollow]
      refine ChainOf.block (nodeById?_of_mem hd (hnodes _ List.mem_cons_self)) ?_
      rw [chainEdges, List.append_cons]
      refine ih _ (fun n hn => hnodes n (List.mem_cons_of_mem _ hn)) ?_ ?_
      · -- the links up to here leave none of the blocks that follow
        intro f hf
        rcases List.mem_append.1 hf with hf | hf
        · exact ⟨(hpre f hf).2 place (Nat.le_refl place),
            fun i hi => (hpre f hf).2 i (Nat.le_of_succ_le hi)⟩
        · obtain rfl := List.mem_singleton.1 hf
          exact ⟨hlast place (Nat.le_refl place), fun i hi => hlast i (Nat.le_of_succ_le hi)⟩
      · intro i hi h
        have := chainId_inj h
        omega

theorem source_of_mem_chainEdges {last : String} {place : Nat} {es : List BlockEntry} {e : Edge}
    (h : e ∈ chainEdges last place es) : e.source = last ∨ ∃ i, e.source = chainId i := by
  induction es generalizing last place with
  | nil => simp [chainEdges] at h
  | cons _ es ih =>
      rcases List.mem_cons.1 h with rfl | h
      · exact Or.inl rfl
      · exact (ih h).elim (fun h => Or.inr ⟨place, h⟩) Or.inr

section LinearGraph

variable {es : List BlockEntry}

/-- The chain of loop has all blocks. -/
theorem linearGraph_chain_loop : ChainOf (linearGraph es).nodes (linearGraph es).edges
    (some "loop") (loopNode :: chainNodes 1 es) := by
  have hd := nodup_linearGraph_ids es
  have hloop : loopNode ∈ (linearGraph es).nodes := by simp [linearGraph_nodes]
  refine ChainOf.block (nodeById?_of_mem hd hloop) ?_
  refine chainOf_chainEdges hd [] (fun n hn => ?_) (by simp) fun i _ => ?_
  · exact List.mem_cons_of_mem _ (List.mem_cons_of_mem _ hn)
  · exact (chainId_ne (by decide) i).symm

/-- No link leaves setup. -/
theorem linearGraph_chain_setup : ChainOf (linearGraph es).nodes (linearGraph es).edges
    (some "setup") [setupNode] := by
  have hd := nodup_linearGraph_ids es
  have hsetup : setupNode ∈ (linearGraph es).nodes := List.mem_cons_self
  refine ChainOf.block (nodeById?_of_mem hd hsetup) ?_
  have hfollow : follow? (linearGraph es).edges "setup" = none := by
    rw [← List.append_nil (linearGraph es).edges, follow?_append fun e he => ?_]
    · rfl
    · rcases source_of_mem_chainEdges he with h | ⟨i, h⟩ <;> rw [h]
      · decide
      · exact chainId_ne (by decide) i
  rw [hfollow]
  exact ChainOf.stop

/-! ### The graph as a linear one -/

variable (hes : ∀ e ∈ es, e.1.isRoot = false)
include hes

/-- Only the two roots are roots. -/
theorem linearGraph_roots : (linearGraph es).nodes.filter Node.isRoot = [setupNode, loopNode] := by
  have hchain : (chainNodes 1 es).filter Node.isRoot = [] := by
    rw [List.filter_eq_nil_iff]
    intro n hn
    have hkind := List.mem_map_of_mem (f := Node.kind?) hn
    rw [chainNodes_map_kind?] at hkind
    obtain ⟨e, he, hk⟩ := List.mem_map.1 hkind
    simp [Node.isRoot, ← hk, hes e he]
  rw [linearGraph_nodes, List.filter_cons_of_pos (by decide), List.filter_cons_of_pos (by decide),
    hchain]

/-- The chains of the two roots. -/
theorem linearGraph_isRootChain_iff {r : Node} {ns : List Node} :
    (linearGraph es).IsRootChain r ns ↔
      (r = setupNode ∧ ns = []) ∨ (r = loopNode ∧ ns = chainNodes 1 es) := by
  rw [Graph.IsRootChain, normalNodes_linearGraph, linearGraph_roots hes]
  constructor
  · rintro ⟨hr, hchain⟩
    simp only [List.mem_cons, List.not_mem_nil, or_false] at hr
    rcases hr with rfl | rfl
    · exact Or.inl ⟨rfl, (List.cons.inj (hchain.unique linearGraph_chain_setup)).2⟩
    · exact Or.inr ⟨rfl, (List.cons.inj (hchain.unique linearGraph_chain_loop)).2⟩
  · rintro (⟨rfl, rfl⟩ | ⟨rfl, rfl⟩)
    · exact ⟨by simp, linearGraph_chain_setup⟩
    · exact ⟨by simp, linearGraph_chain_loop⟩

theorem linearGraph_rootChain_setup : (linearGraph es).RootChain .setup [] := by
  refine ⟨setupNode, ?_, (linearGraph_isRootChain_iff hes).2 (Or.inl ⟨rfl, rfl⟩)⟩
  rw [normalNodes_linearGraph, linearGraph_nodes, List.find?_cons_of_pos (by decide)]

theorem linearGraph_rootChain_loop : (linearGraph es).RootChain .loop (chainNodes 1 es) := by
  refine ⟨loopNode, ?_, (linearGraph_isRootChain_iff hes).2 (Or.inr ⟨rfl, rfl⟩)⟩
  rw [normalNodes_linearGraph, linearGraph_nodes, List.find?_cons_of_neg (by decide),
    List.find?_cons_of_pos (by decide)]

/-- The links of the chains start at blocks of the graph. -/
theorem isChainId_source {found : ChainLinks}
    (hfound : chainLinks (linearGraph es).nodes (linearGraph es).edges
      (rootIds (linearGraph es).nodes) = .ok found) :
    ∀ l ∈ found.links, IsChainId l.source := by
  have hroots : ∀ id ∈ rootIds (linearGraph es).nodes,
      ∃ n ns, ChainOf (linearGraph es).nodes (linearGraph es).edges (some id) (n :: ns) := by
    rw [rootIds, linearGraph_roots hes]
    intro id hid
    simp only [List.map_cons, List.map_nil, List.mem_cons, List.not_mem_nil, or_false] at hid
    rcases hid with rfl | rfl
    · exact ⟨_, _, linearGraph_chain_setup⟩
    · exact ⟨_, _, linearGraph_chain_loop⟩
  obtain ⟨found', hfound', hlinks⟩ := exists_chainLinks hroots
  obtain rfl := Except.ok.inj (hfound'.symm.trans hfound)
  intro l hl
  obtain ⟨id, -, n, ns, hchain, hl⟩ := (hlinks l).1 hl
  obtain ⟨m, hm, hid⟩ := List.mem_map.1 (Outline.mem_nodes_of_mem_links hl).1
  -- a chain is read without its ends, so that each block of the outline is one of the chain
  have hmem : m ∈ n :: ns := by
    simp only [rootOutline, Outline.nodes, readChain_nodes, List.append_nil, List.mem_cons] at hm
    exact List.mem_cons.2 (hm.imp_right fun h => (List.mem_filter.1 h).1)
  rw [← hid]
  exact isChainId_of_mem_linearGraph (List.mem_map_of_mem (hchain.subset_nodes m hmem))

/-- **The graph has finite chains that are apart.** -/
theorem linearGraph_hasLinearChains : (linearGraph es).HasLinearChains where
  nodup := by
    rw [normalNodes_linearGraph]
    exact nodup_linearGraph_ids es
  nonempty := by
    rw [normalNodes_linearGraph]
    intro hmem
    rcases isChainId_of_mem_linearGraph hmem with h | h | ⟨i, h⟩
    · exact absurd h (by decide)
    · exact absurd h (by decide)
    · exact chainId_ne (by decide) i h.symm
  finite := by
    intro r hr
    rw [normalNodes_linearGraph, linearGraph_roots hes] at *
    simp only [List.mem_cons, List.not_mem_nil, or_false] at hr
    rcases hr with rfl | rfl
    · exact ⟨_, linearGraph_chain_setup⟩
    · exact ⟨_, linearGraph_chain_loop⟩
  apart := by
    have hsetup : setupNode ∉ loopNode :: chainNodes 1 es := by
      have hd := nodup_linearGraph_ids es
      rw [linearGraph_nodes, List.map_cons, List.nodup_cons] at hd
      exact fun hmem => hd.1 (List.mem_map_of_mem hmem)
    intro r ns r' ns' h h' hne n hn hn'
    rcases (linearGraph_isRootChain_iff hes).1 h with ⟨rfl, rfl⟩ | ⟨rfl, rfl⟩ <;>
      rcases (linearGraph_isRootChain_iff hes).1 h' with ⟨rfl, rfl⟩ | ⟨rfl, rfl⟩
    · exact hne rfl
    · exact hsetup (List.mem_singleton.1 hn ▸ hn')
    · exact hsetup (List.mem_singleton.1 hn' ▸ hn)
    · exact hne rfl
  typedId_inj := by
    rw [normalNodes_linearGraph]
    intro found hfound l hl l' hl'
    exact typedId_inj (isChainId_source hes hfound l hl) (isChainId_source hes hfound l' hl')

/-- Upgrading and building the graph gives the reading of its chain. -/
theorem linearGraph_exists_build (hn : (readChain (chainNodes 1 es)).nesting ≤ maxNesting) :
    ∃ m, (linearGraph es).migrate = .ok m ∧ m.build.faults = [] ∧ m.build.setup = [] ∧
      m.build.loop = (readChain (chainNodes 1 es)).statements := by
  have hversion : (linearGraph es).version ≠ 2 := show (1 : Int) ≠ 2 by decide
  obtain ⟨m, hm, hbuild⟩ := (linearGraph_hasLinearChains hes).exists_build hversion
    (linearGraph_rootChain_setup hes) (linearGraph_rootChain_loop hes)
  exact ⟨m, hm, hbuild (by decide) hn⟩

end LinearGraph

end BlockSketch
