/-
**Reading a linear chain by scopes.**

A linear chain is a flat list of blocks in which end blocks close what containers have opened.  Its
direct reading goes through the list once: a container that is followed by something else than an end
block opens a scope, an end block closes the innermost scope, and in the scope of the root, where
there is nothing to close, end blocks are ignored.  The result is an outline.

The reading is defined for a list in the middle of a chain, where `depth` scopes are open around the
innermost one: it yields the rest of the innermost scope, and the rest of each scope around it.

Main definitions:

* `BlockSketch.readScopes`, `BlockSketch.readChain` — the reading of a list of blocks;
* `BlockSketch.Outline.nodes`, `BlockSketch.Outline.first?` — the blocks of an outline;
* `BlockSketch.Outline.links` — the typed links that make up an outline;
* `BlockSketch.Blueprint.Follows` — the slots of a blueprint are the links of an outline.

Main results:

* `BlockSketch.readScopes_nodes` — a reading has every block but the end blocks, once and in order;
* `BlockSketch.Blueprint.Follows.unfolds` — **slots that follow an outline unfold to it**.
-/

import BlockSketch.Graph.Legacy
import BlockSketch.Proofs.Outline

set_option relaxedAutoImplicit false
set_option autoImplicit false

namespace BlockSketch

/-! ### The reading -/

/-- Whether a block opens a scope: a container does, if it is followed by a block that closes
nothing. -/
def opensScope (n : Node) (following : List Node) : Bool :=
  n.isContainer && following.head?.any fun m => !m.isEnd

/-- The rest of the innermost scope, and the rests of the `depth` scopes around it, from the inside
out. -/
def readScopes : (depth : Nat) → List Node → Outline × List Outline
  | depth, [] => (.done, List.replicate depth .done)
  | depth, n :: ns =>
    if n.isEnd then
      match depth with
      | 0 => readScopes 0 ns
      | depth + 1 =>
        let r := readScopes depth ns
        (.done, r.1 :: r.2)
    else if opensScope n ns then
      let r := readScopes (depth + 1) ns
      (.block n r.1 .done (r.2.headD .done), r.2.tail)
    else
      let r := readScopes depth ns
      (.block n .done .done r.1, r.2)

/-- The reading of the blocks after a root.  End blocks at the start are dropped. -/
def readChain (ns : List Node) : Outline :=
  (readScopes 0 (ns.dropWhile Node.isEnd)).1

section Equations

variable {n : Node} {ns : List Node} {depth : Nat}

theorem readScopes_nil (depth : Nat) :
    readScopes depth [] = (.done, List.replicate depth .done) := by
  rw [readScopes]

theorem readScopes_end_zero (h : n.isEnd = true) : readScopes 0 (n :: ns) = readScopes 0 ns := by
  rw [readScopes, if_pos h]

theorem readScopes_end_succ (h : n.isEnd = true) :
    readScopes (depth + 1) (n :: ns) =
      (.done, (readScopes depth ns).1 :: (readScopes depth ns).2) := by
  rw [readScopes, if_pos h]

theorem readScopes_open (h : n.isEnd = false) (ho : opensScope n ns = true) :
    readScopes depth (n :: ns) =
      (.block n (readScopes (depth + 1) ns).1 .done ((readScopes (depth + 1) ns).2.headD .done),
        (readScopes (depth + 1) ns).2.tail) := by
  rw [readScopes.eq_def]
  simp only [h, ho, Bool.false_eq_true, if_false, if_true]

theorem readScopes_plain (h : n.isEnd = false) (ho : opensScope n ns = false) :
    readScopes depth (n :: ns) =
      (.block n .done .done (readScopes depth ns).1, (readScopes depth ns).2) := by
  rw [readScopes.eq_def]
  simp only [h, ho, Bool.false_eq_true, if_false]

end Equations

/-- There is one rest for each scope. -/
theorem length_readScopes (depth : Nat) (ns : List Node) :
    (readScopes depth ns).2.length = depth := by
  induction ns generalizing depth with
  | nil => simp [readScopes_nil]
  | cons n ns ih =>
      cases he : n.isEnd with
      | true =>
          cases depth with
          | zero => rw [readScopes_end_zero he, ih]
          | succ depth => rw [readScopes_end_succ he, List.length_cons, ih]
      | false =>
          cases ho : opensScope n ns with
          | true => rw [readScopes_open he ho, List.length_tail, ih]; rfl
          | false => rw [readScopes_plain he ho, ih]

/-- The rests of the scopes around a scope that was just opened. -/
theorem exists_readScopes_succ (depth : Nat) (ns : List Node) :
    ∃ body rest outer, readScopes (depth + 1) ns = (body, rest :: outer) := by
  have hlen := length_readScopes (depth + 1) ns
  obtain ⟨rest, outer, houter⟩ := List.exists_cons_of_length_eq_add_one hlen
  exact ⟨(readScopes (depth + 1) ns).1, rest, outer, Prod.ext rfl houter⟩

/-- In the scope of the root, end blocks at the start are ignored anyway. -/
theorem readScopes_dropWhile (ns : List Node) :
    readScopes 0 (ns.dropWhile Node.isEnd) = readScopes 0 ns := by
  induction ns with
  | nil => rfl
  | cons n ns ih =>
      cases he : n.isEnd with
      | true => rw [List.dropWhile_cons_of_pos he, ih, readScopes_end_zero he]
      | false => rw [List.dropWhile_cons_of_neg (by simp [he])]

theorem readChain_eq (ns : List Node) : readChain ns = (readScopes 0 ns).1 := by
  rw [readChain, readScopes_dropWhile]

/-! ### Blocks and links of an outline -/

namespace Outline

/-- The blocks of an outline, each before its bodies. -/
def nodes : Outline → List Node
  | done => []
  | block n body otherwise rest => n :: (body.nodes ++ (otherwise.nodes ++ rest.nodes))

/-- The first block of an outline. -/
def first? : Outline → Option String
  | done => none
  | block n _ _ _ => some n.id

@[simp] theorem first?_done : done.first? = none := rfl

@[simp] theorem first?_block (n : Node) (body otherwise rest : Outline) :
    (block n body otherwise rest).first? = some n.id := rfl

/-- The links that leave a block by one slot, if the slot leads to the given block. -/
def linkTo (source : String) (slot : Slot) (target : Option String) : List Link :=
  target.toList.map fun t => ⟨source, t, slot⟩

/-- The typed links that make up an outline. -/
def links : Outline → List Link
  | done => []
  | block n body otherwise rest =>
    linkTo n.id .body body.first? ++ linkTo n.id .otherwise otherwise.first? ++
      linkTo n.id .next rest.first? ++ body.links ++ otherwise.links ++ rest.links

/-- Only containers have a body, and only some of them a second one. -/
def Shaped : Outline → Prop
  | done => True
  | block n body otherwise rest =>
    (n.isContainer = false → body = done) ∧ (n.isBranch = false → otherwise = done) ∧
      body.Shaped ∧ otherwise.Shaped ∧ rest.Shaped

theorem mem_linkTo {source : String} {slot : Slot} {target : Option String} {l : Link} :
    l ∈ linkTo source slot target ↔ l.source = source ∧ l.slot = slot ∧ target = some l.target := by
  obtain ⟨s, t, k⟩ := l
  cases target <;> simp [linkTo, and_comm, eq_comm]

theorem mem_links_block {n : Node} {body otherwise rest : Outline} {l : Link} :
    l ∈ (block n body otherwise rest).links ↔
      (l.source = n.id ∧
        ((l.slot = .body ∧ body.first? = some l.target) ∨
          (l.slot = .otherwise ∧ otherwise.first? = some l.target) ∨
          (l.slot = .next ∧ rest.first? = some l.target))) ∨
      l ∈ body.links ∨ l ∈ otherwise.links ∨ l ∈ rest.links := by
  simp only [links, List.mem_append, mem_linkTo]
  tauto

theorem first?_mem {o : Outline} {id : String} (h : o.first? = some id) :
    id ∈ o.nodes.map Node.id := by
  cases o with
  | done => simp [first?] at h
  | block n body otherwise rest =>
      obtain rfl := Option.some.inj h
      simp [nodes]

/-- A link of an outline leaves one of its blocks and arrives at another. -/
theorem mem_nodes_of_mem_links {o : Outline} {l : Link} (h : l ∈ o.links) :
    l.source ∈ o.nodes.map Node.id ∧ l.target ∈ o.nodes.map Node.id := by
  induction o with
  | done => simp [links] at h
  | block n body otherwise rest ihbody ihother ihrest =>
      simp only [nodes, List.map_cons, List.map_append, List.mem_cons, List.mem_append]
      rcases mem_links_block.1 h with ⟨hs, ht⟩ | h | h | h
      · refine ⟨Or.inl hs, Or.inr ?_⟩
        rcases ht with ⟨-, ht⟩ | ⟨-, ht⟩ | ⟨-, ht⟩
        · exact Or.inl (first?_mem ht)
        · exact Or.inr (Or.inl (first?_mem ht))
        · exact Or.inr (Or.inr (first?_mem ht))
      · have := ihbody h
        tauto
      · have := ihother h
        tauto
      · have := ihrest h
        tauto

/-- The blocks that yield a statement are blocks of the outline. -/
theorem ids_sublist (o : Outline) : o.ids.Sublist (o.nodes.map Node.id) := by
  induction o with
  | done => exact List.Sublist.slnil
  | block n body otherwise rest ihbody ihother ihrest =>
      simp only [ids, nodes, List.map_cons, List.map_append, List.append_assoc]
      have htail := ihbody.append (ihother.append ihrest)
      cases n.isSilent with
      | true => simpa using htail.cons n.id
      | false => simpa using htail.cons_cons n.id

end Outline

/-! ### Slots that follow an outline -/

/-- The slots of the blocks of an outline are its links. -/
def Blueprint.Follows (b : Blueprint) (o : Outline) : Prop :=
  ∀ x ∈ o.nodes.map Node.id, ∀ k t, b.target? x k = some t ↔ (⟨x, t, k⟩ : Link) ∈ o.links

namespace Outline

variable {n : Node} {body otherwise rest : Outline}

/-- The blocks of an outline are distinct. -/
def Distinct (o : Outline) : Prop :=
  (o.nodes.map Node.id).Nodup

/-- If its blocks are distinct, the first block of an outline is in none of its parts, and no two
parts have a block in common. -/
theorem Distinct.parts (hd : (block n body otherwise rest).Distinct) :
    (body.Distinct ∧ otherwise.Distinct ∧ rest.Distinct) ∧
      (∀ x ∈ body.nodes.map Node.id,
        x ≠ n.id ∧ x ∉ otherwise.nodes.map Node.id ∧ x ∉ rest.nodes.map Node.id) ∧
      (∀ x ∈ otherwise.nodes.map Node.id, x ≠ n.id ∧ x ∉ rest.nodes.map Node.id) ∧
      ∀ x ∈ rest.nodes.map Node.id, x ≠ n.id := by
  simp only [Distinct, nodes, List.map_cons, List.map_append] at hd
  obtain ⟨hn, hd⟩ := List.nodup_cons.1 hd
  obtain ⟨hbody, hd, hb⟩ := List.nodup_append.1 hd
  obtain ⟨hother, hrest, ho⟩ := List.nodup_append.1 hd
  simp only [List.mem_append, not_or] at hn
  refine ⟨⟨hbody, hother, hrest⟩, ?_, ?_, ?_⟩
  · intro x hx
    refine ⟨fun h => hn.1 (h ▸ hx), fun h => ?_, fun h => ?_⟩
    · exact hb x hx x (List.mem_append_left _ h) rfl
    · exact hb x hx x (List.mem_append_right _ h) rfl
  · intro x hx
    exact ⟨fun h => hn.2.1 (h ▸ hx), fun h => ho x hx x h rfl⟩
  · intro x hx h
    exact hn.2.2 (h ▸ hx)

/-- The links that leave the first block of an outline lead to its parts. -/
theorem Distinct.mem_links_first (hd : (block n body otherwise rest).Distinct) {t : String}
    {k : Slot} : (⟨n.id, t, k⟩ : Link) ∈ (block n body otherwise rest).links ↔
      (k = .body ∧ body.first? = some t) ∨ (k = .otherwise ∧ otherwise.first? = some t) ∨
        (k = .next ∧ rest.first? = some t) := by
  obtain ⟨-, hb, ho, hr⟩ := hd.parts
  rw [mem_links_block]
  constructor
  · rintro (⟨-, h⟩ | h | h | h)
    · exact h
    · exact absurd rfl (hb _ (mem_nodes_of_mem_links h).1).1
    · exact absurd rfl (ho _ (mem_nodes_of_mem_links h).1).1
    · exact absurd rfl (hr _ (mem_nodes_of_mem_links h).1)
  · intro h
    exact Or.inl ⟨rfl, h⟩

/-- The links that leave a block of a part are those of the part. -/
theorem Distinct.mem_links_part (hd : (block n body otherwise rest).Distinct) {l : Link} :
    (l.source ∈ body.nodes.map Node.id →
      (l ∈ (block n body otherwise rest).links ↔ l ∈ body.links)) ∧
    (l.source ∈ otherwise.nodes.map Node.id →
      (l ∈ (block n body otherwise rest).links ↔ l ∈ otherwise.links)) ∧
    (l.source ∈ rest.nodes.map Node.id →
      (l ∈ (block n body otherwise rest).links ↔ l ∈ rest.links)) := by
  obtain ⟨-, hb, ho, hr⟩ := hd.parts
  have hsource {o : Outline} (h : l ∈ o.links) : l.source ∈ o.nodes.map Node.id :=
    (mem_nodes_of_mem_links h).1
  rw [mem_links_block]
  refine ⟨fun hx => ⟨?_, fun h => Or.inr (Or.inl h)⟩,
    fun hx => ⟨?_, fun h => Or.inr (Or.inr (Or.inl h))⟩,
    fun hx => ⟨?_, fun h => Or.inr (Or.inr (Or.inr h))⟩⟩
  · rintro (⟨hn, -⟩ | h | h | h)
    · exact absurd hn (hb _ hx).1
    · exact h
    · exact absurd (hsource h) (hb _ hx).2.1
    · exact absurd (hsource h) (hb _ hx).2.2
  · rintro (⟨hn, -⟩ | h | h | h)
    · exact absurd hn (ho _ hx).1
    · exact absurd hx (hb _ (hsource h)).2.1
    · exact h
    · exact absurd (hsource h) (ho _ hx).2
  · rintro (⟨hn, -⟩ | h | h | h)
    · exact absurd hn (hr _ hx)
    · exact absurd hx (hb _ (hsource h)).2.2
    · exact absurd hx (ho _ (hsource h)).2
    · exact h

/-- If its blocks are distinct, a slot of an outline leads to one block at most. -/
theorem Distinct.target_unique {o : Outline} (hd : o.Distinct) {s t t' : String} {k : Slot}
    (h : (⟨s, t, k⟩ : Link) ∈ o.links) (h' : (⟨s, t', k⟩ : Link) ∈ o.links) : t = t' := by
  induction o with
  | done => simp [links] at h
  | block n body otherwise rest ihbody ihother ihrest =>
      obtain ⟨hdb, hdo, hdr⟩ := hd.parts.1
      obtain ⟨hbody, hother, hrest⟩ := hd.mem_links_part (l := ⟨s, t', k⟩)
      rcases mem_links_block.1 h with ⟨rfl, h⟩ | h | h | h
      · have h' := hd.mem_links_first.1 h'
        grind
      · exact ihbody hdb h ((hbody (mem_nodes_of_mem_links h).1).1 h')
      · exact ihother hdo h ((hother (mem_nodes_of_mem_links h).1).1 h')
      · exact ihrest hdr h ((hrest (mem_nodes_of_mem_links h).1).1 h')

/-- If its blocks are distinct, no link of an outline leads back to its source. -/
theorem Distinct.source_ne_target {o : Outline} (hd : o.Distinct) {l : Link} (h : l ∈ o.links) :
    l.source ≠ l.target := by
  induction o with
  | done => simp [links] at h
  | block n body otherwise rest ihbody ihother ihrest =>
      obtain ⟨⟨hdb, hdo, hdr⟩, hb, ho, hr⟩ := hd.parts
      rcases mem_links_block.1 h with ⟨hs, ⟨-, h⟩ | ⟨-, h⟩ | ⟨-, h⟩⟩ | h | h | h
      · rw [hs]
        exact (hb _ (first?_mem h)).1.symm
      · rw [hs]
        exact (ho _ (first?_mem h)).1.symm
      · rw [hs]
        exact (hr _ (first?_mem h)).symm
      · exact ihbody hdb h
      · exact ihother hdo h
      · exact ihrest hdr h

end Outline

namespace Blueprint.Follows

variable {b : Blueprint} {n : Node} {body otherwise rest : Outline}

/-- The slots of the first block lead to its bodies and to the rest. -/
theorem slots (h : b.Follows (.block n body otherwise rest))
    (hd : (Outline.block n body otherwise rest).Distinct) :
    b.target? n.id .body = body.first? ∧ b.target? n.id .otherwise = otherwise.first? ∧
      b.target? n.id .next = rest.first? := by
  have hslot (k : Slot) (t : String) :=
    (h n.id (by simp [Outline.nodes]) k t).trans hd.mem_links_first
  refine ⟨Option.ext fun t => ?_, Option.ext fun t => ?_, Option.ext fun t => ?_⟩
  · simpa using hslot .body t
  · simpa using hslot .otherwise t
  · simpa using hslot .next t

/-- The parts of an outline are followed as well. -/
theorem parts (h : b.Follows (.block n body otherwise rest))
    (hd : (Outline.block n body otherwise rest).Distinct) :
    b.Follows body ∧ b.Follows otherwise ∧ b.Follows rest := by
  simp only [Blueprint.Follows, Outline.nodes, List.map_cons, List.map_append, List.mem_cons,
    List.mem_append] at h
  refine ⟨?_, ?_, ?_⟩
  · intro x hx k t
    rw [h x (Or.inr (Or.inl hx)) k t, hd.mem_links_part.1 hx]
  · intro x hx k t
    rw [h x (Or.inr (Or.inr (Or.inl hx))) k t, hd.mem_links_part.2.1 hx]
  · intro x hx k t
    rw [h x (Or.inr (Or.inr (Or.inr hx))) k t, hd.mem_links_part.2.2 hx]

/-- **Slots that follow an outline unfold to it.** -/
theorem unfolds {o : Outline} (h : b.Follows o) (hd : o.Distinct) (hs : o.Shaped)
    (hn : ∀ n ∈ o.nodes, nodeById? b.nodes n.id = some n) : Unfolds b o.first? o := by
  induction o with
  | done => exact Unfolds.done
  | block n body otherwise rest ihbody ihother ihrest =>
      obtain ⟨hbody, hother, hsb, hso, hsr⟩ := hs
      obtain ⟨htb, hto, htn⟩ := h.slots hd
      obtain ⟨hfb, hfo, hfr⟩ := h.parts hd
      obtain ⟨⟨hdb, hdo, hdr⟩, -⟩ := hd.parts
      simp only [Outline.nodes, List.mem_cons, List.mem_append] at hn
      have hub := ihbody hfb hdb hsb fun m hm => hn m (Or.inr (Or.inl hm))
      have huo := ihother hfo hdo hso fun m hm => hn m (Or.inr (Or.inr (Or.inl hm)))
      have hur := ihrest hfr hdr hsr fun m hm => hn m (Or.inr (Or.inr (Or.inr hm)))
      have hbs : b.bodyStart? n = body.first? := by
        cases hc : n.isContainer with
        | true => rw [bodyStart?, if_pos hc, htb]
        | false => rw [bodyStart?_eq_none hc, hbody hc, Outline.first?]
      have hos : b.otherwiseStart? n = otherwise.first? := by
        cases hc : n.isBranch with
        | true => rw [otherwiseStart?, if_pos hc, hto]
        | false => rw [otherwiseStart?, if_neg (by simp [hc]), hother hc, Outline.first?]
      refine Unfolds.block (hn n (Or.inl rfl)) ?_ ?_ ?_
      · rw [hbs]
        exact hub
      · rw [hos]
        exact huo
      · rw [htn]
        exact hur

end Blueprint.Follows

/-! ### Outlines that are read -/

/-- A reading has every block but the end blocks, once and in order. -/
theorem readScopes_nodes (depth : Nat) (ns : List Node) :
    (readScopes depth ns).1.nodes ++ (readScopes depth ns).2.flatMap Outline.nodes =
      ns.filter fun n => !n.isEnd := by
  induction ns generalizing depth with
  | nil => simp [readScopes_nil, Outline.nodes]
  | cons n ns ih =>
      cases he : n.isEnd with
      | true =>
          rw [List.filter_cons_of_neg (by simp [he])]
          cases depth with
          | zero => rw [readScopes_end_zero he, ih]
          | succ depth => rw [readScopes_end_succ he, ← ih depth]; rfl
      | false =>
          rw [List.filter_cons_of_pos (by simp [he])]
          cases ho : opensScope n ns with
          | true =>
              have hnodes := ih (depth + 1)
              obtain ⟨body, rest, outer, hr⟩ := exists_readScopes_succ depth ns
              rw [readScopes_open he ho, hr]
              rw [hr] at hnodes
              simp [Outline.nodes, ← hnodes]
          | false =>
              rw [readScopes_plain he ho]
              simp [Outline.nodes, ← ih depth]

theorem readChain_nodes (ns : List Node) :
    (readChain ns).nodes = ns.filter fun n => !n.isEnd := by
  have hnodes := readScopes_nodes 0 ns
  have hlen := List.length_eq_zero_iff.1 (length_readScopes 0 ns)
  rw [readChain_eq]
  simpa [hlen] using hnodes

/-- Only containers open scopes, and none has a second body. -/
theorem readScopes_shaped (depth : Nat) (ns : List Node) :
    (readScopes depth ns).1.Shaped ∧ ∀ o ∈ (readScopes depth ns).2, o.Shaped := by
  induction ns generalizing depth with
  | nil =>
      rw [readScopes_nil]
      refine ⟨trivial, fun o ho => ?_⟩
      rw [(List.mem_replicate.1 ho).2]
      trivial
  | cons n ns ih =>
      cases he : n.isEnd with
      | true =>
          cases depth with
          | zero =>
              rw [readScopes_end_zero he]
              exact ih 0
          | succ depth =>
              rw [readScopes_end_succ he]
              refine ⟨trivial, fun o ho => ?_⟩
              rcases List.mem_cons.1 ho with rfl | ho
              · exact (ih depth).1
              · exact (ih depth).2 o ho
      | false =>
          cases ho : opensScope n ns with
          | true =>
              obtain ⟨body, rest, outer, hr⟩ := exists_readScopes_succ depth ns
              obtain ⟨hbody, houter⟩ := ih (depth + 1)
              have hc : n.isContainer = true := (Bool.and_eq_true_iff.1 ho).1
              rw [hr] at hbody houter
              rw [readScopes_open he ho, hr]
              refine ⟨⟨by simp [hc], fun _ => rfl, hbody, trivial, ?_⟩, fun o hm => ?_⟩
              · exact houter rest List.mem_cons_self
              · exact houter o (List.mem_cons_of_mem _ hm)
          | false =>
              rw [readScopes_plain he ho]
              exact ⟨⟨fun _ => rfl, fun _ => rfl, trivial, trivial, (ih depth).1⟩, (ih depth).2⟩

end BlockSketch
