/-
**Ids of typed links.**

The upgrade of a linear graph gives each link that it finds an id, made up of the slot and the ids of
both ends with an underscore between them.  A link whose id is taken is dropped as a repeat.  But ids
of blocks may have underscores themselves, and then two links may have one id though their ends are
not the same: from `a_b` to `c`, and from `a` to `b_c`.  The one that was found later is *lost*, and the
chain breaks off there.

Apart from that, nothing is dropped but self-links and repeats, and nothing is made up.  In a graph
whose blocks have no underscores in their ids, no link is lost: the id of a typed link can then be read
back.  This needs to know that links start at blocks, which is an invariant of the reading.

Main definitions:

* `BlockSketch.Link.spelling`, `BlockSketch.Link.isLost` — what the id of a link tells of it, and
  whether another one has taken it;
* `BlockSketch.Reading.StartsAt` — the links of a reading start at blocks.

Main results:

* `BlockSketch.mem_collectLinks` — **the typed links are the first ones of each id**;
* `BlockSketch.Reading.StartsAt.run`, `BlockSketch.source_mem_kept_of_chainLinks`,
  `BlockSketch.source_mem_of_chainLinks` — links start at blocks, and at none but roots and statements;
* `BlockSketch.Graph.edge_mem_migrate_iff_not_lost` — **the upgrade has the typed link of each link that
  it finds, unless the link is lost**.
-/

import Mathlib.Data.List.Nodup
import BlockSketch.Proofs.LinearGraph

set_option relaxedAutoImplicit false
set_option autoImplicit false

namespace BlockSketch

/-! ### Links with one id -/

namespace Link

/-- What the id of a typed link tells of it. -/
def spelling (l : Link) : Slot × String :=
  (l.slot, l.source ++ "_" ++ l.target)

/-- Whether a link is lost among those that were found: another one with the same spelling came first.
Self-links do not count. -/
def isLost (ls : List Link) (l : Link) : Bool :=
  ls.find? (fun l' => l'.source != l'.target && l'.spelling == l.spelling) != some l

variable {l l' : Link}

theorem edge_id_eq_iff : l.edge.id = l'.edge.id ↔ l.spelling = l'.spelling := by
  rw [← String.toList_inj]
  change (typedId l.source l.target l.slot).toList = (typedId l'.source l'.target l'.slot).toList ↔ _
  rw [typedId_toList, typedId_toList, List.append_cancel_left_eq, spelling, spelling, Prod.mk.injEq,
    ← String.toList_inj]
  constructor
  · intro h
    obtain ⟨hslot, hends⟩ := Slot.tag_append_inj h
    exact ⟨hslot, by simpa using hends⟩
  · rintro ⟨hslot, hends⟩
    rw [hslot]
    simpa using hends

/-- A link can be read back from its id, if the id of its source has no underscore. -/
theorem eq_of_spelling_eq (hs : '_' ∉ l.source.toList) (hs' : '_' ∉ l'.source.toList)
    (h : l.spelling = l'.spelling) : l = l' := by
  obtain ⟨hslot, hends⟩ := Prod.mk.inj h
  have hlist := congrArg String.toList hends
  simp only [String.toList_append, List.append_assoc] at hlist
  obtain ⟨hsource, htarget⟩ := append_mark_inj hs hs' hlist
  obtain ⟨s, t, k⟩ := l
  obtain ⟨s', t', k'⟩ := l'
  rw [Link.mk.injEq]
  exact ⟨String.toList_inj.1 hsource, String.toList_inj.1 htarget, hslot⟩

/-- No link is lost if no source has an underscore in its id. -/
theorem isLost_eq_false {ls : List Link} (hs : ∀ l ∈ ls, '_' ∉ l.source.toList) (hl : l ∈ ls)
    (hne : l.source ≠ l.target) : l.isLost ls = false := by
  have hsome : (ls.find? fun l' => l'.source != l'.target && l'.spelling == l.spelling).isSome := by
    rw [List.find?_isSome]
    exact ⟨l, hl, by simp [hne]⟩
  obtain ⟨l', hl'⟩ := Option.isSome_iff_exists.1 hsome
  have hmem := List.mem_of_find?_eq_some hl'
  have hspelling : l'.spelling = l.spelling := by
    have := List.find?_some hl'
    simp only [Bool.and_eq_true, beq_iff_eq] at this
    exact this.2
  rw [isLost, hl', eq_of_spelling_eq (hs l' hmem) (hs l hl) hspelling]
  simp

end Link

/-- The first link of an id that is no self-link. -/
def holder? (ls : List Link) (id : String) : Option Link :=
  ls.find? fun l => l.source != l.target && l.edge.id == id

theorem Link.isLost_eq_false_iff {ls : List Link} {l : Link} :
    l.isLost ls = false ↔ holder? ls l.edge.id = some l := by
  have hspelling (l' : Link) : (l'.edge.id == l.edge.id) = (l'.spelling == l.spelling) := by
    rw [Bool.eq_iff_iff, beq_iff_eq, beq_iff_eq, edge_id_eq_iff]
  simp [isLost, holder?, hspelling]

theorem holder?_cons (l : Link) (ls : List Link) (id : String) :
    holder? (l :: ls) id =
      if l.source ≠ l.target ∧ l.edge.id = id then some l else holder? ls id := by
  rw [holder?, List.find?_cons]
  split <;> simp_all [holder?]

theorem holder?_eq_some {ls : List Link} {id : String} {l : Link}
    (h : holder? ls id = some l) : l ∈ ls ∧ l.source ≠ l.target ∧ l.edge.id = id := by
  have hprop := List.find?_some h
  simp only [Bool.and_eq_true, bne_iff_ne, beq_iff_eq] at hprop
  exact ⟨List.mem_of_find?_eq_some h, hprop⟩

/-- The typed link of an id is that of the first link found. -/
theorem find?_collectLinks (seen : List Edge) (ls : List Link) (id : String) :
    (collectLinks seen ls).find? (fun e => e.id == id) =
      (seen.find? fun e => e.id == id).or ((holder? ls id).map Link.edge) := by
  induction ls generalizing seen with
  | nil => simp [collectLinks, holder?]
  | cons l ls ih =>
      have htaken : (seen.any fun f => f.id == l.edge.id) =
          (seen.find? fun e => e.id == l.edge.id).isSome := List.isSome_find?.symm
      rw [collectLinks_cons, htaken]
      by_cases hself : l.source = l.target
      · rw [if_pos (Or.inl hself), ih, holder?_cons, if_neg fun h => h.1 hself]
      · by_cases hid : l.edge.id = id
        · subst hid
          cases hseen : seen.find? fun e => e.id == l.edge.id with
          | some e =>
              rw [if_pos (Or.inr (Option.isSome_some)), ih, hseen]
              rfl
          | none =>
              rw [if_neg (by simp [hself]), ih, List.find?_append, hseen, holder?_cons,
                if_pos ⟨hself, rfl⟩]
              simp
        · have hskip : holder? (l :: ls) id = holder? ls id := by
            rw [holder?_cons, if_neg fun h => hid h.2]
          rw [hskip]
          split
          · exact ih seen
          · rw [ih, List.find?_append]
            simp [hid]

/-- No two typed links have one id. -/
theorem nodup_collectLinks {seen : List Edge} (ls : List Link) (hd : (seen.map Edge.id).Nodup) :
    ((collectLinks seen ls).map Edge.id).Nodup := by
  induction ls generalizing seen with
  | nil => exact hd
  | cons l ls ih =>
      rw [collectLinks_cons]
      split
      · exact ih hd
      · rename_i hfree
        apply ih
        rw [List.map_append, List.map_singleton, List.nodup_append]
        refine ⟨hd, List.nodup_singleton _, ?_⟩
        rintro id hid _ hl rfl
        obtain ⟨e, he, heid⟩ := List.mem_map.1 hid
        rw [List.mem_singleton] at hl
        exact hfree (Or.inr (List.any_eq_true.2 ⟨e, he, beq_iff_eq.2 (heid.trans hl)⟩))

/-- **The typed links are the first ones of each id.** -/
theorem mem_collectLinks {ls : List Link} {e : Edge} :
    e ∈ collectLinks [] ls ↔ ∃ l, holder? ls l.edge.id = some l ∧ l.edge = e := by
  have hfind (id : String) : (collectLinks [] ls).find? (fun e => e.id == id) =
      (holder? ls id).map Link.edge := by
    rw [find?_collectLinks]
    rfl
  constructor
  · intro he
    have hsome : ((collectLinks [] ls).find? fun f => f.id == e.id).isSome := by
      rw [List.find?_isSome]
      exact ⟨e, he, beq_self_eq_true e.id⟩
    obtain ⟨f, hf⟩ := Option.isSome_iff_exists.1 hsome
    have hid : f.id = e.id := by simpa using List.find?_some hf
    have hnodup : ((collectLinks [] ls).map Edge.id).Nodup := nodup_collectLinks ls List.nodup_nil
    have hfe : f = e := List.inj_on_of_nodup_map hnodup (List.mem_of_find?_eq_some hf) he hid
    rw [hfind, Option.map_eq_some_iff] at hf
    obtain ⟨l, hl, hlf⟩ := hf
    rw [hfe] at hlf
    refine ⟨l, ?_, hlf⟩
    rw [hlf]
    exact hl
  · rintro ⟨l, hl, rfl⟩
    have hfound := hfind l.edge.id
    rw [hl] at hfound
    exact List.mem_of_find?_eq_some hfound

/-! ### Links start at blocks -/

namespace Reading

/-- The links that a reading has found start at blocks, and so will those to come: the last statement
of each scope is a block. -/
structure StartsAt (nodes : List Node) (r : Reading) : Prop where
  links : ∀ l ∈ r.links, l.source ∈ nodes.map Node.id
  last : ∀ id ∈ r.last, id ∈ nodes.map Node.id
  outer : ∀ last ∈ r.outer, ∀ id ∈ last, id ∈ nodes.map Node.id

namespace StartsAt

variable {nodes kept : List Node} {r : Reading}

/-- The link to the next statement starts at the last one. -/
theorem addStatement_links (h : r.StartsAt kept) (id : String) :
    ∀ l ∈ r.links ++ r.last.toList.map (⟨·, id, .next⟩), l.source ∈ kept.map Node.id := by
  intro l hl
  rcases List.mem_append.1 hl with hl | hl
  · exact h.links l hl
  · obtain ⟨x, hx, rfl⟩ := List.mem_map.1 hl
    exact h.last x (Option.mem_toList.1 hx)

theorem close (h : r.StartsAt kept) : r.close.StartsAt kept := by
  unfold Reading.close
  split
  · exact h
  · rename_i last outer ho
    have houter := h.outer
    rw [ho, List.forall_mem_cons] at houter
    exact ⟨h.links, houter.1, houter.2⟩

section Steps

variable (hkept : ∀ id n, nodeById? nodes id = some n → n.isEnd = false → id ∈ kept.map Node.id)
include hkept

/-- Links start at any blocks among which are the statements that are read. -/
theorem step (h : r.StartsAt kept) (edges : List Edge) : (r.step nodes edges).StartsAt kept := by
  obtain ⟨-, hlast, houter, hlinks⟩ | ⟨id, n, -, hn, hcases⟩ := r.step_cases nodes edges
  · exact ⟨hlinks ▸ h.links, hlast ▸ h.last, houter ▸ h.outer⟩
  · obtain ⟨-, hstep⟩ | ⟨he, first, -, hstep⟩ | ⟨he, -, hstep⟩ := hcases <;> rw [hstep]
    · exact ⟨h.close.links, h.close.last, h.close.outer⟩
    · have hid := hkept id n hn he
      refine ⟨?_, by simp, List.forall_mem_cons.2 ⟨by simpa using hid, h.outer⟩⟩
      rw [List.forall_mem_append, List.forall_mem_singleton]
      exact ⟨h.addStatement_links id, hid⟩
    · exact ⟨h.addStatement_links id, by simpa using hkept id n hn he, h.outer⟩

theorem run (h : r.StartsAt kept) (edges : List Edge) (fuel : Nat) :
    (run nodes edges fuel r).StartsAt kept := by
  induction fuel generalizing r with
  | zero => exact h
  | succ fuel ih => exact ih (h.step hkept edges)

end Steps

end StartsAt

end Reading

section Sources

variable {nodes : List Node} {edges : List Edge}

/-- The links of a root's chain: none, or that to the first statement and those of the reading. -/
theorem rootLinks_cases {root : String} {found : ChainLinks}
    (h : rootLinks nodes edges root = .ok found) :
    found.links = [] ∨
      ∃ first, skipEnds? nodes edges nodes.length (follow? edges root) = some (some first) ∧
        (nodeById? nodes first).isSome = true ∧
        found.links = ⟨root, first, .body⟩ :: (Reading.ofChain nodes edges first).links := by
  unfold rootLinks at h
  split at h
  · cases h
  · obtain rfl := Except.ok.inj h
    exact Or.inl rfl
  · rename_i first hfirst
    split at h
    · rename_i hsome
      obtain rfl := Except.ok.inj h
      exact Or.inr ⟨first, hfirst, hsome, rfl⟩
    · obtain rfl := Except.ok.inj h
      exact Or.inl rfl

/-- What holds of the links of each root's chain holds of all that are found. -/
theorem forall_mem_chainLinks {P : Link → Prop} {roots : List String} {found : ChainLinks}
    (h : chainLinks nodes edges roots = .ok found)
    (hroot : ∀ root ∈ roots, ∀ a, rootLinks nodes edges root = .ok a → ∀ l ∈ a.links, P l) :
    ∀ l ∈ found.links, P l := by
  induction roots generalizing found with
  | nil =>
      obtain rfl := Except.ok.inj h
      simp
  | cons root roots ih =>
      rw [List.forall_mem_cons] at hroot
      rw [chainLinks] at h
      cases ha : rootLinks nodes edges root with
      | error e =>
          rw [ha] at h
          cases h
      | ok a =>
          cases hb : chainLinks nodes edges roots with
          | error e =>
              rw [ha, hb] at h
              cases h
          | ok b =>
              rw [ha, hb] at h
              obtain rfl := Except.ok.inj h
              rw [List.forall_mem_append]
              exact ⟨hroot.1 a ha, ih hb hroot.2⟩

/-- The links that are found start at any blocks among which are the roots and the statements. -/
theorem source_mem_kept_of_chainLinks {kept : List Node} {roots : List String} {found : ChainLinks}
    (h : chainLinks nodes edges roots = .ok found)
    (hkept : ∀ id n, nodeById? nodes id = some n → n.isEnd = false → id ∈ kept.map Node.id)
    (hroots : ∀ id ∈ roots, id ∈ kept.map Node.id) :
    ∀ l ∈ found.links, l.source ∈ kept.map Node.id := by
  refine forall_mem_chainLinks h fun root hroot a ha => ?_
  obtain hnil | ⟨first, -, -, hlinks⟩ := rootLinks_cases ha
  · simp [hnil]
  · have hstart : Reading.StartsAt kept { current := some first } := ⟨by simp, by simp, by simp⟩
    rw [hlinks, List.forall_mem_cons]
    exact ⟨hroots root hroot, (hstart.run hkept edges _).links⟩

/-- The links that are found start at blocks. -/
theorem source_mem_of_chainLinks {roots : List String} {found : ChainLinks}
    (h : chainLinks nodes edges roots = .ok found) (hroots : ∀ id ∈ roots, id ∈ nodes.map Node.id) :
    ∀ l ∈ found.links, l.source ∈ nodes.map Node.id := by
  refine source_mem_kept_of_chainLinks h (fun id n hn _ => ?_) hroots
  exact nodeById?_isSome_iff.1 (by rw [hn]; rfl)

end Sources

/-! ### The upgrade -/

namespace Graph

/-- **The upgrade has the typed link of each link that it finds, unless the link is lost.**  Other
links than those it does not have, and none is lost if no id has an underscore. -/
theorem edge_mem_migrate_iff_not_lost (g m : Graph) (hv : g.version ≠ 2) (hm : g.migrate = .ok m) :
    ∃ found,
      chainLinks (normalNodes g.nodes) g.edges (rootIds (normalNodes g.nodes)) = .ok found ∧
      (∀ l ∈ found.links, l.source ≠ l.target →
        ((∃ e ∈ m.edges, e.source = l.source ∧ e.target = l.target ∧ e.slot = some l.slot) ↔
          l.isLost found.links = false)) ∧
      (∀ e ∈ m.edges, ∃ l ∈ found.links, l.source ≠ l.target ∧ e = l.edge) ∧
      ((∀ n ∈ normalNodes g.nodes, '_' ∉ n.id.toList) →
        ∀ l ∈ found.links, l.source ≠ l.target → l.isLost found.links = false) := by
  obtain ⟨u, hu, rfl⟩ := exists_migration_of_migrate hv hm
  obtain ⟨found, hfound, hgraph⟩ := exists_of_migration hu
  rw [hgraph]
  refine ⟨found, hfound, fun l hl hne => ?_, fun e he => ?_, fun hplain l hl hne => ?_⟩
  · rw [Link.isLost_eq_false_iff]
    constructor
    · rintro ⟨e, he, hends⟩
      obtain ⟨l', hl', rfl⟩ := mem_collectLinks.1 he
      obtain ⟨s, t, k⟩ := l
      obtain ⟨s', t', k'⟩ := l'
      obtain ⟨rfl, rfl, hslot⟩ := hends
      obtain rfl := Option.some.inj hslot
      exact hl'
    · intro hfirst
      exact ⟨l.edge, mem_collectLinks.2 ⟨l, hfirst, rfl⟩, rfl, rfl, rfl⟩
  · obtain ⟨l, hl, rfl⟩ := mem_collectLinks.1 he
    obtain ⟨hmem, hne, -⟩ := holder?_eq_some hl
    exact ⟨l, hmem, hne, rfl⟩
  · have hroots : ∀ id ∈ rootIds (normalNodes g.nodes), id ∈ (normalNodes g.nodes).map Node.id := by
      intro id hid
      obtain ⟨r, hr, rfl⟩ := List.mem_map.1 hid
      exact List.mem_map_of_mem (List.mem_filter.1 hr).1
    refine Link.isLost_eq_false (fun l' hl' => ?_) hl hne
    obtain ⟨n, hn, hid⟩ := List.mem_map.1 (source_mem_of_chainLinks hfound hroots l' hl')
    rw [← hid]
    exact hplain n hn

/-- The blocks of the given ids in one chain after the loop block. -/
def chained (ids : List String) : Graph where
  version := 1
  nodes :=
    Node.create .setup "setup" .null .null :: Node.create .loop "loop" .null .null ::
      ids.map fun id => Node.create .delay id .null .null
  edges :=
    List.zipWith (fun source target => ⟨"", source, target, none, none, none, []⟩) ("loop" :: ids) ids

/-- Underscores do no harm where the ends can be told apart. -/
theorem chained_edges : (chained ["a_b", "c", "b_c"]).version ≠ 2 ∧
    ∃ m, (chained ["a_b", "c", "b_c"]).migrate = .ok m ∧
      ∃ e ∈ m.edges, e.source = "c" ∧ e.target = "b_c" ∧ e.slot = some .next := by
  have hv : (chained ["a_b", "c", "b_c"]).version ≠ 2 := by decide
  refine ⟨hv, _, rfl, ?_⟩
  obtain ⟨found, hfound, hiff, -, -⟩ := edge_mem_migrate_iff_not_lost _ _ hv rfl
  have hlinks : found.links =
      [⟨"loop", "a_b", .body⟩, ⟨"a_b", "c", .next⟩, ⟨"c", "b_c", .next⟩] := by
    rw [← Except.ok.inj hfound]
    rfl
  rw [hlinks] at hiff
  exact (hiff ⟨"c", "b_c", .next⟩ (by decide) (by decide)).2 (by decide)

/-- The links from `a_b` to `c` and from `a` to `b_c` have one id.  The second one is lost, and no link
leads to the last block. -/
theorem chained_lost : ∃ m found,
    (chained ["a_b", "c", "a", "b_c"]).migrate = .ok m ∧
    chainLinks (normalNodes (chained ["a_b", "c", "a", "b_c"]).nodes)
      (chained ["a_b", "c", "a", "b_c"]).edges
      (rootIds (normalNodes (chained ["a_b", "c", "a", "b_c"]).nodes)) = .ok found ∧
    (⟨"a", "b_c", .next⟩ : Link) ∈ found.links ∧
    m.edges.map (fun e => (e.source, e.target)) = [("loop", "a_b"), ("a_b", "c"), ("c", "a")] := by
  refine ⟨_, _, rfl, rfl, ?_, rfl⟩
  decide

end Graph

end BlockSketch
