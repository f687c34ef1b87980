/-
**The links of linear chains.**

The upgrade of a linear graph reads each root's chain block by block, with a stack of the last
statements of the open scopes, and turns it into typed links.  On a finite chain these are the links
of the direct reading `BlockSketch.readChain`.

The simulation is between the stack and the outlines that the reading still has to yield: the links
that are found from some point on are those of these outlines, each joined to the last statement of
its scope.

Main definitions:

* `BlockSketch.ChainOf` — the blocks of a finite chain;
* `BlockSketch.joined` — the links of an outline, with the one that joins it to what stood before;
* `BlockSketch.pending` — the links that are still to be found;
* `BlockSketch.rootOutline` — the outline of a root and its chain.

Main results:

* `BlockSketch.Reading.mem_run_links` — **the links of a reading are those of the outlines**;
* `BlockSketch.exists_chainLinks` — the links of all roots are those of their outlines.
-/

import BlockSketch.Proofs.Scopes
import BlockSketch.Proofs.Slots

set_option relaxedAutoImplicit false
set_option autoImplicit false

namespace BlockSketch

/-! ### Finite chains -/

/-- The blocks of the chain that starts at the given id.  It ends at a block without a link and at an
id that is not that of a block. -/
inductive ChainOf (nodes : List Node) (edges : List Edge) : Option String → List Node → Prop
  | stop : ChainOf nodes edges none []
  | missing {id : String} : nodeById? nodes id = none → ChainOf nodes edges (some id) []
  | block {id : String} {n : Node} {ns : List Node} :
      nodeById? nodes id = some n → ChainOf nodes edges (follow? edges id) ns →
      ChainOf nodes edges (some id) (n :: ns)

namespace ChainOf

variable {nodes : List Node} {edges : List Edge} {start : Option String} {ns ns' : List Node}

theorem unique (h : ChainOf nodes edges start ns) (h' : ChainOf nodes edges start ns') :
    ns = ns' := by
  induction h generalizing ns' with
  | stop =>
      cases h' with
      | stop => rfl
  | missing hn =>
      cases h' with
      | missing _ => rfl
      | block hn' _ => rw [hn] at hn'; simp at hn'
  | block hn _ ih =>
      cases h' with
      | missing hn' => rw [hn] at hn'; simp at hn'
      | block hn' hrest =>
          obtain rfl := Option.some.inj (hn.symm.trans hn')
          rw [ih hrest]

theorem subset_nodes (h : ChainOf nodes edges start ns) : ∀ n ∈ ns, n ∈ nodes := by
  induction h with
  | stop => simp
  | missing _ => simp
  | block hn _ ih =>
      intro m hm
      rcases List.mem_cons.1 hm with rfl | hm
      · exact (nodeById?_eq_some hn).1
      · exact ih m hm

/-- From each of its blocks on, a chain is a chain. -/
theorem exists_suffix (h : ChainOf nodes edges start ns) {m : Node} (hm : m ∈ ns) :
    ∃ ms, ChainOf nodes edges (some m.id) (m :: ms) ∧ ms.length < ns.length := by
  induction h with
  | stop => simp at hm
  | missing _ => simp at hm
  | block hn hrest ih =>
      rcases List.mem_cons.1 hm with rfl | hm
      · refine ⟨_, ?_, Nat.lt_succ_self _⟩
        rw [nodeById?_id hn]
        exact ChainOf.block hn hrest
      · obtain ⟨ms, hms, hlt⟩ := ih hm
        exact ⟨ms, hms, Nat.lt_succ_of_lt hlt⟩

/-- A finite chain does not come back to one of its blocks. -/
theorem nodup (h : ChainOf nodes edges start ns) : (ns.map Node.id).Nodup := by
  induction h with
  | stop => exact List.nodup_nil
  | missing _ => exact List.nodup_nil
  | @block id n ns hn hrest ih =>
      rw [List.map_cons, List.nodup_cons]
      refine ⟨fun hmem => ?_, ih⟩
      obtain ⟨m, hm, hid⟩ := List.mem_map.1 hmem
      obtain ⟨ms, hms, hlt⟩ := hrest.exists_suffix hm
      rw [hid, nodeById?_id hn] at hms
      -- two chains from one id have one length
      have hlen := congrArg List.length (hms.unique (ChainOf.block hn hrest))
      simp only [List.length_cons] at hlen
      omega

theorem length_le (h : ChainOf nodes edges start ns) : ns.length ≤ nodes.length := by
  have hle := length_le_of_subset_ids h.nodup fun v hv => by
    obtain ⟨n, hn, rfl⟩ := List.mem_map.1 hv
    exact List.mem_map_of_mem (h.subset_nodes n hn)
  rwa [List.length_map] at hle

/-- The id at which a chain starts is that of its first block, if it is that of a block at all. -/
theorem filter_start (h : ChainOf nodes edges start ns) (p : Node → Bool) :
    (start.filter fun id => (nodeById? nodes id).any p) = (ns.head?.filter p).map Node.id := by
  cases h with
  | stop => rfl
  | missing hn => simp [hn]
  | block hn _ =>
      rw [Option.filter_some, hn, List.head?_cons, Option.filter_some]
      cases hp : p _ with
      | true => simp [hp, nodeById?_id hn]
      | false => simp [hp]

/-- End blocks at the start of a chain are skipped. -/
theorem exists_skipEnds? (h : ChainOf nodes edges start ns) {fuel : Nat} (hf : ns.length ≤ fuel) :
    ∃ first, skipEnds? nodes edges fuel start = some first ∧
      ChainOf nodes edges first (ns.dropWhile Node.isEnd) := by
  induction h generalizing fuel with
  | stop => exact ⟨none, by cases fuel <;> rfl, ChainOf.stop⟩
  | @missing id hn =>
      have hend : isEndId nodes id = false := by simp [isEndId, hn]
      exact ⟨some id, by cases fuel <;> simp [skipEnds?, hend], ChainOf.missing hn⟩
  | @block id n ns hn hrest ih =>
      have hend : isEndId nodes id = n.isEnd := by simp [isEndId, hn]
      cases he : n.isEnd with
      | true =>
          rw [he] at hend
          cases fuel with
          | zero => simp at hf
          | succ fuel =>
              rw [List.dropWhile_cons_of_pos he]
              obtain ⟨first, hfirst, hchain⟩ := ih (by simpa using hf)
              exact ⟨first, by simpa [skipEnds?, hend] using hfirst, hchain⟩
      | false =>
          rw [he] at hend
          rw [List.dropWhile_cons_of_neg (by simp [he])]
          exact ⟨some id, by cases fuel <;> simp [skipEnds?, hend], ChainOf.block hn hrest⟩

end ChainOf

/-! ### The links of a reading -/

/-- The links of an outline that comes after the given statement of its scope. -/
def joined (last : Option String) (o : Outline) : List Link :=
  last.toList.flatMap (fun s => Outline.linkTo s .next o.first?) ++ o.links

theorem mem_joined {last : Option String} {o : Outline} {l : Link} :
    l ∈ joined last o ↔
      (last = some l.source ∧ l.slot = .next ∧ o.first? = some l.target) ∨ l ∈ o.links := by
  cases last <;> simp [joined, Outline.mem_linkTo, eq_comm]

/-- The links that are still to be found: those of the rest of each scope. -/
def pending (last : Option String) (outer : List (Option String)) (r : Outline × List Outline) :
    List Link :=
  joined last r.1 ++ (List.zipWith joined outer r.2).flatten

/-- The first block of a list that opens with a statement is the first one of its reading. -/
theorem first?_readScopes {n : Node} (ns : List Node) (depth : Nat) (he : n.isEnd = false) :
    (readScopes depth (n :: ns)).1.first? = some n.id := by
  cases ho : opensScope n ns with
  | true => rw [readScopes_open he ho]; rfl
  | false => rw [readScopes_plain he ho]; rfl

section Pending

variable {n : Node} {ns : List Node} {last : Option String} {outer : List (Option String)}

@[simp] theorem joined_done (last : Option String) : joined last .done = [] := by
  cases last <;> rfl

theorem pending_nil (last : Option String) (outer : List (Option String)) (depth : Nat) :
    pending last outer (readScopes depth []) = [] := by
  rw [readScopes_nil, pending, joined_done, List.nil_append, List.flatten_eq_nil_iff]
  intro ls hls
  obtain ⟨i, hi, rfl⟩ := List.mem_iff_getElem.1 hls
  simp

/-- After an end block, the rest of the scope around the innermost one is to be found. -/
theorem pending_end (he : n.isEnd = true) (before : Option String) (depth : Nat) :
    pending last (before :: outer) (readScopes (depth + 1) (n :: ns)) =
      pending before outer (readScopes depth ns) := by
  rw [readScopes_end_succ he]
  simp [pending]

theorem mem_map_next {last : Option String} {id : String} {l : Link} :
    l ∈ last.toList.map (fun s => (⟨s, id, .next⟩ : Link)) ↔
      last = some l.source ∧ l.slot = .next ∧ some id = some l.target := by
  obtain ⟨s, t, k⟩ := l
  cases last <;> simp [eq_comm, and_comm]

/-- A block that opens a scope is joined to what stood before it and to its body. -/
theorem mem_pending_open {first : String} (he : n.isEnd = false) (ho : opensScope n ns = true)
    (hf : ns.head?.map Node.id = some first) (depth : Nat) (l : Link) :
    l ∈ pending last outer (readScopes depth (n :: ns)) ↔
      (l ∈ last.toList.map (fun s => (⟨s, n.id, .next⟩ : Link)) ∨ l = ⟨n.id, first, .body⟩) ∨
        l ∈ pending none (some n.id :: outer) (readScopes (depth + 1) ns) := by
  obtain ⟨m, ms, rfl⟩ : ∃ m ms, ns = m :: ms := by
    cases ns with
    | nil => simp at hf
    | cons m ms => exact ⟨m, ms, rfl⟩
  have hm : m.isEnd = false := by simpa [opensScope] using (Bool.and_eq_true_iff.1 ho).2
  have hbody := first?_readScopes ms (depth + 1) hm
  obtain ⟨body, rest, outs, hr⟩ := exists_readScopes_succ depth (m :: ms)
  obtain rfl : m.id = first := by simpa using hf
  simp only [hr] at hbody
  rw [readScopes_open he ho, hr]
  obtain ⟨s, t, k⟩ := l
  simp only [pending, List.mem_append, mem_joined, Outline.mem_links_block, mem_map_next,
    List.headD_cons, List.tail_cons, List.zipWith_cons_cons, List.flatten_cons]
  simp only [Outline.first?_block, Outline.first?_done, hbody, Outline.links, Link.mk.injEq,
    Option.some.injEq, List.not_mem_nil, reduceCtorEq]
  grind

/-- Any other block is joined to what stood before it. -/
theorem mem_pending_plain (he : n.isEnd = false) (ho : opensScope n ns = false) (depth : Nat)
    (l : Link) :
    l ∈ pending last outer (readScopes depth (n :: ns)) ↔
      l ∈ last.toList.map (fun s => (⟨s, n.id, .next⟩ : Link)) ∨
        l ∈ pending (some n.id) outer (readScopes depth ns) := by
  rw [readScopes_plain he ho]
  simp only [pending, List.mem_append, mem_joined, Outline.mem_links_block, mem_map_next]
  simp only [Outline.first?_block, Outline.first?_done, Outline.links, Option.some.injEq,
    List.not_mem_nil, reduceCtorEq]
  grind

end Pending

namespace Reading

variable {nodes : List Node} {edges : List Edge}

theorem run_of_stopped (fuel : Nat) (r : Reading) (h : r.current = none) :
    run nodes edges fuel r = r := by
  induction fuel with
  | zero => rfl
  | succ fuel ih =>
      have hstep : r.step nodes edges = r := by
        rw [step.eq_def, h]
      rw [run, hstep, ih]

/-- A reading stops at a block that was read before. -/
theorem step_revisit {r : Reading} {id : String} (hc : r.current = some id) (hv : id ∈ r.visited) :
    r.step nodes edges = { r with current := none, revisit := some id } := by
  rw [step.eq_def, hc]
  simp [hv]

/-- A reading stops at an id that is not that of a block. -/
theorem step_missing {r : Reading} {id : String} (hc : r.current = some id) (hv : id ∉ r.visited)
    (hn : nodeById? nodes id = none) :
    r.step nodes edges = { r with visited := r.visited ++ [id], current := none } := by
  rw [step.eq_def, hc]
  simp [hv, hn]

theorem run_links_of_missing (fuel : Nat) {r : Reading} {id : String} (h : r.current = some id)
    (hn : nodeById? nodes id = none) : (run nodes edges fuel r).links = r.links := by
  cases fuel with
  | zero => rfl
  | succ fuel =>
      rw [run]
      by_cases hv : id ∈ r.visited
      · rw [step_revisit h hv, run_of_stopped _ _ rfl]
      · rw [step_missing h hv hn, run_of_stopped _ _ rfl]

section Step

variable {r : Reading} {id : String} {n : Node}

/-- Reading an end block closes a scope. -/
theorem step_end (hc : r.current = some id) (hv : id ∉ r.visited)
    (hn : nodeById? nodes id = some n) (he : n.isEnd = true) :
    r.step nodes edges =
      { r.close with visited := r.visited ++ [id], current := follow? edges id } := by
  rw [step.eq_def, hc]
  cases ho : r.outer <;> simp [hv, hn, he, close, ho]

/-- Reading a block that opens a scope yields a link to it and one from it. -/
theorem step_open {first : String} (hc : r.current = some id) (hv : id ∉ r.visited)
    (hn : nodeById? nodes id = some n) (he : n.isEnd = false)
    (hb : bodyStart? nodes n (follow? edges id) = some first) :
    r.step nodes edges =
      { r with
        current := follow? edges id
        last := none
        outer := some id :: r.outer
        visited := r.visited ++ [id]
        links := r.links ++ r.last.toList.map (⟨·, id, .next⟩) ++ [⟨id, first, .body⟩] } := by
  rw [step.eq_def, hc]
  simp [hv, hn, he, hb, addStatement, openScope]

/-- Reading any other block yields a link to it. -/
theorem step_plain (hc : r.current = some id) (hv : id ∉ r.visited)
    (hn : nodeById? nodes id = some n) (he : n.isEnd = false)
    (hb : bodyStart? nodes n (follow? edges id) = none) :
    r.step nodes edges =
      { r with
        current := follow? edges id
        last := some id
        visited := r.visited ++ [id]
        links := r.links ++ r.last.toList.map (⟨·, id, .next⟩) } := by
  rw [step.eq_def, hc]
  simp [hv, hn, he, hb, addStatement]

/-- What a step can do: nothing more is found, an end block closes a scope, or a statement is added,
which may open a scope. -/
theorem step_cases (nodes : List Node) (edges : List Edge) (r : Reading) :
    ((r.step nodes edges).current = none ∧ (r.step nodes edges).last = r.last ∧
      (r.step nodes edges).outer = r.outer ∧ (r.step nodes edges).links = r.links) ∨
    ∃ id n, r.current = some id ∧ nodeById? nodes id = some n ∧
      ((n.isEnd = true ∧ r.step nodes edges =
          { r.close with visited := r.visited ++ [id], current := follow? edges id }) ∨
        (n.isEnd = false ∧ ∃ first, bodyStart? nodes n (follow? edges id) = some first ∧
          r.step nodes edges =
            { r with
              current := follow? edges id
              last := none
              outer := some id :: r.outer
              visited := r.visited ++ [id]
              links := r.links ++ r.last.toList.map (⟨·, id, .next⟩) ++ [⟨id, first, .body⟩] }) ∨
        (n.isEnd = false ∧ bodyStart? nodes n (follow? edges id) = none ∧
          r.step nodes edges =
            { r with
              current := follow? edges id
              last := some id
              visited := r.visited ++ [id]
              links := r.links ++ r.last.toList.map (⟨·, id, .next⟩) })) := by
  cases hc : r.current with
  | none =>
      have hstep : r.step nodes edges = r := by rw [step.eq_def, hc]
      rw [hstep]
      exact Or.inl ⟨hc, rfl, rfl, rfl⟩
  | some id =>
      by_cases hv : id ∈ r.visited
      · rw [step_revisit hc hv]
        exact Or.inl ⟨rfl, rfl, rfl, rfl⟩
      · cases hn : nodeById? nodes id with
        | none =>
            rw [step_missing hc hv hn]
            exact Or.inl ⟨rfl, rfl, rfl, rfl⟩
        | some n =>
            refine Or.inr ⟨id, n, rfl, hn, ?_⟩
            cases he : n.isEnd with
            | true => exact Or.inl ⟨rfl, step_end hc hv hn he⟩
            | false =>
                cases hb : bodyStart? nodes n (follow? edges id) with
                | some first => exact Or.inr (Or.inl ⟨rfl, first, rfl, step_open hc hv hn he hb⟩)
                | none => exact Or.inr (Or.inr ⟨rfl, rfl, step_plain hc hv hn he hb⟩)

end Step

/-- A container of a chain opens a scope exactly if it does so in the list of its blocks. -/
theorem bodyStart?_eq {n : Node} {following : Option String} {ns : List Node}
    (h : ChainOf nodes edges following ns) :
    bodyStart? nodes n following =
      if opensScope n ns then ns.head?.map Node.id else none := by
  unfold bodyStart? opensScope Node.isContainer
  rw [h.filter_start]
  cases n.kind?.any Kind.isContainer with
  | false => rfl
  | true =>
      cases ns with
      | nil => rfl
      | cons m ns => cases hm : m.isEnd <;> simp [hm, Option.filter]

/-- **The links of a reading are those of the outlines**: from any point of a chain on, the reading
finds the links of the rest of each scope, joined to the scope's last statement. -/
theorem mem_run_links {ns : List Node} : ∀ {fuel : Nat} {r : Reading},
    ChainOf nodes edges r.current ns → ns.length < fuel → (∀ n ∈ ns, n.id ∉ r.visited) →
    ∀ l, l ∈ (run nodes edges fuel r).links ↔
      l ∈ r.links ∨ l ∈ pending r.last r.outer (readScopes r.outer.length ns) := by
  induction ns with
  | nil =>
      intro fuel r hchain _ _ l
      have hlinks : (run nodes edges fuel r).links = r.links := by
        generalize hcur : r.current = start at hchain
        cases hchain with
        | stop => rw [run_of_stopped fuel r hcur]
        | missing hn => exact run_links_of_missing fuel hcur hn
      rw [hlinks, pending_nil]
      simp
  | cons n ns ih =>
      intro fuel r hchain hfuel hvisited l
      generalize hcur : r.current = start at hchain
      cases hchain with
      | @block id _ _ hn hrest =>
          obtain ⟨fuel, rfl⟩ : ∃ k, fuel = k + 1 := ⟨fuel - 1, by omega⟩
          have hid := nodeById?_id hn
          subst hid
          -- no block of the rest has been visited, and the fuel lasts for it
          have hd := (ChainOf.block hn hrest).nodup
          rw [List.map_cons, List.nodup_cons] at hd
          have hv : n.id ∉ r.visited := hvisited n List.mem_cons_self
          have hvisited' : ∀ m ∈ ns, m.id ∉ r.visited ++ [n.id] := by
            intro m hm hmem
            rcases List.mem_append.1 hmem with hmem | hmem
            · exact hvisited m (List.mem_cons_of_mem n hm) hmem
            · exact hd.1 (List.mem_singleton.1 hmem ▸ List.mem_map_of_mem hm)
          have hfuel' : ns.length < fuel := by simpa using hfuel
          rw [run]
          cases he : n.isEnd with
          | true =>
              -- an end closes the innermost scope, or does nothing where none is open
              rw [step_end hcur hv hn he]
              cases ho : r.outer with
              | nil =>
                  rw [close, ho, ih hrest hfuel' hvisited' l, List.length_nil,
                    readScopes_end_zero he]
                  simp only [ho, List.length_nil]
              | cons before outer =>
                  rw [close, ho, ih hrest hfuel' hvisited' l, List.length_cons, pending_end he]
          | false =>
              cases ho : opensScope n ns with
              | true =>
                  obtain ⟨first, hfirst⟩ : ∃ first, ns.head?.map Node.id = some first := by
                    cases ns with
                    | nil => simp [opensScope] at ho
                    | cons m ns => exact ⟨m.id, rfl⟩
                  have hb : bodyStart? nodes n (follow? edges n.id) = some first := by
                    rw [bodyStart?_eq hrest, if_pos ho, hfirst]
                  rw [step_open hcur hv hn he hb, ih hrest hfuel' hvisited' l,
                    mem_pending_open he ho hfirst]
                  simp only [List.mem_append, List.mem_singleton, List.length_cons, or_assoc]
              | false =>
                  have hb : bodyStart? nodes n (follow? edges n.id) = none := by
                    rw [bodyStart?_eq hrest, if_neg (by simp [ho])]
                  rw [step_plain hcur hv hn he hb, ih hrest hfuel' hvisited' l,
                    mem_pending_plain he ho]
                  simp only [List.mem_append, or_assoc]

end Reading

/-! ### The links of the roots -/

/-- The outline of a root and the blocks after it. -/
def rootOutline (root : Node) (ns : List Node) : Outline :=
  .block root (readChain ns) .done .done

theorem mem_rootOutline_links {root : Node} {ns : List Node} {l : Link} :
    l ∈ (rootOutline root ns).links ↔
      (l.source = root.id ∧ l.slot = .body ∧ (readChain ns).first? = some l.target) ∨
        l ∈ (readChain ns).links := by
  rw [rootOutline, Outline.mem_links_block]
  simp [Outline.links]

section Roots

variable {nodes : List Node} {edges : List Edge} {id : String} {root : Node} {ns : List Node}

/-- The links that the chain of a root yields are those of its outline. -/
theorem exists_rootLinks (h : ChainOf nodes edges (some id) (root :: ns)) :
    ∃ c, rootLinks nodes edges id = .ok c ∧
      ∀ l, l ∈ c.links ↔ l ∈ (rootOutline root ns).links := by
  cases h with
  | block hroot hrest =>
      obtain ⟨first, hfirst, hchain⟩ := hrest.exists_skipEnds? hrest.length_le
      unfold rootLinks
      rw [hfirst]
      have hread : readChain ns = (readScopes 0 (ns.dropWhile Node.isEnd)).1 := rfl
      generalize hms : ns.dropWhile Node.isEnd = ms at hchain hread
      cases hchain with
      | stop =>
          refine ⟨{}, rfl, fun l => ?_⟩
          simp [mem_rootOutline_links, hread, readScopes_nil, Outline.links]
      | missing hn =>
          refine ⟨{}, by simp [hn], fun l => ?_⟩
          simp [mem_rootOutline_links, hread, readScopes_nil, Outline.links]
      | @block first m ms hn hnext =>
          have he : m.isEnd = false := by
            have := List.head?_dropWhile_not Node.isEnd ns
            simpa [hms] using this
          have hc := ChainOf.block hn hnext
          have hlinks (l : Link) :
              l ∈ (Reading.ofChain nodes edges first).links ↔ l ∈ (readChain ns).links := by
            rw [Reading.ofChain, Reading.mem_run_links hc (Nat.lt_succ_of_le hc.length_le) (by simp),
              hread]
            simp [pending, mem_joined]
          simp only [hn, Option.isSome_some, if_true]
          refine ⟨_, rfl, fun l => ?_⟩
          obtain ⟨s, t, k⟩ := l
          rw [mem_rootOutline_links, ← hlinks, hread, first?_readScopes ms 0 he, nodeById?_id hn,
            nodeById?_id hroot, List.mem_cons]
          simp [and_comm, eq_comm]

/-- The links of all roots are those of their outlines. -/
theorem exists_chainLinks {roots : List String}
    (h : ∀ id ∈ roots, ∃ n ns, ChainOf nodes edges (some id) (n :: ns)) :
    ∃ c, chainLinks nodes edges roots = .ok c ∧
      ∀ l, l ∈ c.links ↔
        ∃ id ∈ roots, ∃ n ns, ChainOf nodes edges (some id) (n :: ns) ∧
          l ∈ (rootOutline n ns).links := by
  induction roots with
  | nil => exact ⟨{}, rfl, by simp⟩
  | cons id roots ih =>
      obtain ⟨n, ns, hchain⟩ := h id List.mem_cons_self
      obtain ⟨a, ha, hal⟩ := exists_rootLinks hchain
      obtain ⟨b, hb, hbl⟩ := ih fun r hr => h r (List.mem_cons_of_mem id hr)
      refine ⟨⟨a.links ++ b.links, a.revisits ++ b.revisits⟩, by rw [chainLinks, ha, hb]; rfl,
        fun l => ?_⟩
      rw [List.mem_append, hal, hbl]
      constructor
      · rintro (hl | ⟨r, hr, hex⟩)
        · exact ⟨id, List.mem_cons_self, n, ns, hchain, hl⟩
        · exact ⟨r, List.mem_cons_of_mem id hr, hex⟩
      · rintro ⟨r, hr, n', ns', hchain', hl⟩
        rcases List.mem_cons.1 hr with rfl | hr
        · obtain ⟨rfl, rfl⟩ := List.cons.inj (hchain.unique hchain')
          exact Or.inl hl
        · exact Or.inr ⟨r, hr, n', ns', hchain', hl⟩

end Roots

end BlockSketch
