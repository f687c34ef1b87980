/-
**The upgrade fills each slot once.**

The chains of several roots may run into each other, at any depth: what is inside a container on one
chain may be outside of it on another, and an end block that closes a scope on one chain is ignored on
another.  Still, no two chains give a block two different successors.

The successor of a block can be found from the block alone.  Read on from it and count the scopes that
are open since: an end block closes one if there is any, and a container may open one.  The first
statement that is met when none is open is the successor.  On a chain where the scope of the block is
closed before, there is no successor; on any other chain the count is that of the scopes above the one
of the block, and an end block that the count ignores is one that the chain ignores.  So the search is
the same wherever the block stands, and since each of its steps is determined by the one before, it
finds at most one block.

Main definitions:

* `BlockSketch.Search`, `BlockSketch.Search.Step` — how far the search for a successor has come, and its
  steps;
* `BlockSketch.Seeks` — the search from a block comes to a point;
* `BlockSketch.Link.IsDue` — the target of a link is the one that its source and slot determine;
* `BlockSketch.Reading.IsGuided` — a reading is at a point that the searches of its scopes come to.

Main results:

* `BlockSketch.Link.IsDue.unique` — a source and a slot determine the target;
* `BlockSketch.Reading.IsGuided.run`, `BlockSketch.isDue_of_chainLinks` — the links that are found are
  the ones that are due;
* `BlockSketch.Graph.migrate_fills_slots_once` — **the upgrade fills each slot once**, so that no program
  of it reports a slot with several links.
-/

import BlockSketch.Proofs.NormalForm
import Mathlib.Logic.Relation

set_option relaxedAutoImplicit false
set_option autoImplicit false

namespace BlockSketch

/-! ### The search for a successor -/

/-- How far the search for the successor of a block has come: how many of the scopes that were opened
since are still open, and the block to be read next. -/
structure Search where
  depth : Nat
  id : String

namespace Search

variable (nodes : List Node) (edges : List Edge)

/-- How many scopes are open after a block: an end block closes one if there is any, and a container
opens one if it has a body. -/
def depthAfter (n : Node) (following : Option String) (depth : Nat) : Nat :=
  if n.isEnd then depth - 1
  else if (Reading.bodyStart? nodes n following).isSome then depth + 1
  else depth

/-- The search after its block, if there are both this block and one after it. -/
def pass? (s : Search) : Option Search :=
  (nodeById? nodes s.id).bind fun n =>
    (follow? edges s.id).map fun id => ⟨depthAfter nodes n (follow? edges s.id) s.depth, id⟩

/-- Whether the search is at a statement while no scope is open. -/
def isFound (s : Search) : Bool :=
  s.depth == 0 && (nodeById? nodes s.id).any fun n => !n.isEnd

/-- A search that has not found anything goes on to the next block. -/
def Step (s t : Search) : Prop :=
  s.isFound nodes = false ∧ s.pass? nodes edges = some t

variable {nodes edges} {s t t' : Search}

section Depth

variable {n : Node} {following : Option String} (depth : Nat)

theorem depthAfter_end (he : n.isEnd = true) : depthAfter nodes n following depth = depth - 1 := by
  simp [depthAfter, he]

theorem depthAfter_open {first : String} (he : n.isEnd = false)
    (hb : Reading.bodyStart? nodes n following = some first) :
    depthAfter nodes n following depth = depth + 1 := by
  simp [depthAfter, he, hb]

theorem depthAfter_plain (he : n.isEnd = false)
    (hb : Reading.bodyStart? nodes n following = none) :
    depthAfter nodes n following depth = depth := by
  simp [depthAfter, he, hb]

end Depth

theorem step_rightUnique : Relator.RightUnique (Step nodes edges) := by
  intro s t t' h h'
  exact Option.some.inj (h.2.symm.trans h'.2)

/-- A search that has found something is over. -/
theorem eq_of_isFound (h : s.isFound nodes = true) (ht : Relation.ReflTransGen (Step nodes edges) s t) :
    s = t := by
  obtain rfl | ⟨u, hu, -⟩ := ht.cases_head
  · rfl
  · rw [hu.1] at h
    cases h

/-- A search finds at most one block. -/
theorem found_unique (ht : Relation.ReflTransGen (Step nodes edges) s t)
    (ht' : Relation.ReflTransGen (Step nodes edges) s t') (hf : t.isFound nodes = true)
    (hf' : t'.isFound nodes = true) : t = t' := by
  rcases ht.total_of_right_unique step_rightUnique ht' with h | h
  · exact eq_of_isFound hf h
  · exact (eq_of_isFound hf' h).symm

end Search

/-- The search for the successor of a block comes to a point. -/
def Seeks (nodes : List Node) (edges : List Edge) (id : String) (t : Search) : Prop :=
  ∃ s, Search.pass? nodes edges ⟨0, id⟩ = some s ∧
    Relation.ReflTransGen (Search.Step nodes edges) s t

section Seeks

variable {nodes : List Node} {edges : List Edge} {id c x : String} {n : Node}

/-- The search starts behind its block. -/
theorem seeks_self (hn : nodeById? nodes id = some n) (hc : follow? edges id = some c) :
    Seeks nodes edges id ⟨Search.depthAfter nodes n (follow? edges id) 0, c⟩ :=
  ⟨_, by simp [Search.pass?, hn, hc], .refl⟩

/-- The search goes on where it has not found anything. -/
theorem Seeks.pass {depth : Nat} (h : Seeks nodes edges x ⟨depth, id⟩)
    (hn : nodeById? nodes id = some n) (hc : follow? edges id = some c)
    (hopen : n.isEnd = true ∨ depth ≠ 0) :
    Seeks nodes edges x ⟨Search.depthAfter nodes n (follow? edges id) depth, c⟩ := by
  obtain ⟨s, hs, hlead⟩ := h
  refine ⟨s, hs, hlead.tail ⟨?_, by simp [Search.pass?, hn, hc]⟩⟩
  rcases hopen with he | hd
  · simp [Search.isFound, hn, he]
  · simp [Search.isFound, hd]

end Seeks

/-! ### Links that are due -/

/-- The target of a link is the one that its source and slot determine: the successor of the source, or
the first statement after it. -/
def Link.IsDue (nodes : List Node) (edges : List Edge) (l : Link) : Prop :=
  match l.slot with
  | .next =>
    Seeks nodes edges l.source ⟨0, l.target⟩ ∧ Search.isFound nodes ⟨0, l.target⟩ = true
  | .body => skipEnds? nodes edges nodes.length (follow? edges l.source) = some (some l.target)
  | .otherwise => False

section Due

variable {nodes : List Node} {edges : List Edge}

/-- A source and a slot determine the target. -/
theorem Link.IsDue.unique {l l' : Link} (h : l.IsDue nodes edges) (h' : l'.IsDue nodes edges)
    (hsource : l.source = l'.source) (hslot : l.slot = l'.slot) : l = l' := by
  obtain ⟨x, y, k⟩ := l
  obtain ⟨x', y', k'⟩ := l'
  obtain rfl : x = x' := hsource
  obtain rfl : k = k' := hslot
  cases k with
  | next =>
      obtain ⟨⟨s, hs, hlead⟩, hfound⟩ := h
      obtain ⟨⟨s', hs', hlead'⟩, hfound'⟩ := h'
      obtain rfl := Option.some.inj (hs.symm.trans hs')
      have heq := congrArg Search.id (Search.found_unique hlead hlead' hfound hfound')
      exact congrArg (Link.mk x · .next) heq
  | body =>
      have heq := Option.some.inj (Option.some.inj (h.symm.trans h'))
      exact congrArg (Link.mk x · .body) heq
  | otherwise => exact h.elim

/-- A block that opens a scope is followed by the first statement of its body. -/
theorem isDue_body {id first : String} {n : Node}
    (hb : Reading.bodyStart? nodes n (follow? edges id) = some first) :
    Link.IsDue nodes edges ⟨id, first, .body⟩ := by
  unfold Reading.bodyStart? at hb
  split at hb
  · obtain ⟨hfollow, hstatement⟩ := Option.filter_eq_some_iff.1 hb
    have hend : isEndId nodes first = false := by
      unfold isEndId
      cases hm : nodeById? nodes first with
      | none => rfl
      | some m => simpa [hm] using hstatement
    change skipEnds? nodes edges nodes.length (follow? edges id) = some (some first)
    rw [hfollow]
    cases nodes.length <;> simp [skipEnds?, hend]
  · cases hb

end Due

/-! ### Readings -/

namespace Reading

/-- The last statements of all scopes, from the inside out. -/
def scopes (r : Reading) : List (Option String) :=
  r.last :: r.outer

/-- The links of a reading are due, and it is at a point to which the search for the successor of each
scope's last statement comes.  The scopes that are open since are those inside of it. -/
structure IsGuided (nodes : List Node) (edges : List Edge) (r : Reading) : Prop where
  links : ∀ l ∈ r.links, l.IsDue nodes edges
  seeks : ∀ c, r.current = some c → ∀ (k : Nat) (x : String), r.scopes[k]? = some (some x) →
    Seeks nodes edges x ⟨k, c⟩

namespace IsGuided

variable {nodes : List Node} {edges : List Edge} {r : Reading} {id : String} {n : Node}

/-- The link to the next statement is due. -/
theorem links_addStatement (h : r.IsGuided nodes edges) (hc : r.current = some id)
    (hn : nodeById? nodes id = some n) (he : n.isEnd = false) :
    ∀ l ∈ r.links ++ r.last.toList.map (⟨·, id, .next⟩), l.IsDue nodes edges := by
  intro l hl
  rcases List.mem_append.1 hl with hl | hl
  · exact h.links l hl
  · obtain ⟨x, hx, rfl⟩ := List.mem_map.1 hl
    have hlast : r.scopes[0]? = some (some x) := congrArg some (Option.mem_toList.1 hx)
    exact ⟨h.seeks id hc 0 x hlast, by simp [Search.isFound, hn, he]⟩

/-- An end block closes the innermost scope, and with it goes the search for a successor there.  If
there is no other scope it is passed over. -/
theorem scopes_close (h : r.IsGuided nodes edges) (hc : r.current = some id)
    (hn : nodeById? nodes id = some n) (he : n.isEnd = true) {c : String}
    (hf : follow? edges id = some c) (k : Nat) (x : String)
    (hk : r.close.scopes[k]? = some (some x)) : Seeks nodes edges x ⟨k, c⟩ := by
  cases ho : r.outer with
  | nil =>
      rw [close, ho] at hk
      have hseek := (h.seeks id hc k x hk).pass hn hf (Or.inl he)
      have hzero : k < [r.last].length := by
        rw [scopes, ho] at hk
        exact (List.getElem?_eq_some_iff.1 hk).1
      rw [Search.depthAfter_end k he] at hseek
      obtain rfl : k = 0 := by simpa using hzero
      exact hseek
  | cons last outer =>
      have hk' : r.scopes[k + 1]? = some (some x) := by
        rw [scopes, ho]
        rwa [close, ho] at hk
      have hseek := (h.seeks id hc (k + 1) x hk').pass hn hf (Or.inl he)
      rwa [Search.depthAfter_end (k + 1) he] at hseek

theorem step (h : r.IsGuided nodes edges) : (r.step nodes edges).IsGuided nodes edges := by
  obtain ⟨hstop, -, -, hlinks⟩ | ⟨id, n, hc, hn, hcases⟩ := r.step_cases nodes edges
  · refine ⟨hlinks ▸ h.links, fun c hcur => ?_⟩
    rw [hstop] at hcur
    cases hcur
  · -- the scopes around the innermost one are searched through the statement
    have houter {c : String} (hf : follow? edges id = some c) {k : Nat} {x : String}
        (hk : r.outer[k]? = some (some x)) :=
      (h.seeks id hc (k + 1) x hk).pass hn hf (Or.inr k.succ_ne_zero)
    obtain ⟨he, hstep⟩ | ⟨he, first, hb, hstep⟩ | ⟨he, hb, hstep⟩ := hcases <;> rw [hstep]
    · refine ⟨?_, fun c hf k x hk => h.scopes_close hc hn he hf k x hk⟩
      rw [close.eq_def]
      split <;> exact h.links
    · refine ⟨?_, fun c hf k x hk => ?_⟩
      · rw [List.forall_mem_append, List.forall_mem_singleton]
        exact ⟨h.links_addStatement hc hn he, isDue_body hb⟩
      · match k, hk with
        | 1, hk =>
            obtain rfl : id = x := Option.some.inj (Option.some.inj hk)
            have hseek := seeks_self hn hf
            rwa [Search.depthAfter_open 0 he hb] at hseek
        | k + 2, hk =>
            have hseek := houter hf hk
            rwa [Search.depthAfter_open (k + 1) he hb] at hseek
    · refine ⟨h.links_addStatement hc hn he, fun c hf k x hk => ?_⟩
      match k, hk with
      | 0, hk =>
          obtain rfl : id = x := Option.some.inj (Option.some.inj hk)
          have hseek := seeks_self hn hf
          rwa [Search.depthAfter_plain 0 he hb] at hseek
      | k + 1, hk =>
          have hseek := houter hf hk
          rwa [Search.depthAfter_plain (k + 1) he hb] at hseek

theorem run (h : r.IsGuided nodes edges) (fuel : Nat) :
    (run nodes edges fuel r).IsGuided nodes edges := by
  induction fuel generalizing r with
  | zero => exact h
  | succ fuel ih => exact ih h.step

end IsGuided

end Reading

/-- The links that are found are the ones that are due. -/
theorem isDue_of_chainLinks {nodes : List Node} {edges : List Edge} {roots : List String}
    {found : ChainLinks} (h : chainLinks nodes edges roots = .ok found) :
    ∀ l ∈ found.links, l.IsDue nodes edges := by
  refine forall_mem_chainLinks h fun root _ a ha => ?_
  obtain hnil | ⟨first, hfirst, -, hlinks⟩ := rootLinks_cases ha
  · simp [hnil]
  · have hstart : Reading.IsGuided nodes edges { current := some first } := by
      refine ⟨by simp, fun c _ k x hk => ?_⟩
      cases k <;> cases hk
    rw [hlinks, List.forall_mem_cons]
    exact ⟨hfirst, (hstart.run _).links⟩

/-! ### Upgraded graphs -/

/-- The first character of the message of a fault. -/
def Fault.initial : Fault → Char
  | .multipleOutputs _ _ => 'B'
  | .missingLoop => 'M'
  | .cycle _ _ => 'C'
  | .shared _ | .tooDeep _ => 'N'

theorem Fault.head?_message (f : Fault) : f.message.toList.head? = some f.initial := by
  cases f with
  | missingLoop => rfl
  | _ =>
      unfold message
      simp only [String.toList_append, List.append_assoc]
      rfl

/-- The message about a slot with several links is that of no other fault. -/
theorem Fault.eq_multipleOutputs_of_message {f : Fault} {source : String} {slot : Slot}
    (h : f.message = (Fault.multipleOutputs source slot).message) :
    ∃ s k, f = .multipleOutputs s k := by
  have hinitial : f.initial = 'B' := by
    have hhead := f.head?_message
    rw [h, head?_message] at hhead
    exact (Option.some.inj hhead).symm
  cases f with
  | multipleOutputs s k => exact ⟨s, k, rfl⟩
  | _ => simp [initial] at hinitial

/-- A walk does not report slots with several links. -/
theorem Walks.mem_faults {b : Blueprint} {room : Nat} {chain : Chain} {visited : List String}
    {start : Option String} {w w' : Walk} {ss : List Statement}
    (h : Walks b room chain visited start w ss w') {source : String} {slot : Slot}
    (hf : .multipleOutputs source slot ∈ w'.faults) : .multipleOutputs source slot ∈ w.faults := by
  induction h with
  | done => exact hf
  | cycle _ => simpa using hf
  | silent _ _ _ _ ih => exact ih hf
  | shared _ _ _ _ => simpa using hf
  | block _ _ _ _ _ _ _ _ ihbody ihother ihrest =>
      have hmeet := ihbody (ihother (ihrest hf))
      rw [Blueprint.meet_faults, List.mem_append] at hmeet
      rcases hmeet with hmeet | hmeet
      · exact hmeet
      · split at hmeet <;> simp at hmeet

namespace Graph

/-- A program reports slots with several links as the slots of its graph do. -/
theorem multipleOutputs_mem_build_faults {g : Graph} {source : String} {slot : Slot}
    (h : .multipleOutputs source slot ∈ g.build.faults) :
    .multipleOutputs source slot ∈ g.slotTable.faults := by
  have hfirst := g.walkSetup_walks.mem_faults (g.walkLoop_walks.mem_faults h)
  rw [firstWalk, List.mem_append] at hfirst
  rcases hfirst with hfirst | hfirst
  · exact hfirst
  · split at hfirst <;> simp at hfirst

/-- The upgrade has one link for each source and slot. -/
theorem nodup_migrate_slots {g m : Graph} (hv : g.version ≠ 2) (hm : g.migrate = .ok m) :
    (m.edges.map fun e => (e.source, e.slot)).Nodup := by
  obtain ⟨u, hu, rfl⟩ := exists_migration_of_migrate hv hm
  obtain ⟨found, hfound, hgraph⟩ := exists_of_migration hu
  rw [hgraph]
  have hdue := isDue_of_chainLinks hfound
  have hids : ((collectLinks [] found.links).map Edge.id).Nodup :=
    nodup_collectLinks found.links List.nodup_nil
  refine hids.of_map.map_on ?_
  intro e he f hf heq
  obtain ⟨l, hl, rfl⟩ := mem_collectLinks.1 he
  obtain ⟨l', hl', rfl⟩ := mem_collectLinks.1 hf
  obtain ⟨hsource, hslot⟩ := Prod.mk.inj heq
  have hll : l = l' := (hdue l (holder?_eq_some hl).1).unique (hdue l' (holder?_eq_some hl').1)
    hsource (Option.some.inj hslot)
  rw [hll]

/-- Links that name different slots are not reported. -/
theorem slotTable_faults_of_nodup {g : Graph} (hslot : ∀ e ∈ g.edges, e.slot.isSome = true)
    (h : (g.edges.map fun e => (e.source, e.slot)).Nodup) : g.slotTable.faults = [] := by
  have hnamed : ∀ e ∈ g.edges, e.slot = some (e.slotIn g.nodes) := by
    intro e he
    obtain ⟨k, hk⟩ := Option.isSome_iff_exists.1 (hslot e he)
    simp [Edge.slotIn, Edge.namedSlot?, hk]
  refine slotTable_faults_eq_nil ((List.pairwise_map.1 h).imp_of_mem ?_)
  intro e f he hf hne heq
  obtain ⟨hs, hk⟩ := Prod.mk.inj heq
  exact hne (by rw [hs, hnamed e he, hnamed f hf, hk])

/-- **The upgrade fills each slot once**, however the chains of the roots run into each other.  So the
program of an upgraded graph does not report a slot with several links. -/
theorem migrate_fills_slots_once (g m : Graph) (hv : g.version ≠ 2) (hm : g.migrate = .ok m) :
    (m.edges.map fun e => (e.source, e.slot)).Nodup ∧
      ∀ f ∈ m.build.faults, ∀ source slot,
        f.message ≠ (Fault.multipleOutputs source slot).message := by
  have hnodup := nodup_migrate_slots hv hm
  refine ⟨hnodup, fun f hf source slot hmessage => ?_⟩
  obtain ⟨u, hu, rfl⟩ := exists_migration_of_migrate hv hm
  obtain ⟨s, k, rfl⟩ := Fault.eq_multipleOutputs_of_message hmessage
  have hmem := multipleOutputs_mem_build_faults hf
  rw [slotTable_faults_of_nodup (fun e he => ((isNormal_migration hu).typed e he).slot) hnodup] at hmem
  cases hmem

/-- A linear graph in which the chain of the loop block runs into the container of the setup block from
outside, and back to its own start. -/
def entangled : Graph where
  version := 1
  nodes :=
    [Node.create .setup "s" .null .null, Node.create .loop "l" .null .null,
      Node.create .whileLoop "w" .null .null, Node.create .delay "a" .null .null,
      Node.create .endBlock "e" .null .null, Node.create .delay "b" .null .null]
  edges :=
    List.zipWith (fun source target => ⟨"", source, target, none, none, none, []⟩)
      ["s", "w", "a", "e", "b", "l"] ["w", "a", "e", "b", "w", "a"]

/-- The block `a` has no successor inside of the container, and `b` as one outside of it. -/
theorem entangled_slots : entangled.version ≠ 2 ∧ ∃ m, entangled.migrate = .ok m ∧
    m.edges.map (fun e => (e.source, e.slot, e.target)) =
      [("s", some .body, "w"), ("w", some .body, "a"), ("w", some .next, "b"),
        ("l", some .body, "a"), ("a", some .next, "b"), ("b", some .next, "w")] ∧
    (m.edges.map fun e => (e.source, e.slot)).Nodup := by
  have hv : entangled.version ≠ 2 := by decide
  exact ⟨hv, _, rfl, by decide, (migrate_fills_slots_once entangled _ hv rfl).1⟩

end Graph

end BlockSketch
