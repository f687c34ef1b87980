/-
**When the upgrade of a linear graph ends.**

The upgrade of a linear graph has two loops for each root.  The first one skips the end blocks at the
start of the root's chain and keeps no record of what it has met.  The second one reads the chain by
scopes and stops at a block that it has read before.

The first loop is a search along the iterates of a partial function, which takes a block to the target
of the first link that leaves it.  It ends at an iterate that is undefined or not the id of an end
block.  If there is none, all iterates are among the finitely many ids of end blocks, so that one of
them comes back: the chain leads into a ring.  Should the loop end, it has met no id twice, and it has
not taken more steps than there are such ids.  The second loop always ends, since every step but the
last adds a block to those that have been read.

An id stands for the block that is found under it; should several blocks have it, that is the last one.

Main definitions:

* `BlockSketch.ahead` — the iterates;
* `BlockSketch.Skips` — the first loop as a relation, with the number of its steps;
* `BlockSketch.endIds` — the ids of end blocks, each once;
* `BlockSketch.LeadsIntoRing` — a chain leads straight into a ring of end blocks.

Main results:

* `BlockSketch.exists_skips_iff`, `BlockSketch.Skips.le_length_endIds` — when the first loop ends, and
  after how many steps;
* `BlockSketch.exists_skips_iff_not_leadsIntoRing` — it goes on forever just in rings;
* `BlockSketch.Reading.exists_run_stopped` — the second loop always ends;
* `BlockSketch.Graph.migrate_ends_iff` — **the upgrade ends exactly if no root's chain leads straight
  into a ring of end blocks**.
-/

import BlockSketch.Proofs.LeadingEnds
import BlockSketch.Proofs.Reachable
import BlockSketch.Proofs.Upgrade
import Mathlib.Logic.Function.Iterate

set_option relaxedAutoImplicit false
set_option autoImplicit false

namespace BlockSketch

/-! ### Skipping end blocks -/

/-- The id that so many links lead to from a block, one after the other, where each is the first that
leaves its source. -/
def ahead (edges : List Edge) (steps : Nat) (id : String) : Option String :=
  (fun place : Option String => place.bind (follow? edges))^[steps] (some id)

/-- `Skips nodes edges start steps first`: from `start` on, the loop that skips end blocks takes so many
steps and ends with `first`. -/
inductive Skips (nodes : List Node) (edges : List Edge) :
    Option String → Nat → Option String → Prop
  | stop {start : Option String} :
      (∀ id, start = some id → isEndId nodes id = false) → Skips nodes edges start 0 start
  | pass {id : String} {steps : Nat} {first : Option String} :
      isEndId nodes id = true → Skips nodes edges (follow? edges id) steps first →
      Skips nodes edges (some id) (steps + 1) first

/-- The ids of end blocks, each once. -/
def endIds (nodes : List Node) : List String :=
  distinct ((endBlocks nodes).map Node.id)

section Skips

variable {nodes : List Node} {edges : List Edge} {start first : Option String} {root : String}
  {steps : Nat}

theorem ahead_succ (steps : Nat) (id : String) :
    ahead edges (steps + 1) id = (ahead edges steps id).bind (follow? edges) :=
  Function.iterate_succ_apply' _ _ _

theorem mem_endIds {id : String} : id ∈ endIds nodes ↔ isEndId nodes id = true := by
  rw [endIds, mem_distinct, ← nodeById?_isSome_iff, nodeById?_endBlocks]
  constructor
  · intro h
    by_contra hend
    simp [hend] at h
  · intro h
    obtain ⟨n, hn⟩ := nodeById?_isSome_of_isEndId h
    simp [h, hn]

/-- The loop and the search with fuel for its steps find the same. -/
theorem Skips.skipEnds?_eq (h : Skips nodes edges start steps first) {fuel : Nat}
    (hf : steps ≤ fuel) : skipEnds? nodes edges fuel start = some first := by
  induction h generalizing fuel with
  | @stop start hstart =>
      cases start with
      | none => cases fuel <;> rfl
      | some id => cases fuel <;> simp [skipEnds?, hstart id rfl]
  | @pass id steps first hend _ ih =>
      obtain ⟨fuel, rfl⟩ : ∃ k, fuel = k + 1 := ⟨fuel - 1, by omega⟩
      rw [skipEnds?, if_pos hend]
      exact ih (by omega)

theorem exists_skips_of_skipEnds? {fuel : Nat} (h : skipEnds? nodes edges fuel start = some first) :
    ∃ steps, Skips nodes edges start steps first := by
  fun_induction skipEnds? nodes edges fuel start with
  | case1 =>
      obtain rfl := Option.some.inj h
      exact ⟨0, .stop (by simp)⟩
  | case2 => cases h
  | case4 fuel id hend ih =>
      obtain ⟨steps, hsteps⟩ := ih h
      exact ⟨steps + 1, .pass hend hsteps⟩
  | case3 id hend | case5 fuel id hend =>
      obtain rfl := Option.some.inj h
      exact ⟨0, .stop (by simpa using hend)⟩

/-- The end blocks that the loop passes are a chain among the end blocks. -/
theorem Skips.exists_chainOf (h : Skips nodes edges start steps first) :
    ∃ ns, ChainOf (endBlocks nodes) edges start ns ∧ ns.length = steps := by
  induction h with
  | @stop start hstart =>
      cases start with
      | none => exact ⟨[], .stop, rfl⟩
      | some id => exact ⟨[], .missing (by simp [nodeById?_endBlocks, hstart id rfl]), rfl⟩
  | pass hend _ ih =>
      obtain ⟨ns, hchain, hlength⟩ := ih
      obtain ⟨n, hn⟩ := nodeById?_isSome_of_isEndId hend
      have hblock := ChainOf.block (by rw [nodeById?_endBlocks, if_pos hend, hn]) hchain
      exact ⟨n :: ns, hblock, by rw [List.length_cons, hlength]⟩

/-- If the loop ends, it has not taken more steps than there are ids of end blocks. -/
theorem Skips.le_length_endIds (h : Skips nodes edges start steps first) :
    steps ≤ (endIds nodes).length := by
  obtain ⟨ns, hchain, rfl⟩ := h.exists_chainOf
  have hsub : ns.map Node.id ⊆ endIds nodes := by
    intro id hid
    obtain ⟨n, hn, rfl⟩ := List.mem_map.1 hid
    exact mem_distinct.2 (List.mem_map_of_mem (hchain.subset_nodes n hn))
  simpa using hchain.nodup.length_le_of_subset hsub

/-! ### Iterates -/

/-- The loop ends with the iterate that its steps lead to. -/
theorem Skips.ahead_eq (h : Skips nodes edges (follow? edges root) steps first) :
    ahead edges (steps + 1) root = first := by
  generalize hstart : follow? edges root = start at h
  induction h generalizing root with
  | stop _ => exact hstart
  | @pass id _ _ _ _ ih =>
      rw [← ih rfl, ahead, Function.iterate_succ_apply, Option.bind_some, hstart]
      rfl

theorem Skips.isEndId_eq_false (h : Skips nodes edges start steps first) :
    ∀ id, first = some id → isEndId nodes id = false := by
  induction h with
  | stop hstart => exact hstart
  | pass _ _ ih => exact ih

/-- **The loop ends exactly if some iterate is undefined or not the id of an end block.** -/
theorem exists_skips_iff :
    (∃ steps first, Skips nodes edges (follow? edges root) steps first) ↔
      ∃ k, ∀ id, ahead edges (k + 1) root = some id → isEndId nodes id = false := by
  constructor
  · rintro ⟨steps, first, h⟩
    exact ⟨steps, h.ahead_eq ▸ h.isEndId_eq_false⟩
  · rintro ⟨k, hk⟩
    induction k generalizing root with
    | zero => exact ⟨0, _, .stop hk⟩
    | succ k ih =>
        cases hroot : follow? edges root with
        | none => exact ⟨0, _, .stop (by simp)⟩
        | some id =>
            cases hend : isEndId nodes id with
            | false => exact ⟨0, _, .stop (by simpa using hend)⟩
            | true =>
                rw [ahead, Function.iterate_succ_apply, Option.bind_some, hroot] at hk
                obtain ⟨steps, first, h⟩ := ih hk
                exact ⟨steps + 1, first, .pass hend h⟩

/-! ### Rings -/

/-- The first link that leaves a block leads to an end block. -/
def LeadsToEnd (nodes : List Node) (edges : List Edge) (x y : String) : Prop :=
  follow? edges x = some y ∧ isEndId nodes y = true

/-- The chain of a block leads straight into a ring of end blocks: over end blocks only it comes to one,
and from there over end blocks only back to it. -/
def LeadsIntoRing (nodes : List Node) (edges : List Edge) (root : String) : Prop :=
  ∃ id, Relation.TransGen (LeadsToEnd nodes edges) root id ∧
    Relation.TransGen (LeadsToEnd nodes edges) id id

/-- A loop that ends does not lead into a ring. -/
theorem Skips.not_leadsIntoRing (h : Skips nodes edges (follow? edges root) steps first) :
    ¬ LeadsIntoRing nodes edges root := by
  rintro ⟨id, hroot, hring⟩
  generalize hstart : follow? edges root = start at h
  induction h generalizing root with
  | stop hstop =>
      obtain ⟨y, ⟨hfollow, hend⟩, -⟩ := Relation.TransGen.head'_iff.1 hroot
      rw [hstop y (hstart.symm.trans hfollow)] at hend
      cases hend
  | @pass x _ _ _ _ ih =>
      obtain ⟨y, ⟨hfollow, -⟩, hrest⟩ := Relation.TransGen.head'_iff.1 hroot
      obtain rfl : y = x := Option.some.inj (hfollow.symm.trans hstart)
      -- the way on to the ring, or round it if it starts here
      rcases Relation.reflTransGen_iff_eq_or_transGen.1 hrest with rfl | hrest
      · exact ih hring rfl
      · exact ih hrest rfl

/-- A chain of nothing but end blocks leads into a ring, since there are only so many ids. -/
theorem leadsIntoRing_of_forall_ahead
    (h : ∀ k, ∃ id, ahead edges (k + 1) root = some id ∧ isEndId nodes id = true) :
    LeadsIntoRing nodes edges root := by
  choose place hplace hend using h
  have hstep (k : Nat) : LeadsToEnd nodes edges (place k) (place (k + 1)) := by
    have hnext := hplace (k + 1)
    rw [ahead_succ, hplace k] at hnext
    exact ⟨hnext, hend (k + 1)⟩
  have hroot (k : Nat) : Relation.TransGen (LeadsToEnd nodes edges) root (place k) := by
    induction k with
    | zero => exact .single ⟨hplace 0, hend 0⟩
    | succ k ih => exact ih.tail (hstep k)
  have hpath (k m : Nat) :
      Relation.TransGen (LeadsToEnd nodes edges) (place k) (place (k + 1 + m)) := by
    induction m with
    | zero => exact .single (hstep k)
    | succ m ih => exact ih.tail (hstep (k + 1 + m))
  obtain ⟨i, j, hij, heq⟩ : ∃ i j, i < j ∧ place i = place j := by
    by_contra hne
    have hinj : Function.Injective place := by
      intro i j heq
      rcases Nat.lt_trichotomy i j with hij | hij | hij
      · exact absurd ⟨i, j, hij, heq⟩ hne
      · exact hij
      · exact absurd ⟨j, i, hij, heq.symm⟩ hne
    have hsub : (List.range ((endIds nodes).length + 1)).map place ⊆ endIds nodes := by
      intro id hid
      obtain ⟨k, -, rfl⟩ := List.mem_map.1 hid
      exact mem_endIds.2 (hend k)
    have hle := (List.Nodup.map hinj List.nodup_range).length_le_of_subset hsub
    rw [List.length_map, List.length_range] at hle
    omega
  refine ⟨place i, hroot i, ?_⟩
  have hring := hpath i (j - (i + 1))
  rwa [Nat.add_sub_cancel' hij, ← heq] at hring

/-- **The loop goes on forever just in rings.** -/
theorem exists_skips_iff_not_leadsIntoRing :
    (∃ steps first, Skips nodes edges (follow? edges root) steps first) ↔
      ¬ LeadsIntoRing nodes edges root := by
  constructor
  · rintro ⟨steps, first, h⟩
    exact h.not_leadsIntoRing
  · intro h
    rw [exists_skips_iff]
    by_contra hne
    refine h (leadsIntoRing_of_forall_ahead fun k => ?_)
    by_contra hk
    exact hne ⟨k, fun id hid => by
      cases hend : isEndId nodes id with
      | false => rfl
      | true => exact absurd ⟨id, hid, hend⟩ hk⟩

end Skips

/-! ### Reading by scopes -/

namespace Reading

variable {nodes : List Node} {edges : List Edge} {r : Reading}

/-- The blocks that have been read are distinct. -/
structure IsTracked (nodes : List Node) (r : Reading) : Prop where
  nodup : r.visited.Nodup
  subset : r.visited ⊆ distinct (nodes.map Node.id)

/-- A reading that does not stop has read one more block. -/
theorem IsTracked.step_cases (h : r.IsTracked nodes) (edges : List Edge) :
    (r.step nodes edges).current = none ∨
      (r.step nodes edges).IsTracked nodes ∧
        (r.step nodes edges).visited.length = r.visited.length + 1 := by
  obtain ⟨hstop, -⟩ | ⟨id, n, hc, hn, hcases⟩ := r.step_cases nodes edges
  · exact Or.inl hstop
  · by_cases hv : id ∈ r.visited
    · rw [step_revisit hc hv]
      exact Or.inl rfl
    · have hvisited : (r.step nodes edges).visited = r.visited ++ [id] := by
        obtain ⟨-, hstep⟩ | ⟨-, first, -, hstep⟩ | ⟨-, -, hstep⟩ := hcases <;> rw [hstep]
      have hid : id ∈ distinct (nodes.map Node.id) := by
        rw [mem_distinct, ← nodeById?_isSome_iff, hn]
        rfl
      refine Or.inr ⟨⟨?_, ?_⟩, by rw [hvisited, List.length_append]; rfl⟩
      · rw [hvisited, ← List.concat_eq_append]
        exact h.nodup.concat hv
      · rw [hvisited]
        exact List.append_subset.2 ⟨h.subset, by simpa using hid⟩

/-- A reading has stopped when it would have read more blocks than there are ids. -/
theorem IsTracked.run_stopped (h : r.IsTracked nodes) (edges : List Edge) (steps : Nat)
    (hsteps : (distinct (nodes.map Node.id)).length < r.visited.length + steps) :
    (run nodes edges steps r).current = none := by
  induction steps generalizing r with
  | zero =>
      have hle := h.nodup.length_le_of_subset h.subset
      omega
  | succ steps ih =>
      rw [run]
      rcases h.step_cases edges with hstop | ⟨htracked, hlength⟩
      · rw [run_of_stopped _ _ hstop, hstop]
      · exact ih htracked (by omega)

theorem run_add (a b : Nat) (r : Reading) :
    run nodes edges (a + b) r = run nodes edges b (run nodes edges a r) := by
  induction a generalizing r with
  | zero => rw [Nat.zero_add]; rfl
  | succ a ih => rw [Nat.succ_add, run, ih, run]

/-- **The reading of a chain ends** after at most one step more than there are ids, and the reading with
as much fuel as there are blocks is not cut short. -/
theorem exists_run_stopped (nodes : List Node) (edges : List Edge) (first : String) :
    ∃ steps ≤ (distinct (nodes.map Node.id)).length + 1,
      (run nodes edges steps { current := some first }).current = none ∧
        ofChain nodes edges first = run nodes edges steps { current := some first } := by
  have htracked : IsTracked nodes { current := some first } := ⟨List.nodup_nil, by simp⟩
  have hstop := htracked.run_stopped edges
    ((distinct (nodes.map Node.id)).length + 1) (by simp)
  have hle : (distinct (nodes.map Node.id)).length ≤ nodes.length := by
    simpa using (nodup_distinct (nodes.map Node.id)).length_le_of_subset fun _ => mem_distinct.1
  obtain ⟨more, hmore⟩ : ∃ more,
      nodes.length + 1 = (distinct (nodes.map Node.id)).length + 1 + more :=
    Nat.exists_eq_add_of_le (Nat.succ_le_succ hle)
  refine ⟨_, Nat.le_refl _, hstop, ?_⟩
  rw [ofChain, hmore, run_add, run_of_stopped _ _ hstop]

end Reading

/-! ### The upgrade -/

section Upgrade

variable {nodes : List Node} {edges : List Edge}

/-- The chain of a root is read exactly if the end blocks at its start are skipped. -/
theorem exists_rootLinks_iff {root : String} :
    (∃ found, rootLinks nodes edges root = .ok found) ↔
      ∃ steps first, Skips nodes edges (follow? edges root) steps first := by
  constructor
  · rintro ⟨found, h⟩
    rw [rootLinks] at h
    cases hfirst : skipEnds? nodes edges nodes.length (follow? edges root) with
    | none =>
        rw [hfirst] at h
        cases h
    | some first =>
        obtain ⟨steps, hsteps⟩ := exists_skips_of_skipEnds? hfirst
        exact ⟨steps, first, hsteps⟩
  · rintro ⟨steps, first, h⟩
    exact exists_rootLinks_of_skipEnds? ⟨steps, by rw [h.skipEnds?_eq (Nat.le_refl _)]; rfl⟩

/-- If the chains of all roots are read, that of each root is. -/
theorem exists_rootLinks_of_chainLinks {roots : List String} {found : ChainLinks}
    (h : chainLinks nodes edges roots = .ok found) :
    ∀ root ∈ roots, ∃ a, rootLinks nodes edges root = .ok a := by
  induction roots generalizing found with
  | nil => simp
  | cons root roots ih =>
      rw [chainLinks] at h
      cases ha : rootLinks nodes edges root with
      | error e =>
          rw [ha] at h
          cases h
      | ok a =>
          cases hb : chainLinks nodes edges roots with
          | error e =>
              rw [ha, hb] at h
              cases h
          | ok b => exact List.forall_mem_cons.2 ⟨⟨a, ha⟩, ih hb⟩

end Upgrade

namespace Graph

/-- A linear graph is upgraded exactly if the end blocks at the start of each root's chain are
skipped. -/
theorem exists_migrate_iff {g : Graph} (hv : g.version ≠ 2) :
    (∃ m, g.migrate = .ok m) ↔ ∀ root ∈ rootIds (normalNodes g.nodes),
      ∃ steps first, Skips (normalNodes g.nodes) g.edges (follow? g.edges root) steps first := by
  constructor
  · rintro ⟨m, hm⟩ root hroot
    obtain ⟨u, hu, -⟩ := exists_migration_of_migrate hv hm
    obtain ⟨found, hfound, -⟩ := exists_of_migration hu
    exact exists_rootLinks_iff.1 (exists_rootLinks_of_chainLinks hfound root hroot)
  · intro h
    obtain ⟨found, hfound⟩ := exists_chainLinks_of_rootLinks fun root hroot =>
      exists_rootLinks_iff.2 (h root hroot)
    rw [migrate, if_neg hv, migration, hfound]
    exact ⟨_, rfl⟩

/-- **The upgrade ends exactly if no root's chain leads straight into a ring of end blocks.**  For each
root, the loop that skips end blocks ends just if some iterate is undefined or not the id of an end
block, after at most as many steps as there are such ids, and the search with fuel finds what it finds.
The reading that follows ends after at most one step more than there are ids of blocks. -/
theorem migrate_ends_iff (g : Graph) (hv : g.version ≠ 2) :
    (∀ root ∈ rootIds (normalNodes g.nodes),
      ((∃ steps first, Skips (normalNodes g.nodes) g.edges (follow? g.edges root) steps first) ↔
        ∃ k, ∀ id, ahead g.edges (k + 1) root = some id →
          isEndId (normalNodes g.nodes) id = false) ∧
      ∀ steps first, Skips (normalNodes g.nodes) g.edges (follow? g.edges root) steps first →
        steps ≤ (endIds (normalNodes g.nodes)).length ∧
          skipEnds? (normalNodes g.nodes) g.edges (normalNodes g.nodes).length
            (follow? g.edges root) = some first) ∧
    (∀ first, ∃ steps ≤ (distinct ((normalNodes g.nodes).map Node.id)).length + 1,
      (Reading.run (normalNodes g.nodes) g.edges steps { current := some first }).current = none ∧
        Reading.ofChain (normalNodes g.nodes) g.edges first =
          Reading.run (normalNodes g.nodes) g.edges steps { current := some first }) ∧
    ((∃ m, g.migrate = .ok m) ↔
      ∀ root ∈ rootIds (normalNodes g.nodes),
        ¬ LeadsIntoRing (normalNodes g.nodes) g.edges root) := by
  refine ⟨fun root _ => ⟨exists_skips_iff, fun steps first h => ⟨h.le_length_endIds, ?_⟩⟩,
    Reading.exists_run_stopped _ _, ?_⟩
  · obtain ⟨ns, hchain, hlength⟩ := h.exists_chainOf
    have hle : ns.length ≤ (normalNodes g.nodes).length :=
      Nat.le_trans hchain.length_le (List.length_filter_le _ _)
    exact h.skipEnds?_eq (hlength ▸ hle)
  · rw [exists_migrate_iff hv]
    exact forall₂_congr fun root _ => exists_skips_iff_not_leadsIntoRing

/-- A linear graph in which setup leads over an end block into a ring of two, and loop over an end block
to a statement. -/
def ringed : Graph where
  version := 1
  nodes :=
    [Node.create .setup "s" .null .null, Node.create .loop "l" .null .null,
      Node.create .endBlock "a" .null .null, Node.create .endBlock "b" .null .null,
      Node.create .endBlock "c" .null .null, Node.create .endBlock "d" .null .null,
      Node.create .delay "e" .null .null]
  edges :=
    List.zipWith (fun source target => ⟨"", source, target, none, none, none, []⟩)
      ["s", "a", "b", "c", "l", "d"] ["a", "b", "c", "b", "d", "e"]

/-- The loop for setup has no end, and so the upgrade has none; that for loop takes one step. -/
theorem ringed_migrate : ringed.version ≠ 2 ∧ (¬ ∃ m, ringed.migrate = .ok m) ∧
    skipEnds? (normalNodes ringed.nodes) ringed.edges (normalNodes ringed.nodes).length
      (follow? ringed.edges "l") = some (some "e") := by
  have hv : ringed.version ≠ 2 := by decide
  obtain ⟨hroots, -, hiff⟩ := migrate_ends_iff ringed hv
  have hstep (x y : String) (h : follow? ringed.edges x = some y ∧
      isEndId (normalNodes ringed.nodes) y = true) :
      LeadsToEnd (normalNodes ringed.nodes) ringed.edges x y := h
  refine ⟨hv, fun hm => ?_, ?_⟩
  · refine hiff.1 hm "s" (by decide) ⟨"b", ?_, ?_⟩
    · exact .tail (.single (hstep "s" "a" (by decide))) (hstep "a" "b" (by decide))
    · exact .tail (.single (hstep "b" "c" (by decide))) (hstep "c" "b" (by decide))
  · have hskips : Skips (normalNodes ringed.nodes) ringed.edges (some "d") 1 (some "e") :=
      .pass (by decide) (.stop (by decide))
    exact ((hroots "l" (by decide)).2 1 _ hskips).2

end Graph

end BlockSketch
