/-
**A walk without faults is the plain unfolding.**

The walk of a program stops at blocks that its chain has met, at blocks that are claimed already, and
at containers that are nested too deep, and records a fault each time.  Here it is compared with the
unfolding of `BlockSketch.Unfolds`, which stops at nothing: there is no such fault exactly if the two
unfoldings are finite, have no block twice and nest few enough containers, and then the program
consists of their statements.

Main definitions:

* `BlockSketch.Fault.isOfWalk` — the faults of the walk itself;
* `BlockSketch.Graph.UnfoldsTo` — both chains of a graph have an outline that a walk can follow.

Main results:

* `BlockSketch.Walks.exists_unfolds` — a walk without faults has followed an outline;
* `BlockSketch.Walks.faults_eq_of_unfolds` — a walk along an outline meets no fault;
* `BlockSketch.Graph.build_faultless_iff_unfolds` — **no fault of the walk is recorded exactly if the
  graph unfolds, and then the program is the unfolding**.
-/

import BlockSketch.Proofs.Walks

set_option relaxedAutoImplicit false
set_option autoImplicit false

namespace BlockSketch

/-- The faults that a walk records: cycles, shared blocks, and containers nested too deep. -/
def Fault.isOfWalk : Fault → Bool
  | .cycle _ _ | .shared _ | .tooDeep _ => true
  | .multipleOutputs _ _ | .missingLoop => false

/-- No walk has recorded a fault so far. -/
def Walk.Faultless (w : Walk) : Prop :=
  ∀ f ∈ w.faults, f.isOfWalk = false

theorem Walk.Faultless.of_prefix {w w' : Walk} (h : w'.Faultless) (hp : w.faults <+: w'.faults) :
    w.Faultless :=
  fun f hf => h f (hp.subset hf)

namespace Walks

variable {b : Blueprint} {room : Nat} {chain : Chain} {visited : List String}
  {start : Option String} {w w' : Walk} {ss : List Statement}

/-- A walk without faults has followed an outline. -/
theorem exists_unfolds (h : Walks b room chain visited start w ss w') (hf : w'.Faultless) :
    ∃ o, Unfolds b start o ∧ ss = o.statements ∧ w'.claimed = w.claimed ++ o.ids ∧
      o.nesting ≤ room := by
  induction h with
  | done => exact ⟨.done, Unfolds.done, rfl, by simp [Outline.ids], by simp [Outline.nesting]⟩
  | cycle _ => exact absurd (hf _ List.mem_concat_self) (by simp [Fault.isOfWalk])
  | @silent _ _ _ id node _ _ _ _ hn hs _ ih =>
      obtain ⟨o, ho, rfl, hclaimed, hnest⟩ := ih hf
      have hc := Node.isContainer_of_isSilent hs
      refine ⟨.block node .done .done o, Unfolds.block hn ?_ ?_ ho, ?_, ?_, ?_⟩
      · rw [Blueprint.bodyStart?_eq_none hc]
        exact Unfolds.done
      · rw [Blueprint.otherwiseStart?_eq_none hc]
        exact Unfolds.done
      · simp [Outline.statements, Node.statement?_of_isSilent hs]
      · simpa [Outline.ids, hs] using hclaimed
      · simpa [Outline.nesting, hc] using hnest
  | shared _ _ _ _ => exact absurd (hf _ List.mem_concat_self) (by simp [Fault.isOfWalk])
  | @block room _ _ id node w w₁ w₂ w₃ _ _ _ s _ hn hs _ hbody hother hst hrest ihbody ihother
      ihrest =>
      have hf₂ : w₂.Faultless := hf.of_prefix hrest.faults_prefix
      have hf₁ : w₁.Faultless := hf₂.of_prefix hother.faults_prefix
      have hroom : ¬ (node.isContainer ∧ room = 0) := by
        refine Blueprint.hasRoom_of_not_mem (b := b) (w := w) fun hmem => ?_
        exact absurd ((hf₁.of_prefix hbody.faults_prefix) _ hmem) (by simp [Fault.isOfWalk])
      obtain ⟨body, hub, rfl, hcb, hnb⟩ := ihbody hf₁
      obtain ⟨otherwise, huo, rfl, hco, hno⟩ := ihother hf₂
      obtain ⟨rest, hur, rfl, hcr, hnr⟩ := ihrest hf
      rw [Blueprint.bodyWithin?_eq hroom] at hub
      rw [Blueprint.otherwiseWithin?_eq hroom] at huo
      refine ⟨.block node body otherwise rest, Unfolds.block hn hub huo hur, ?_, ?_, ?_⟩
      · simp [Outline.statements, hst]
      · rw [hcr, hco, hcb, Blueprint.meet_claimed]
        simp [Outline.ids, hs]
      · unfold Outline.nesting
        split
        · have : room ≠ 0 := by simp_all
          omega
        · omega

end Walks

/-! ### Outlines without faults -/

/-- Each of the blocks unfolds to more than the given outline. -/
def Ahead (b : Blueprint) (visited : List String) (o : Outline) : Prop :=
  ∀ v ∈ visited, ∃ o', Unfolds b (some v) o' ∧ o.length < o'.length

/-- The chain after a block is behind the block and behind all that was ahead of it. -/
theorem Ahead.cons {b : Blueprint} {visited : List String} {id : String} {node : Node}
    {body otherwise rest : Outline} (ha : Ahead b visited (.block node body otherwise rest))
    (ho : Unfolds b (some id) (.block node body otherwise rest)) :
    Ahead b (id :: visited) rest := by
  intro v hv
  rcases List.mem_cons.1 hv with rfl | hv
  · exact ⟨_, ho, Nat.lt_succ_self _⟩
  · obtain ⟨o', ho', hlt⟩ := ha v hv
    exact ⟨o', ho', Nat.lt_trans (Nat.lt_succ_self _) hlt⟩

theorem Ahead.not_mem {b : Blueprint} {visited : List String} {id : String} {o : Outline}
    (ha : Ahead b visited o) (ho : Unfolds b (some id) o) : id ∉ visited := by
  intro hv
  obtain ⟨o', ho', hlt⟩ := ha id hv
  rw [ho'.unique ho] at hlt
  exact Nat.lt_irrefl _ hlt

namespace Outline

variable {n : Node} {body otherwise rest : Outline} {room : Nat}

theorem nesting_rest_le (h : (block n body otherwise rest).nesting ≤ room) :
    rest.nesting ≤ room :=
  Nat.le_trans (Nat.le_max_right _ _) h

/-- The bodies of a container nest one container less. -/
theorem nesting_bodies_lt (h : (block n body otherwise rest).nesting ≤ room)
    (hc : n.isContainer = true) : body.nesting < room ∧ otherwise.nesting < room := by
  simp only [nesting, hc, if_true] at h
  omega

end Outline

/-- A walk along an outline meets no fault, provided that its blocks are distinct and not claimed
yet and that there is room for its containers. -/
theorem Walks.faults_eq_of_unfolds {b : Blueprint} {room : Nat} {chain : Chain}
    {visited : List String} {start : Option String} {w w' : Walk} {ss : List Statement}
    (h : Walks b room chain visited start w ss w') {o : Outline} (ho : Unfolds b start o)
    (hd : (w.claimed ++ o.ids).Nodup) (hnest : o.nesting ≤ room) (ha : Ahead b visited o) :
    w'.faults = w.faults ∧ w'.claimed = w.claimed ++ o.ids := by
  induction h generalizing o with
  | done =>
      cases ho with
      | done => simp [Outline.ids]
  | cycle hv => exact absurd hv (ha.not_mem ho)
  | silent hv hn hs _ ih =>
      obtain ⟨body, otherwise, rest, rfl, hbody, hother, hrest⟩ := ho.exists_block hn
      have hc := Node.isContainer_of_isSilent hs
      rw [Blueprint.bodyStart?_eq_none hc] at hbody
      rw [Blueprint.otherwiseStart?_eq_none hc] at hother
      cases hbody
      cases hother
      rw [Outline.ids_silent rest hs] at hd ⊢
      exact ih hrest hd (Outline.nesting_rest_le hnest) (ha.cons ho)
  | shared _ hn hs hc =>
      obtain ⟨body, otherwise, rest, rfl, -, -, -⟩ := ho.exists_block hn
      rw [Outline.ids_block body otherwise rest hs, nodeById?_id hn] at hd
      exact absurd rfl ((List.nodup_append.1 hd).2.2 _ hc _ List.mem_cons_self)
  | @block room _ _ id node w w₁ w₂ w₃ _ _ _ _ hv hn hs hc _ _ _ _ ihbody ihother ihrest =>
      obtain ⟨body, otherwise, rest, rfl, hub, huo, hur⟩ := ho.exists_block hn
      have hroom : ¬ (node.isContainer ∧ room = 0) := by
        rintro ⟨hcon, rfl⟩
        exact absurd (Outline.nesting_bodies_lt hnest hcon).1 (Nat.not_lt_zero _)
      have hnb : body.nesting ≤ room - 1 ∧ otherwise.nesting ≤ room - 1 := by
        cases hcon : node.isContainer with
        | true =>
            have := Outline.nesting_bodies_lt hnest hcon
            omega
        | false =>
            rw [Blueprint.bodyStart?_eq_none hcon] at hub
            rw [Blueprint.otherwiseStart?_eq_none hcon] at huo
            cases hub
            cases huo
            simp [Outline.nesting]
      rw [Outline.ids_block body otherwise rest hs] at hd ⊢
      -- each part finds its blocks unclaimed: they are distinct from those of the parts before it
      have hassoc : w.claimed ++ node.id :: (body.ids ++ (otherwise.ids ++ rest.ids)) =
          (b.meet room node w).claimed ++ body.ids ++ otherwise.ids ++ rest.ids := by
        simp
      rw [hassoc] at hd ⊢
      have hdo := (List.nodup_append.1 hd).1
      have hdb := (List.nodup_append.1 hdo).1
      obtain ⟨hfb, hcb⟩ :=
        ihbody (by rwa [Blueprint.bodyWithin?_eq hroom]) hdb hnb.1 (by simp [Ahead])
      rw [← hcb] at hdo hd ⊢
      obtain ⟨hfo, hco⟩ :=
        ihother (by rwa [Blueprint.otherwiseWithin?_eq hroom]) hdo hnb.2 (by simp [Ahead])
      rw [← hco] at hd ⊢
      obtain ⟨hfr, hcr⟩ := ihrest hur hd (Outline.nesting_rest_le hnest) (ha.cons ho)
      refine ⟨?_, hcr⟩
      rw [hfr, hfo, hfb, Blueprint.meet_faults, if_neg hroom, List.append_nil]

/-! ### Graphs -/

namespace Graph

/-- Both chains of a graph have an outline that a walk can follow: no block is in them twice, and
they do not nest too many containers. -/
structure UnfoldsTo (g : Graph) (setup loop : Outline) : Prop where
  setup_unfolds : Unfolds g.blueprint (g.start? .setup) setup
  loop_unfolds : Unfolds g.blueprint (g.start? .loop) loop
  nodup : (setup.ids ++ loop.ids).Nodup
  setup_nesting : setup.nesting ≤ maxNesting
  loop_nesting : loop.nesting ≤ maxNesting

/-- What is known before the walks is no fault of a walk. -/
theorem firstWalk_faultless (g : Graph) : g.firstWalk.Faultless := by
  intro f hf
  rcases List.mem_append.1 hf with hf | hf
  · obtain ⟨s, k, rfl⟩ := mem_slotTable_faults hf
    rfl
  · split at hf
    · rw [List.mem_singleton.1 hf]
      rfl
    · simp at hf

/-- Two walks without faults have followed outlines. -/
theorem exists_unfoldsTo {g : Graph} (h : g.walkLoop.2.Faultless) :
    ∃ s l, g.UnfoldsTo s l := by
  have hsetup : g.walkSetup.2.Faultless := h.of_prefix g.walkLoop_walks.faults_prefix
  obtain ⟨s, hs, -, hcs, hns⟩ := g.walkSetup_walks.exists_unfolds hsetup
  obtain ⟨l, hl, -, hcl, hnl⟩ := g.walkLoop_walks.exists_unfolds h
  have hd : g.walkLoop.2.claimed.Nodup :=
    g.walkLoop_walks.nodup (g.walkSetup_walks.nodup List.nodup_nil)
  rw [hcl, hcs] at hd
  exact ⟨s, l, hs, hl, hd, hns, hnl⟩

/-- Walks along outlines meet no fault. -/
theorem UnfoldsTo.walk_faults_eq {g : Graph} {s l : Outline} (h : g.UnfoldsTo s l) :
    g.walkSetup.2.faults = g.firstWalk.faults ∧ g.walkLoop.2.faults = g.firstWalk.faults := by
  obtain ⟨hfs, hcs⟩ := g.walkSetup_walks.faults_eq_of_unfolds h.setup_unfolds
    (List.nodup_append.1 h.nodup).1 h.setup_nesting (by simp [Ahead])
  have hd : (g.walkSetup.2.claimed ++ l.ids).Nodup := by
    rw [hcs]
    exact h.nodup
  obtain ⟨hfl, -⟩ := g.walkLoop_walks.faults_eq_of_unfolds h.loop_unfolds hd h.loop_nesting
    (by simp [Ahead])
  exact ⟨hfs, hfl.trans hfs⟩

theorem UnfoldsTo.faultless {g : Graph} {s l : Outline} (h : g.UnfoldsTo s l) :
    g.walkSetup.2.Faultless ∧ g.walkLoop.2.Faultless := by
  unfold Walk.Faultless
  rw [h.walk_faults_eq.1, h.walk_faults_eq.2]
  exact ⟨g.firstWalk_faultless, g.firstWalk_faultless⟩

/-- The statements of walks along outlines are those of the outlines. -/
theorem UnfoldsTo.statements {g : Graph} {s l : Outline} (h : g.UnfoldsTo s l) :
    g.build.setup = s.statements ∧ g.build.loop = l.statements := by
  obtain ⟨hfs, hfl⟩ := h.faultless
  obtain ⟨s', hs', hss, -, -⟩ := g.walkSetup_walks.exists_unfolds hfs
  obtain ⟨l', hl', hll, -, -⟩ := g.walkLoop_walks.exists_unfolds hfl
  rw [hs'.unique h.setup_unfolds] at hss
  rw [hl'.unique h.loop_unfolds] at hll
  exact ⟨hss, hll⟩

/-- **No fault of the walk is recorded exactly if the graph unfolds, and then the program is the
unfolding.** -/
theorem build_faultless_iff_unfolds (g : Graph) :
    ((∀ f ∈ g.build.faults, f.isOfWalk = false) ↔ ∃ s l, g.UnfoldsTo s l) ∧
      ∀ s l, g.UnfoldsTo s l → g.build.setup = s.statements ∧ g.build.loop = l.statements := by
  refine ⟨⟨exists_unfoldsTo, ?_⟩, fun s l h => h.statements⟩
  rintro ⟨s, l, h⟩
  exact h.faultless.2

end Graph

end BlockSketch
