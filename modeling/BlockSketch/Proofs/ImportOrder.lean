/-
**Imported sketches are built in the order of their text.**

Any text at all can be imported, and its braces need not match anything.  A container may be empty, or
never be closed, or be closed by a brace that was meant for something else.  What the import makes of it
is one chain of blocks after the loop root, in which end blocks never outnumber the containers before
them.  The upgrade reads the chain by scopes, and however oddly they are closed, every block but the
end blocks has its place in the outline, in the order of the chain.

The program follows this outline.  The blocks on it are distinct, so that no walk comes back to a block
or meets one that is claimed already; only containers that are nested too deep can cut a walk short.
If there is none, every block yields its statement, and the statements stand in the order of the lines.

Main definitions:

* `BlockSketch.Imports` — the rules by which lines become blocks;
* `BlockSketch.Node.IsShownIn` — a block has the kind and the parameters that a line shows;
* `BlockSketch.shownLines` — the lines of a sketch that show a block;
* `BlockSketch.Graph.IsPlainChain` — a linear graph that is one numbered chain after the loop root.

Main results:

* `BlockSketch.recognise_isSilent` — a line shows nothing but actions and containers;
* `BlockSketch.Walks.faults_of_unfolds` — along an outline a walk meets no fault but containers that
  are too deep;
* `BlockSketch.Outline.rendered` — the blocks of an outline are rendered in order;
* `BlockSketch.importSketch_builds_in_order` — **imported sketches are built in the order of their
  text**.
-/

import BlockSketch.Proofs.Encoding
import BlockSketch.Proofs.Recognition
import BlockSketch.Proofs.Rendering

set_option relaxedAutoImplicit false
set_option autoImplicit false

namespace BlockSketch

open BlockSketch.Text

/-! ### Lines that show a block -/

/-- What is found in a text is recognised somewhere. -/
theorem exists_of_search {α : Type} {shape : List Char → Option α} {s : List Char} {a : α}
    (h : search shape s = some a) : ∃ t, shape t = some a := by
  induction s with
  | nil => exact ⟨[], h⟩
  | cons c s ih =>
      rw [search] at h
      split at h
      · rename_i b hb
        exact ⟨c :: s, hb.trans h⟩
      · exact ih h

/-- No shape is that of a root, a declaration or an end block. -/
theorem isSilent_of_shape {shape : List Char → Option Found} (hshape : shape ∈ shapes)
    {s : List Char} {found : Found} (h : shape s = some found) : found.kind.isSilent = false := by
  have hall : ∀ shape ∈ shapes, ∀ s found, shape s = some found → found.kind.isSilent = false := by
    simp only [shapes, List.forall_mem_cons, List.not_mem_nil, false_imp_iff, implies_true, and_true]
    refine ⟨?_, ?_, ?_, ?_, ?_, ?_, ?_, ?_, ?_⟩
    all_goals
      intro s found hs
      simp only [delayShape, digitalWriteShape, analogWriteShape, methodShape, printShape, forShape,
        conditionShape, Option.bind_eq_bind, Option.bind_eq_some_iff, Option.pure_def,
        Option.some.injEq, Prod.exists, Option.ite_none_left_eq_some] at hs
      grind [Kind.isSilent, Kind.isRoot, Kind.isDeclaration]
  exact hall shape hshape s found h

/-- A line shows nothing but actions and containers. -/
theorem recognise_isSilent {line : List Char} {found : Found} (h : recognise line = some found) :
    found.kind.isSilent = false := by
  obtain ⟨shape, hshape, hfound⟩ := List.exists_of_findSome?_eq_some h
  obtain ⟨s, hs⟩ := exists_of_search hfound
  exact isSilent_of_shape hshape hs

/-- The rules by which lines become blocks, where so many containers are open.  A lone brace closes one
if there is one; any other line that shows nothing is dropped. -/
inductive Imports : Nat → List (List Char) → List BlockEntry → Prop
  | done {depth : Nat} : Imports depth [] []
  | shown {depth : Nat} {line : List Char} {lines : List (List Char)} {found : Found}
      {params : Fields} {es : List BlockEntry} :
      recognise line = some found → found.params = .ok params →
      Imports (if found.kind.isContainer then depth + 1 else depth) lines es →
      Imports depth (line :: lines) ((found.kind, params) :: es)
  | close {depth : Nat} {lines : List (List Char)} {es : List BlockEntry} :
      Imports depth lines es → Imports (depth + 1) (['\x7d'] :: lines) ((.endBlock, []) :: es)
  | skip {depth : Nat} {line : List Char} {lines : List (List Char)} {es : List BlockEntry} :
      recognise line = none → (line = ['\x7d'] → depth = 0) → Imports depth lines es →
      Imports depth (line :: lines) es

theorem exists_of_bind_eq_ok {ε α β : Type} {x : Except ε α} {f : α → Except ε β} {b : β}
    (h : x >>= f = .ok b) : ∃ a, x = .ok a ∧ f a = .ok b := by
  cases x with
  | error e => cases h
  | ok a => exact ⟨a, rfl, h⟩

/-- Lines are imported by the rules. -/
theorem imports_of_importLines {depth : Nat} {lines : List (List Char)} {es : List BlockEntry}
    (h : importLines depth lines = .ok es) : Imports depth lines es := by
  induction lines generalizing depth es with
  | nil =>
      obtain rfl := Except.ok.inj h
      exact .done
  | cons line lines ih =>
      rw [importLines] at h
      cases hr : recognise line with
      | some found =>
          simp only [hr] at h
          obtain ⟨params, hparams, h⟩ := exists_of_bind_eq_ok h
          obtain ⟨rest, hrest, h⟩ := exists_of_bind_eq_ok h
          obtain rfl := Except.ok.inj h
          exact .shown hr hparams (ih hrest)
      | none =>
          simp only [hr] at h
          split at h
          · rename_i hclose
            obtain ⟨rfl, hdepth⟩ := hclose
            obtain ⟨rest, hrest, h⟩ := exists_of_bind_eq_ok h
            obtain rfl := Except.ok.inj h
            obtain ⟨depth, rfl⟩ := Nat.exists_eq_succ_of_ne_zero hdepth
            exact .close (ih hrest)
          · rename_i hskip
            exact .skip hr (fun hline => of_not_not fun hdepth => hskip ⟨hline, hdepth⟩) (ih h)

/-- A block has the kind that a line shows, and its parameters over those of the catalog. -/
def Node.IsShownIn (n : Node) (line : List Char) : Prop :=
  ∃ found params, recognise line = some found ∧ found.params = .ok params ∧
    n.kind? = some found.kind ∧ n.params = Fields.setAll (Catalog.params found.kind) params

/-- The lines in the loop function of a sketch that show a block. -/
def shownLines (text : String) : List (List Char) :=
  (((loopBody? text.toList).map bodyLines).getD []).filter fun line => (recognise line).isSome

namespace Imports

variable {depth : Nat} {lines : List (List Char)} {es : List BlockEntry}
  (h : Imports depth lines es)
include h

/-- Every block but an end block yields a statement. -/
theorem isSilent_eq_false : ∀ e ∈ es, e.1 ≠ .endBlock → e.1.isSilent = false := by
  induction h with
  | done => simp
  | shown hr _ _ ih => exact List.forall_mem_cons.2 ⟨fun _ => recognise_isSilent hr, ih⟩
  | close _ ih => exact List.forall_mem_cons.2 ⟨fun hne => absurd rfl hne, ih⟩
  | skip _ _ _ ih => exact ih

/-- End blocks never outnumber the containers that are open. -/
theorem countP_isEnd_le (place : Nat) {p : List Node} (hp : p <+: chainNodes place es) :
    p.countP Node.isEnd ≤ depth + p.countP Node.isContainer := by
  induction h generalizing place p with
  | done =>
      rw [List.prefix_nil.1 hp]
      exact Nat.zero_le _
  | @shown depth _ _ found params _ hr _ _ ih =>
      have hend : (chainNode place (found.kind, params)).isEnd = false :=
        isEnd_chainNode (recognise_isSilent hr) place
      have hcontainer := isContainer_chainNode place (found.kind, params)
      rw [chainNodes_cons] at hp
      rcases List.prefix_cons_iff.1 hp with rfl | ⟨q, rfl, hq⟩
      · exact Nat.zero_le _
      · have hle := ih (place + 1) hq
        rw [List.countP_cons, List.countP_cons, hend, hcontainer, if_neg Bool.false_ne_true]
        split at hle <;> rename_i hc
        · rw [if_pos hc]
          omega
        · omega
  | close _ ih =>
      have hend : (chainNode place (.endBlock, [])).isEnd = true := rfl
      rw [chainNodes_cons] at hp
      rcases List.prefix_cons_iff.1 hp with rfl | ⟨q, rfl, hq⟩
      · exact Nat.zero_le _
      · have hle := ih (place + 1) hq
        rw [List.countP_cons, List.countP_cons, hend, isContainer_chainNode, if_pos rfl]
        omega
  | skip _ _ _ ih => exact ih place hp

/-- The blocks but for the end blocks are shown in the lines, in their order. -/
theorem forall₂_isShownIn (place : Nat) :
    List.Forall₂ Node.IsShownIn ((chainNodes place es).filter fun n => !n.isEnd)
      (lines.filter fun line => (recognise line).isSome) := by
  induction h generalizing place with
  | done => exact .nil
  | @shown _ _ _ found params es hr hp _ ih =>
      have hend : (chainNode place (found.kind, params)).isEnd = false :=
        isEnd_chainNode (recognise_isSilent hr) place
      rw [chainNodes_cons, List.filter_cons_of_pos (by simp [hend]),
        List.filter_cons_of_pos (by simp [hr])]
      exact .cons ⟨found, params, hr, hp, by simp [chainNode], rfl⟩ (ih (place + 1))
  | close _ ih =>
      have hend : (chainNode place (.endBlock, [])).isEnd = true := rfl
      have hr : recognise ['\x7d'] = none := recognise_eq_none (by decide)
      rw [chainNodes_cons, List.filter_cons_of_neg (by simp [hend]),
        List.filter_cons_of_neg (by simp [hr])]
      exact ih (place + 1)
  | skip hr _ _ ih =>
      rw [List.filter_cons_of_neg (by simp [hr])]
      exact ih place

end Imports

/-! ### Plain chains -/

/-- A linear graph that is one chain of blocks after the loop root.  The blocks are numbered, all ids
are distinct, the links lead from each block to the next, and none of them names a slot. -/
structure Graph.IsPlainChain (g : Graph) (ns : List Node) : Prop where
  version : g.version = 1
  nodes : g.nodes = setupNode :: loopNode :: ns
  ids : ns.map Node.id = (List.range' 1 ns.length).map chainId
  nodup : (g.nodes.map Node.id).Nodup
  links : g.edges.map (fun e => (e.source, e.target)) =
    ("loop" :: ns.map Node.id).zip (ns.map Node.id)
  untyped : ∀ e ∈ g.edges, e.slot = none ∧ e.sourceHandle = none ∧ e.targetHandle = none

theorem chainEdges_ends (last : String) (place : Nat) (es : List BlockEntry) :
    (chainEdges last place es).map (fun e => (e.source, e.target)) =
      (last :: (chainNodes place es).map Node.id).zip ((chainNodes place es).map Node.id) := by
  induction es generalizing last place with
  | nil => rfl
  | cons e es ih => simp [chainEdges, chainNodes, ih]

theorem chainEdges_untyped (last : String) (place : Nat) (es : List BlockEntry) :
    ∀ e ∈ chainEdges last place es,
      e.slot = none ∧ e.sourceHandle = none ∧ e.targetHandle = none := by
  induction es generalizing last place with
  | nil => simp [chainEdges]
  | cons e es ih => exact List.forall_mem_cons.2 ⟨⟨rfl, rfl, rfl⟩, ih _ _⟩

theorem isPlainChain_linearGraph (es : List BlockEntry) :
    (linearGraph es).IsPlainChain (chainNodes 1 es) where
  version := rfl
  nodes := rfl
  ids := by
    have hlength : (chainNodes 1 es).length = es.length := by
      simpa using congrArg List.length (chainNodes_map_id 1 es)
    rw [chainNodes_map_id, hlength]
  nodup := nodup_linearGraph_ids es
  links := chainEdges_ends "loop" 1 es
  untyped := chainEdges_untyped "loop" 1 es

/-! ### Walks along outlines -/

/-- Along an outline a walk meets no fault but containers that are too deep, provided that the blocks
are distinct and not claimed yet.  It claims some of them, in order. -/
theorem Walks.faults_of_unfolds {b : Blueprint} {room : Nat} {chain : Chain}
    {visited : List String} {start : Option String} {w w' : Walk} {ss : List Statement}
    (h : Walks b room chain visited start w ss w') {o : Outline} (ho : Unfolds b start o)
    (hd : (w.claimed ++ o.ids).Nodup) (ha : Ahead b visited o) :
    (∀ f ∈ w'.faults, f ∈ w.faults ∨ ∃ id, f = .tooDeep id) ∧
      ∃ ids, ids.Sublist o.ids ∧ w'.claimed = w.claimed ++ ids := by
  induction h generalizing o with
  | done => exact ⟨fun f hf => Or.inl hf, [], List.nil_sublist _, by simp⟩
  | cycle hv => exact absurd hv (ha.not_mem ho)
  | silent hv hn hs _ ih =>
      obtain ⟨body, otherwise, rest, rfl, hbody, hother, hrest⟩ := ho.exists_block hn
      have hc := Node.isContainer_of_isSilent hs
      rw [Blueprint.bodyStart?_eq_none hc] at hbody
      rw [Blueprint.otherwiseStart?_eq_none hc] at hother
      cases hbody
      cases hother
      rw [Outline.ids_silent rest hs] at hd ⊢
      exact ih hrest hd (ha.cons ho)
  | shared _ hn hs hc =>
      obtain ⟨body, otherwise, rest, rfl, -, -, -⟩ := ho.exists_block hn
      rw [Outline.ids_block body otherwise rest hs, nodeById?_id hn] at hd
      exact absurd rfl ((List.nodup_append.1 hd).2.2 _ hc _ List.mem_cons_self)
  | @block room _ _ id node w w₁ w₂ w₃ _ _ _ _ hv hn hs hc _ _ _ _ ihbody ihother ihrest =>
      obtain ⟨body, otherwise, rest, rfl, hub, huo, hur⟩ := ho.exists_block hn
      rw [Outline.ids_block body otherwise rest hs] at hd ⊢
      -- where there is no room, the bodies are left out
      obtain ⟨body', hub', hsb⟩ :
          ∃ o, Unfolds b (b.bodyWithin? room node) o ∧ o.ids.Sublist body.ids := by
        rw [Blueprint.bodyWithin?]
        split
        · exact ⟨.done, .done, List.nil_sublist _⟩
        · exact ⟨body, hub, List.Sublist.refl _⟩
      obtain ⟨otherwise', huo', hso⟩ :
          ∃ o, Unfolds b (b.otherwiseWithin? room node) o ∧ o.ids.Sublist otherwise.ids := by
        rw [Blueprint.otherwiseWithin?]
        split
        · exact ⟨.done, .done, List.nil_sublist _⟩
        · exact ⟨otherwise, huo, List.Sublist.refl _⟩
      -- each part finds its blocks unclaimed: they are distinct from those of the parts before it
      have hpart {bs os rs : List String} (hb : bs.Sublist body.ids)
          (ho : os.Sublist otherwise.ids) (hr : rs.Sublist rest.ids) :
          ((b.meet room node w).claimed ++ bs ++ os ++ rs).Nodup := by
        refine hd.sublist ?_
        simpa using hb.append (ho.append hr)
      obtain ⟨hfb, bs, hbs, hcb⟩ := ihbody hub'
        (by simpa using hpart hsb (List.nil_sublist _) (List.nil_sublist _)) (by simp [Ahead])
      obtain ⟨hfo, os, hos, hco⟩ := ihother huo'
        (by simpa [hcb] using hpart (hbs.trans hsb) hso (List.nil_sublist _)) (by simp [Ahead])
      obtain ⟨hfr, rs, hrs, hcr⟩ := ihrest hur
        (by simpa [hco, hcb] using hpart (hbs.trans hsb) (hos.trans hso) (List.Sublist.refl _))
        (ha.cons ho)
      refine ⟨fun f hf => ?_, node.id :: (bs ++ (os ++ rs)), ?_, by simp [hcr, hco, hcb]⟩
      · rcases hfr f hf with hf | hf
        · rcases hfo f hf with hf | hf
          · rcases hfb f hf with hf | hf
            · rw [Blueprint.meet_faults, List.mem_append] at hf
              refine hf.imp_right fun hf => ?_
              split at hf
              · exact ⟨node.id, List.mem_singleton.1 hf⟩
              · simp at hf
            · exact Or.inr hf
          · exact Or.inr hf
        · exact Or.inr hf
      · exact ((hbs.trans hsb).append ((hos.trans hso).append hrs)).cons_cons node.id

/-- A graph whose chains have outlines with distinct blocks has no fault of the walk but containers that
are too deep. -/
theorem Graph.faults_of_unfolds {g : Graph} {s l : Outline}
    (hs : Unfolds g.blueprint (g.start? .setup) s) (hl : Unfolds g.blueprint (g.start? .loop) l)
    (hd : (s.ids ++ l.ids).Nodup) :
    ∀ f ∈ g.build.faults, f ∈ g.firstWalk.faults ∨ ∃ id, f = .tooDeep id := by
  obtain ⟨hfs, ids, hids, hcs⟩ := g.walkSetup_walks.faults_of_unfolds hs
    (List.nodup_append.1 hd).1 (by simp [Ahead])
  have hd' : (g.walkSetup.2.claimed ++ l.ids).Nodup := by
    rw [hcs]
    exact hd.sublist (hids.append (List.Sublist.refl _))
  obtain ⟨hfl, -⟩ := g.walkLoop_walks.faults_of_unfolds hl hd' (by simp [Ahead])
  exact fun f hf => (hfl f hf).elim (hfs f) Or.inr

/-- Walks along outlines claim all blocks that yield a statement. -/
theorem Graph.UnfoldsTo.claimed_eq {g : Graph} {s l : Outline} (h : g.UnfoldsTo s l) :
    g.walkLoop.2.claimed = s.ids ++ l.ids := by
  have hcs := (g.walkSetup_walks.faults_eq_of_unfolds h.setup_unfolds
    (List.nodup_append.1 h.nodup).1 h.setup_nesting (by simp [Ahead])).2
  rw [show g.firstWalk.claimed = [] from rfl, List.nil_append] at hcs
  rw [← hcs]
  exact (g.walkLoop_walks.faults_eq_of_unfolds h.loop_unfolds (hcs ▸ h.nodup) h.loop_nesting
    (by simp [Ahead])).2

/-! ### Outlines without silent blocks -/

namespace Outline

variable {o : Outline} (hn : ∀ n ∈ o.nodes, n.isSilent = false)
include hn

theorem ids_eq_nodes : o.ids = o.nodes.map Node.id := by
  induction o with
  | done => rfl
  | block n body otherwise rest ihbody ihother ihrest =>
      simp only [nodes, List.forall_mem_cons, List.forall_mem_append] at hn
      obtain ⟨hsilent, hb, ho, hr⟩ := hn
      rw [ids_block body otherwise rest hsilent, ihbody hb, ihother ho, ihrest hr, nodes]
      simp

/-- The blocks of an outline are rendered in order. -/
theorem rendered (hs : o.Shaped) : List.Forall₂ Node.RendersAs o.nodes (flattenAll o.statements) := by
  induction o with
  | done => exact .nil
  | block n body otherwise rest ihbody ihother ihrest =>
      simp only [nodes, List.forall_mem_cons, List.forall_mem_append] at hn
      obtain ⟨hsilent, hb, ho, hr⟩ := hn
      obtain ⟨hbody, hother, hsb, hso, hsr⟩ := hs
      obtain ⟨s, hstatement⟩ := Option.isSome_iff_exists.1
        (n.statement?_isSome hsilent body.statements otherwise.statements)
      obtain ⟨-, hsbody, hsother⟩ := Node.bodies_of_statement? hstatement
        (fun hc => by rw [hbody hc, statements]) (fun hc => by rw [hother hc, statements])
      rw [statements, hstatement, Option.toList_some, List.singleton_append, flattenAll,
        s.flatten_eq, hsbody, hsother, nodes, List.cons_append, List.append_assoc]
      exact .cons (Node.rendersAs_of_statement? hstatement)
        (List.rel_append (ihbody hb hsb) (List.rel_append (ihother ho hso) (ihrest hr hsr)))

end Outline

/-! ### Imported graphs -/

section Chain

variable {es : List BlockEntry} (hes : ∀ e ∈ es, e.1 ≠ .endBlock → e.1.isSilent = false)
include hes

theorem isRoot_of_isSilent : ∀ e ∈ es, e.1.isRoot = false := by
  intro e he
  by_cases hend : e.1 = .endBlock
  · rw [hend]
    rfl
  · have hsilent := hes e he hend
    simp only [Kind.isSilent, Bool.or_eq_false_iff] at hsilent
    exact hsilent.1.1

theorem isSilent_of_mem_chain {n : Node} (hn : n ∈ chainNodes 1 es) (hend : n.isEnd = false) :
    n.isSilent = false := by
  have hkind := List.mem_map_of_mem (f := Node.kind?) hn
  rw [chainNodes_map_kind?] at hkind
  obtain ⟨e, he, hk⟩ := List.mem_map.1 hkind
  rw [Node.isSilent, ← hk]
  refine hes e he fun h => ?_
  rw [Node.isEnd, Node.hasKind, ← hk, h] at hend
  simp at hend

/-- The outline of the chain has its blocks but for the end blocks, and none of them is silent. -/
theorem readChain_not_silent :
    ∀ n ∈ (readChain (chainNodes 1 es)).nodes, n.isSilent = false := by
  intro n hn
  rw [readChain_nodes, List.mem_filter, Bool.not_eq_true'] at hn
  exact isSilent_of_mem_chain hes hn.1 hn.2

omit hes in
/-- If all blocks but the end blocks are claimed, none is reported as unconnected. -/
theorem unconnected_not_mem_of_claimed {m : Graph} {ks : List Link}
    (hu : (linearGraph es).Upgraded m ks)
    (hc : m.walkLoop.2.claimed = ((chainNodes 1 es).filter fun n => !n.isEnd).map Node.id)
    (t : String) : (Warning.unconnected t).message ∉ m.build.warnings.map Warning.message := by
  rw [← List.count_eq_zero, Graph.count_unconnected, if_neg]
  rw [Graph.mem_unconnected, hu.nodes_eq, normalNodes_linearGraph, linearGraph_nodes]
  rintro ⟨n, hn, -, hkind, hclaimed⟩
  obtain ⟨hmem, hend⟩ := List.mem_filter.1 hn
  -- the two roots are not reported in any case
  rcases List.mem_cons.1 hmem with rfl | hmem
  · exact hkind rfl
  rcases List.mem_cons.1 hmem with rfl | hmem
  · exact hkind rfl
  · exact hclaimed (hc ▸ List.mem_map_of_mem (List.mem_filter.2 ⟨hmem, hend⟩))

/-- The blocks of a chain are built in its order, if no container is too deep. -/
theorem linearGraph_builds_in_order :
    ∃ m, (linearGraph es).migrate = .ok m ∧
      (∀ f ∈ m.build.faults, ∃ id, f = .tooDeep id) ∧
      (m.build.faults = [] →
        m.build.setup = [] ∧
        (∀ t, (Warning.unconnected t).message ∉ m.build.warnings.map Warning.message) ∧
        List.Forall₂ Node.RendersAs ((chainNodes 1 es).filter fun n => !n.isEnd)
          (flattenAll m.build.loop)) := by
  have hroot := isRoot_of_isSilent hes
  have hlinear := linearGraph_hasLinearChains hroot
  have hversion : (linearGraph es).version ≠ 2 := show (1 : Int) ≠ 2 by decide
  obtain ⟨m, ks, hm, hu⟩ := hlinear.exists_upgraded hversion
  have hsetup : Unfolds m.blueprint (m.start? .setup) .done :=
    hu.unfolds hlinear rfl (linearGraph_rootChain_setup hroot)
  have hloop := hu.unfolds hlinear rfl (linearGraph_rootChain_loop hroot)
  have hsilent := readChain_not_silent hes
  have hids := Outline.ids_eq_nodes hsilent
  rw [readChain_nodes] at hids
  refine ⟨m, hm, fun f hf => ?_, fun hfaults => ?_⟩
  · have hnodup := nodup_linearGraph_ids es
    rw [linearGraph_nodes, List.map_cons, List.map_cons, List.nodup_cons, List.nodup_cons] at hnodup
    have hd : (Outline.done.ids ++ (readChain (chainNodes 1 es)).ids).Nodup := by
      rw [Outline.ids, List.nil_append, hids]
      exact hnodup.2.2.sublist (List.filter_sublist.map _)
    refine (Graph.faults_of_unfolds hsetup hloop hd f hf).resolve_left ?_
    rw [hu.firstWalk_faults hlinear]
    exact List.not_mem_nil
  · have hfaultless : m.walkLoop.2.Faultless := by
      intro f hf
      rw [show m.walkLoop.2.faults = [] from hfaults] at hf
      cases hf
    -- a walk without faults has followed the outlines that are known
    obtain ⟨s, l, hunfolds⟩ := Graph.exists_unfoldsTo hfaultless
    obtain rfl := hunfolds.setup_unfolds.unique hsetup
    obtain rfl := hunfolds.loop_unfolds.unique hloop
    obtain ⟨hs, hl⟩ := hunfolds.statements
    have hclaimed := hunfolds.claimed_eq
    rw [Outline.ids, List.nil_append, hids] at hclaimed
    refine ⟨hs, unconnected_not_mem_of_claimed hu hclaimed, ?_⟩
    rw [hl, ← readChain_nodes]
    refine Outline.rendered hsilent ?_
    rw [readChain_eq]
    exact (readScopes_shaped 0 _).1

end Chain

/-- A sketch is imported as the chain of its lines. -/
theorem exists_imports_of_importSketch {text : String} {g : Graph}
    (h : importSketch text = .ok g) :
    ∃ es, g = linearGraph es ∧ Imports 0 (((loopBody? text.toList).map bodyLines).getD []) es := by
  rw [importSketch] at h
  cases hbody : loopBody? text.toList with
  | none =>
      rw [hbody] at h
      exact ⟨[], (Except.ok.inj h).symm, .done⟩
  | some body =>
      rw [hbody] at h
      cases hes : importLines 0 (bodyLines body) with
      | error e =>
          simp only [hes] at h
          cases h
      | ok es =>
          simp only [hes] at h
          exact ⟨es, (Except.ok.inj h).symm, imports_of_importLines hes⟩

/-- **Imported sketches are built in the order of their text.**  The graph of a sketch is one plain
chain, in which end blocks never outnumber the containers before them and the other blocks are those
that the lines show.  It can be upgraded, and the program has no fault but containers that are too deep.
If it has none, its loop consists of the statements of these blocks in their order, its setup is empty,
and no block is reported as unconnected. -/
theorem importSketch_builds_in_order {text : String} {g : Graph} (h : importSketch text = .ok g) :
    ∃ ns m, g.IsPlainChain ns ∧
      (∀ p, p <+: ns → p.countP Node.isEnd ≤ p.countP Node.isContainer) ∧
      List.Forall₂ Node.IsShownIn (ns.filter fun n => !n.isEnd) (shownLines text) ∧
      g.migrate = .ok m ∧ (∀ f ∈ m.build.faults, ∃ id, f = .tooDeep id) ∧
      (m.build.faults = [] →
        m.build.setup = [] ∧
        (∀ t, (Warning.unconnected t).message ∉ m.build.warnings.map Warning.message) ∧
        List.Forall₂ Node.RendersAs (ns.filter fun n => !n.isEnd) (flattenAll m.build.loop)) := by
  obtain ⟨es, rfl, himports⟩ := exists_imports_of_importSketch h
  obtain ⟨m, hm, hfaults, hbuild⟩ := linearGraph_builds_in_order himports.isSilent_eq_false
  refine ⟨chainNodes 1 es, m, isPlainChain_linearGraph es, fun p hp => ?_,
    himports.forall₂_isShownIn 1, hm, hfaults, hbuild⟩
  simpa using himports.countP_isEnd_le 1 hp

/-- A sketch whose braces do not match: a branch is empty, there is a brace too many, and the last branch
is never closed.  One line shows nothing. -/
def crooked : String :=
  "void loop() \x7b\n  while (a) \x7b\n    if (b) \x7b\n    \x7d\n    delay(5);\n  \x7d\n  \x7d\n" ++
    "  x = 1;\n  if (c) \x7b\n  delay(7);\n\x7d\n"

theorem crooked_build : ∃ g ns m, importSketch crooked = .ok g ∧ g.IsPlainChain ns ∧
    g.migrate = .ok m ∧ m.build.faults = [] ∧
    (shownLines crooked).map String.ofList =
      ["while (a) \x7b", "if (b) \x7b", "delay(5);", "if (c) \x7b", "delay(7);"] ∧
    List.Forall₂ Node.IsShownIn (ns.filter fun n => !n.isEnd) (shownLines crooked) ∧
    List.Forall₂ Node.RendersAs (ns.filter fun n => !n.isEnd) (flattenAll m.build.loop) := by
  have hfree : ((importSketch crooked).toOption.bind fun g =>
      g.migrate.toOption.map fun m => m.build.faults) = some [] := by
    decide +kernel
  cases hg : importSketch crooked with
  | error e =>
      rw [hg] at hfree
      cases hfree
  | ok g =>
      obtain ⟨ns, m, hchain, -, hlines, hm, -, hbuild⟩ := importSketch_builds_in_order hg
      rw [hg, Except.toOption, Option.bind_some, hm] at hfree
      have hfaults : m.build.faults = [] := Option.some.inj hfree
      exact ⟨g, ns, m, rfl, hchain, hm, hfaults, by decide +kernel, hlines, (hbuild hfaults).2.2⟩

end BlockSketch
