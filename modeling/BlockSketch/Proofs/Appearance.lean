/-
**Appearance.**

Editor state holds more than a program depends on: labels and positions of blocks, how they are drawn,
ids of links, the handles at which links arrive, and whatever else the editor has put there.  State is
*repainted* if only these change.  The blocks of the one state are then twins of those of the other,
under the ids that they have, and the links run between the same ids.

Every stage of compiling is followed on both sides.  Reading drops the same blocks, the two states are
linear or typed alike, they lack the same roots, and their links have the same slots.  The reading of
a linear chain asks only what kinds its blocks are of and which block is next, so that both upgrades find
the same links or fail for the same root.  What is left are twin graphs.

Main definitions:

* `BlockSketch.Value.SameBlock`, `BlockSketch.Value.SameLink` — stored entries that agree in the fields on
  which a program depends;
* `BlockSketch.Value.IsRepainted`, `BlockSketch.Graph.IsRepainted` — the same but for appearance;
* `BlockSketch.Program.silenced` — a program without its warnings, which speak of labels.

Main results:

* `BlockSketch.Value.IsRepainted.of_entries` — states whose entries agree in those fields are repainted;
* `BlockSketch.chainLinks_of_forall₂` — the links of linear chains do not depend on appearance;
* `BlockSketch.Graph.IsRepainted.load_cases` — repainted graphs are loaded as twins;
* `BlockSketch.Graph.IsTwin.silenced_build_eq` — twins under the same ids have the same program but for
  warnings;
* `BlockSketch.compile_repainted` — **appearance does not influence the sketch**.
-/

import BlockSketch.Proofs.RootIds
import BlockSketch.Proofs.TwinGraphs
import BlockSketch.Sketch.Compile

set_option relaxedAutoImplicit false
set_option autoImplicit false

namespace BlockSketch

/-! ### Linear chains -/

section Chains

variable {ns ms : List Node} {es ds : List Edge}

/-- An id stands for twins or for nothing. -/
theorem rel_nodeById? (hn : List.Forall₂ (Node.IsTwin id) ns ms) (i : String) :
    Option.Rel (Node.IsTwin id) (nodeById? ns i) (nodeById? ms i) :=
  nodeById?_of_forall₂ Function.injective_id hn i

variable (hn : List.Forall₂ (Node.IsTwin id) ns ms)
include hn

theorem isSome_nodeById?_eq (i : String) :
    (nodeById? ms i).isSome = (nodeById? ns i).isSome :=
  isSome_nodeById?_of_forall₂ Function.injective_id hn i

theorem isEndId_of_forall₂ : isEndId ms = isEndId ns := by
  funext i
  exact any_eq_of_rel (rel_nodeById? hn i) fun _ _ hr => hr.isEnd_eq

theorem bodyStart?_of_forall₂ {n m : Node} (h : n.IsTwin id m) (following : Option String) :
    Reading.bodyStart? ms m following = Reading.bodyStart? ns n following := by
  have hbody (i : String) : ((nodeById? ms i).any fun n => !n.isEnd) =
      (nodeById? ns i).any fun n => !n.isEnd :=
    any_eq_of_rel (rel_nodeById? hn i) fun _ _ hr => by rw [hr.isEnd_eq]
  simp only [Reading.bodyStart?, h.kind?_eq, hbody]

variable (he : follow? ds = follow? es)
include he

theorem skipEnds?_of_forall₂ : skipEnds? ms ds = skipEnds? ns es := by
  funext fuel start
  induction fuel generalizing start with
  | zero => cases start <;> simp only [skipEnds?, isEndId_of_forall₂ hn]
  | succ fuel ih => cases start <;> simp only [skipEnds?, isEndId_of_forall₂ hn, he, ih]

/-- One step of a reading does not depend on appearance. -/
theorem step_of_forall₂ : Reading.step ms ds = Reading.step ns es := by
  funext r
  rw [Reading.step, Reading.step]
  cases r.current with
  | none => rfl
  | some i =>
      rcases rel_cases (rel_nodeById? hn i) with ⟨hi, hi'⟩ | ⟨n, m, hi, hi', hr⟩
      · simp only [hi, hi']
      · simp only [hi, hi', hr.isEnd_eq, bodyStart?_of_forall₂ hn hr, he]

theorem run_of_forall₂ : Reading.run ms ds = Reading.run ns es := by
  funext fuel r
  induction fuel generalizing r with
  | zero => rfl
  | succ fuel ih => rw [Reading.run, Reading.run, ih, step_of_forall₂ hn he]

theorem rootLinks_of_forall₂ : rootLinks ms ds = rootLinks ns es := by
  funext root
  simp only [rootLinks, Reading.ofChain, skipEnds?_of_forall₂ hn he, run_of_forall₂ hn he,
    hn.length_eq, isSome_nodeById?_eq hn, he]

/-- The links of linear chains do not depend on appearance. -/
theorem chainLinks_of_forall₂ : chainLinks ms ds = chainLinks ns es := by
  funext roots
  induction roots with
  | nil => rfl
  | cons root roots ih => rw [chainLinks, chainLinks, rootLinks_of_forall₂ hn he, ih]

end Chains

/-! ### Normal blocks -/

theorem Node.IsTwin.drawn {f : String → String} {n m : Node} (h : n.IsTwin f m) :
    n.drawn.IsTwin f m.drawn := by
  rw [Node.drawn, Node.drawn, h.blockType]
  split
  · exact ⟨h.id, rfl, h.params⟩
  · exact h

section Normal

variable {ns ms : List Node} (h : List.Forall₂ (Node.IsTwin id) ns ms)
include h

theorem ids_of_forall₂ : ms.map Node.id = ns.map Node.id :=
  map_eq_of_forall₂ h fun _ _ hr => hr.id

/-- Repainted blocks lack the same roots, and these are given the same ids. -/
theorem newRoots_of_forall₂ : newRoots ms = newRoots ns := by
  have hroot : newRoot ms = newRoot ns := by
    funext k
    rw [newRoot, rootId_eq, ids_of_forall₂ h, ← rootId_eq, newRoot]
  have hkind (k : Kind) : (ms.any fun n => n.hasKind k) = ns.any fun n => n.hasKind k :=
    any_eq_of_forall₂ h fun _ _ hr => hr.hasKind_eq k
  simp only [newRoots, hroot, hkind]

theorem normalNodes_of_forall₂ :
    List.Forall₂ (Node.IsTwin id) (normalNodes ns) (normalNodes ms) := by
  rw [normalNodes_eq, normalNodes_eq, newRoots_of_forall₂ h]
  refine List.rel_append ?_ (List.forall₂_same.2 fun n _ => ⟨rfl, rfl, fun _ => rfl⟩)
  rw [List.forall₂_map_left_iff, List.forall₂_map_right_iff]
  exact h.imp fun _ _ hr => hr.drawn

/-- Of several blocks with one id the first is kept on both sides. -/
theorem firstsById_of_forall₂ (seen : List String) :
    List.Forall₂ (Node.IsTwin id) (firstsById seen ns) (firstsById seen ms) := by
  induction h generalizing seen with
  | nil => exact .nil
  | @cons n m ns ms hr _ ih =>
      have hid : m.id = n.id := hr.id
      rw [firstsById, firstsById, hid]
      split
      · exact ih seen
      · exact .cons hr (ih (n.id :: seen))

end Normal

/-! ### Repainted graphs -/

/-- Two links that agree in all but their ids, the handles at which they arrive and the data of the
editor. -/
structure Edge.IsRepainted (e d : Edge) : Prop where
  source : d.source = e.source
  target : d.target = e.target
  slot : d.slot = e.slot
  sourceHandle : d.sourceHandle = e.sourceHandle

theorem Edge.IsRepainted.namedSlot?_eq {e d : Edge} (h : e.IsRepainted d) :
    d.namedSlot? = e.namedSlot? := by
  rw [Edge.namedSlot?, h.slot, h.sourceHandle, Edge.namedSlot?]

/-- Two graphs that agree in all but appearance. -/
structure Graph.IsRepainted (g h : Graph) : Prop where
  version : h.version = g.version
  nodes : List.Forall₂ (Node.IsTwin id) g.nodes h.nodes
  edges : List.Forall₂ Edge.IsRepainted g.edges h.edges

/-- Two states of the editor that agree in all but appearance: they are typed alike, and their blocks
and links, as far as they can be read, agree one by one. -/
structure Value.IsRepainted (state state' : Value) : Prop where
  version : (state'.field? "version").any isTypedVersion =
    (state.field? "version").any isTypedVersion
  nodes : List.Forall₂ (Node.IsTwin id) ((entries state "nodes").filterMap Node.ofValue?)
    ((entries state' "nodes").filterMap Node.ofValue?)
  edges : List.Forall₂ Edge.IsRepainted ((entries state "edges").filterMap Edge.ofValue?)
    ((entries state' "edges").filterMap Edge.ofValue?)

/-! ### Stored entries -/

section Entries

/-- A field of the data of a stored entry. -/
def Value.dataField? (v : Value) (key : String) : Option Value :=
  (v.field? "data").bind fun data => data.field? key

/-- Whether an entry is that of a block: it has an id. -/
def Value.isBlockEntry (v : Value) : Bool :=
  (v.text? "id").isSome

/-- Whether an entry is that of a link: it has an id and two ends. -/
def Value.isLinkEntry (v : Value) : Bool :=
  (v.text? "id").isSome && (v.text? "source").isSome && (v.text? "target").isSome

/-- Two entries of blocks that agree in the fields on which a program depends. -/
structure Value.SameBlock (v w : Value) : Prop where
  id : w.field? "id" = v.field? "id"
  blockType : w.dataField? "blockType" = v.dataField? "blockType"
  params : w.dataField? "params" = v.dataField? "params"

/-- Two entries of links that agree in the fields on which a program depends.  Their ids are not among
them. -/
structure Value.SameLink (v w : Value) : Prop where
  source : w.field? "source" = v.field? "source"
  target : w.field? "target" = v.field? "target"
  kind : w.dataField? "kind" = v.dataField? "kind"
  sourceHandle : w.field? "sourceHandle" = v.field? "sourceHandle"

variable {v w : Value}

/-- An entry without data has no field of it. -/
theorem Value.field?_getD_data (fs : Fields) (key : String) :
    ((Fields.get? fs "data").getD .null).field? key = (Value.object fs).dataField? key := by
  rw [dataField?, show (Value.object fs).field? "data" = Fields.get? fs "data" from rfl]
  cases Fields.get? fs "data" <;> rfl

/-- What is read of an entry with an id. -/
theorem Node.exists_ofValue? (h : v.isBlockEntry = true) : ∃ n, Node.ofValue? v = some n ∧
    v.text? "id" = some n.id ∧ n.blockType = (v.dataField? "blockType").bind Value.string? ∧
    n.params = ((v.dataField? "params").bind Value.object?).getD [] := by
  obtain ⟨id, hid⟩ := Option.isSome_iff_exists.1 h
  cases v with
  | object fs =>
      refine ⟨_, by rw [ofValue?, hid]; rfl, hid, ?_, ?_⟩
      · exact congrArg (Option.bind · Value.string?) (Value.field?_getD_data fs "blockType")
      · exact congrArg (fun x => (Option.bind x Value.object?).getD [])
          (Value.field?_getD_data fs "params")
  | _ => cases hid

theorem Node.ofValue?_of_not_isBlockEntry (h : v.isBlockEntry = false) :
    Node.ofValue? v = none := by
  have hid : v.text? "id" = none := by simpa [Value.isBlockEntry] using h
  cases v with
  | object fs =>
      rw [ofValue?, hid]
      rfl
  | _ => rfl

/-- What is read of an entry with an id and two ends. -/
theorem Edge.exists_ofValue? (h : v.isLinkEntry = true) : ∃ e, Edge.ofValue? v = some e ∧
    v.text? "source" = some e.source ∧ v.text? "target" = some e.target ∧
    e.slot = ((v.dataField? "kind").bind Value.string?).bind Slot.ofTag? ∧
    e.sourceHandle = v.text? "sourceHandle" := by
  rw [Value.isLinkEntry, Bool.and_eq_true, Bool.and_eq_true] at h
  obtain ⟨id, hid⟩ := Option.isSome_iff_exists.1 h.1.1
  obtain ⟨source, hsource⟩ := Option.isSome_iff_exists.1 h.1.2
  obtain ⟨target, htarget⟩ := Option.isSome_iff_exists.1 h.2
  cases v with
  | object fs =>
      refine ⟨_, by rw [ofValue?, hid, hsource, htarget]; rfl, hsource, htarget, ?_, rfl⟩
      exact congrArg (fun x => (Option.bind x Value.string?).bind Slot.ofTag?)
        (Value.field?_getD_data fs "kind")
  | _ => cases hid

theorem Edge.ofValue?_of_not_isLinkEntry (h : v.isLinkEntry = false) :
    Edge.ofValue? v = none := by
  cases v with
  | object fs =>
      rw [ofValue?]
      cases hid : (Value.object fs).text? "id" with
      | none => rfl
      | some =>
          cases hsource : (Value.object fs).text? "source" with
          | none => rfl
          | some =>
              cases htarget : (Value.object fs).text? "target" with
              | none => rfl
              | some => simp [Value.isLinkEntry, hid, hsource, htarget] at h
  | _ => rfl

/-- Entries that agree in the fields of a block are read as twins. -/
theorem Value.SameBlock.isTwin (h : v.SameBlock w) (hv : v.isBlockEntry = true) :
    ∃ n m, Node.ofValue? v = some n ∧ Node.ofValue? w = some m ∧ n.IsTwin (fun id => id) m := by
  have hid : w.text? "id" = v.text? "id" := by rw [text?, h.id, text?]
  obtain ⟨n, hn, hnid, hntype, hnparams⟩ := Node.exists_ofValue? hv
  obtain ⟨m, hm, hmid, hmtype, hmparams⟩ :=
    Node.exists_ofValue? (v := w) (by rw [isBlockEntry, hid]; exact hv)
  refine ⟨n, m, hn, hm, ?_, ?_, fun key => ?_⟩
  · exact Option.some.inj (hmid.symm.trans (hid.trans hnid))
  · rw [hmtype, hntype, h.blockType]
  · rw [hmparams, hnparams, h.params]

/-- Entries that agree in the fields of a link are read as links that agree. -/
theorem Value.SameLink.isRepainted (h : v.SameLink w) (hv : v.isLinkEntry = true)
    (hw : w.isLinkEntry = true) :
    ∃ e d, Edge.ofValue? v = some e ∧ Edge.ofValue? w = some d ∧ e.IsRepainted d := by
  obtain ⟨e, he, hes, het, hek, heh⟩ := Edge.exists_ofValue? hv
  obtain ⟨d, hd, hds, hdt, hdk, hdh⟩ := Edge.exists_ofValue? hw
  rw [text?, h.source] at hds
  rw [text?, h.target] at hdt
  refine ⟨e, d, he, hd, Option.some.inj (hds.symm.trans hes), Option.some.inj (hdt.symm.trans het),
    ?_, ?_⟩
  · rw [hdk, hek, h.kind]
  · rw [hdh, heh, text?, h.sourceHandle, text?]

/-- Reading entry by entry keeps a relation, if only valid entries are compared. -/
theorem filterMap_of_forall₂_valid {α : Type} {R : Value → Value → Prop} {S : α → α → Prop}
    {read : Value → Option α} {valid : Value → Bool} (hnone : ∀ v, valid v = false → read v = none)
    (hrel : ∀ v w, valid v = true → valid w = true → R v w →
      ∃ x y, read v = some x ∧ read w = some y ∧ S x y)
    {vs ws : List Value} (h : List.Forall₂ R (vs.filter valid) (ws.filter valid)) :
    List.Forall₂ S (vs.filterMap read) (ws.filterMap read) := by
  have hfilter (us : List Value) : us.filterMap read = (us.filter valid).filterMap read := by
    rw [List.filterMap_filter]
    refine List.filterMap_congr fun v _ => ?_
    split
    case isTrue => rfl
    case isFalse hv => exact hnone v (Bool.eq_false_iff.2 hv)
  have hvalid (us : List Value) : ∀ u ∈ us.filter valid, valid u = true :=
    fun u hu => (List.mem_filter.1 hu).2
  have hboth : List.Forall₂ (fun v w => valid v = true ∧ valid w = true ∧ R v w)
      (vs.filter valid) (ws.filter valid) :=
    (List.forall₂_and_left ..).2 ⟨hvalid vs, ((List.forall₂_and_left ..).2 ⟨hvalid ws, h.flip⟩).flip⟩
  rw [hfilter vs, hfilter ws]
  refine List.rel_filterMap (fun v w hvw => ?_) hboth
  obtain ⟨x, y, hx, hy, hxy⟩ := hrel v w hvw.1 hvw.2.1 hvw.2.2
  rw [hx, hy]
  exact .some hxy

end Entries

/-- States are repainted if they are typed alike and their valid entries agree, in their order, in the
fields on which a program depends. -/
theorem Value.IsRepainted.of_entries {state state' : Value}
    (hversion : (state'.field? "version").any isTypedVersion =
      (state.field? "version").any isTypedVersion)
    (hnodes : List.Forall₂ SameBlock ((entries state "nodes").filter isBlockEntry)
      ((entries state' "nodes").filter isBlockEntry))
    (hedges : List.Forall₂ SameLink ((entries state "edges").filter isLinkEntry)
      ((entries state' "edges").filter isLinkEntry)) : state.IsRepainted state' where
  version := hversion
  nodes := filterMap_of_forall₂_valid (fun _ => Node.ofValue?_of_not_isBlockEntry)
    (fun _ _ hv _ h => h.isTwin hv) hnodes
  edges := filterMap_of_forall₂_valid (fun _ => Edge.ofValue?_of_not_isLinkEntry)
    (fun _ _ hv hw h => h.isRepainted hv hw) hedges

/-- Reading takes repainted states to repainted graphs. -/
theorem Value.IsRepainted.ofValue {state state' : Value} (h : state.IsRepainted state') :
    (Graph.ofValue state).IsRepainted (Graph.ofValue state') where
  version := by rw [Graph.ofValue, h.version, Graph.ofValue]
  nodes := firstsById_of_forall₂ h.nodes []
  edges := h.edges

namespace Graph.IsRepainted

variable {g h : Graph} (hp : g.IsRepainted h)
include hp

/-- A mode takes both graphs as linear, or both as typed. -/
theorem isLegacy_eq (mode : Mode) : mode.isLegacy h = mode.isLegacy g := by
  have htyped : h.hasTypedEdges = g.hasTypedEdges :=
    any_eq_of_forall₂ hp.edges fun _ _ he => by rw [he.namedSlot?_eq]
  cases mode with
  | auto => rw [Mode.isLegacy, hp.version, htyped, Mode.isLegacy]
  | legacy => rfl
  | current => rfl

/-- The normal graphs of repainted graphs are twins. -/
theorem normalize (v v' : Int) : Graph.IsTwin id ({ g with version := v } : Graph).normalize
    ({ h with version := v' } : Graph).normalize where
  nodes := normalNodes_of_forall₂ hp.nodes
  edges := by
    simp only [Graph.normalize, List.forall₂_map_left_iff, List.forall₂_map_right_iff]
    refine hp.edges.imp fun e d he => ⟨he.source, he.target, ?_⟩
    have hed : e.IsTwin id d := ⟨he.source, he.target, he.namedSlot?_eq⟩
    have hslot := hed.slotIn_eq Function.injective_id (normalNodes_of_forall₂ hp.nodes)
    simp only [Edge.namedSlot?, Edge.typeIn, hslot, Option.some_or]

theorem follow?_eq : follow? h.edges = follow? g.edges := by
  funext i
  refine map_eq_of_rel (find?_of_forall₂ hp.edges fun e d he => ?_) fun e d he => he.target
  rw [he.source]

/-- Repainted graphs are upgraded to twins, or the upgrades fail for the same root. -/
theorem migration_cases (v v' : Int) :
    (∃ e, ({ g with version := v } : Graph).migration = .error e ∧
      ({ h with version := v' } : Graph).migration = .error e) ∨
    ∃ u u', ({ g with version := v } : Graph).migration = .ok u ∧
      ({ h with version := v' } : Graph).migration = .ok u' ∧ u.graph.IsTwin id u'.graph := by
  have hn := normalNodes_of_forall₂ hp.nodes
  have hkept : List.Forall₂ (Node.IsTwin id) ((normalNodes g.nodes).filter fun n => !n.isEnd)
      ((normalNodes h.nodes).filter fun n => !n.isEnd) :=
    filter_of_forall₂ hn fun _ _ hr => by rw [hr.isEnd_eq]
  have hroots : rootIds (normalNodes h.nodes) = rootIds (normalNodes g.nodes) :=
    ids_of_forall₂ (filter_of_forall₂ hn fun _ _ hr => hr.isRoot_eq)
  simp only [Graph.migration, chainLinks_of_forall₂ hn hp.follow?_eq, hroots]
  cases chainLinks (normalNodes g.nodes) g.edges (rootIds (normalNodes g.nodes)) with
  | error e => exact Or.inl ⟨e, rfl, rfl⟩
  | ok found =>
      refine Or.inr ⟨_, _, rfl, rfl, hkept, ?_⟩
      exact List.forall₂_same.2 fun e _ => ⟨rfl, rfl, rfl⟩

/-- Repainted graphs are loaded as twins, or are not loaded for the same reason. -/
theorem load_cases (mode : Mode) :
    (∃ e, g.load mode = .error e ∧ h.load mode = .error e) ∨
      ∃ r r', g.load mode = .ok r ∧ h.load mode = .ok r' ∧ r.graph.IsTwin id r'.graph := by
  rw [Graph.load, Graph.load, hp.isLegacy_eq]
  split
  · rcases hp.migration_cases 1 1 with ⟨e, hu, hu'⟩ | ⟨u, u', hu, hu', htwin⟩
    · rw [hu, hu']
      exact Or.inl ⟨_, rfl, rfl⟩
    · rw [hu, hu']
      exact Or.inr ⟨_, _, rfl, rfl, htwin⟩
  · exact Or.inr ⟨_, _, rfl, rfl, hp.normalize 2 2⟩

end Graph.IsRepainted

/-! ### Programs of twins -/

/-- The program without its warnings. -/
def Program.silenced (p : Program) : Program :=
  { p with warnings := [] }

namespace Graph.IsTwin

variable {g h : Graph} (htwin : g.IsTwin id h)
include htwin

/-- Twins under the same ids have the same slots, and the same ones have too many links. -/
theorem slotTable_eq : h.slotTable = g.slotTable := by
  refine foldl_eq_of_forall₂ htwin.edges (fun t e d he => ?_) _
  have hsource : d.source = e.source := he.source
  have htarget : d.target = e.target := he.target
  have hslot := he.slotIn_eq Function.injective_id htwin.nodes
  simp only [SlotTable.add, hsource, htarget, isSome_nodeById?_eq htwin.nodes, hslot]

theorem firstWalk_faults_eq : h.firstWalk.faults = g.firstWalk.faults := by
  have hloop : (h.root? .loop).isNone = (g.root? .loop).isNone := by
    rcases rel_cases (htwin.root? .loop) with ⟨hn, hm⟩ | ⟨n, m, hn, hm, -⟩
    · rw [hn, hm]
    · rw [hn, hm, Option.isNone_some, Option.isNone_some]
  simp only [firstWalk, htwin.slotTable_eq, hloop]

theorem start?_eq (k : Kind) : h.start? k = g.start? k := by
  have htarget (i : String) (s : Slot) :
      h.blueprint.target? i s = g.blueprint.target? i s := by
    simpa using htwin.target? Function.injective_id i s
  rw [start?, start?, Blueprint.start?, Blueprint.start?]
  rcases rel_cases (htwin.root? k) with ⟨hn, hm⟩ | ⟨n, m, hn, hm, hr⟩
  · rw [hn, hm, Option.bind_none, Option.bind_none]
  · have hid : m.id = n.id := hr.id
    simp only [hn, hm, Option.bind_some, hid, htarget]

/-- Twins under the same ids have the same program but for warnings. -/
theorem silenced_build_eq : h.build.silenced = g.build.silenced := by
  obtain ⟨hsetup, hloop, xs, hg, hh⟩ := bodies_of_isTwin_id
    (htwin.blueprint Function.injective_id) (htwin.start?_eq .setup) (htwin.start?_eq .loop)
  have hcode := Graph.code_build_eq hsetup hloop (globalTable_of_forall₂ htwin.nodes)
    (pinTable_of_forall₂ htwin.nodes)
  have hfaults : h.build.faults = g.build.faults := by
    rw [hh, hg, htwin.firstWalk_faults_eq]
  calc h.build.silenced
      = { h.build.code with faults := h.build.faults } := rfl
    _ = { g.build.code with faults := g.build.faults } := by rw [hcode, hfaults]
    _ = g.build.silenced := rfl

end Graph.IsTwin

/-! ### Compiling -/

/-- **Appearance does not influence the sketch.**  Repainted states are compiled to the same sketch and
to the same program but for warnings, and if one of them is not loaded, the other is not for the same
reason. -/
theorem compile_repainted {state state' : Value} (h : state.IsRepainted state') (mode : Mode) :
    (compile state' mode).map (fun c => (c.sketch, c.program.silenced)) =
      (compile state mode).map fun c => (c.sketch, c.program.silenced) := by
  rw [compile, compile, load, load]
  rcases h.ofValue.load_cases mode with ⟨e, hr, hr'⟩ | ⟨r, r', hr, hr', htwin⟩
  · rw [hr, hr']
  · rw [hr, hr']
    have hbuild := htwin.silenced_build_eq
    have hcode : r'.graph.build.code = r.graph.build.code :=
      congrArg (fun p => { p with faults := [] }) hbuild
    have hsketch := Program.sketch_eq_of_code_eq hcode
    exact congrArg Except.ok (Prod.ext hsketch hbuild)

/-- Linear state with a repetition of a pause, and a remark apart. -/
def plain : Value :=
  .object [("nodes", .array [
      .object [("id", .string "loop"), ("data", .object [("blockType", .string "loop")])],
      .object [("id", .string "w"), ("data", .object [("blockType", .string "while_loop"),
        ("params", .object [("condition", .string "ready")])])],
      .object [("id", .string "d"), ("data", .object [("blockType", .string "delay")])],
      .object [("id", .string "c"), ("data", .object [("blockType", .string "comment")])]]),
    ("edges", .array [
      .object [("id", .string "a"), ("source", .string "loop"), ("target", .string "w")],
      .object [("id", .string "b"), ("source", .string "w"), ("target", .string "d")]])]

/-- The same with a label, a place, other ids of links and a handle; an entry of no meaning is there
as well. -/
def painted : Value :=
  .object [("version", .string "old"), ("nodes", .array [
      .object [("id", .string "loop"), ("type", .string "round"),
        ("data", .object [("blockType", .string "loop")])],
      .object [("id", .string "w"), ("position", .object [("x", .int 7)]),
        ("data", .object [("params", .object [("condition", .string "ready")]),
          ("blockType", .string "while_loop")])],
      .object [("id", .string "d"), ("data", .object [("blockType", .string "delay")])],
      .null,
      .object [("id", .string "c"), ("data", .object [("label", .string "Remark"),
        ("blockType", .string "comment")])]]),
    ("edges", .array [
      .object [("id", .string "x"), ("source", .string "loop"), ("target", .string "w")],
      .object [("id", .string "x"), ("source", .string "w"), ("target", .string "d"),
        ("targetHandle", .string "top")]])]

/-- Both states have the same sketch and program; only a warning names the remark by its label. -/
theorem painted_compile : plain.IsRepainted painted ∧
    ∃ c c', compile plain .auto = .ok c ∧ compile painted .auto = .ok c' ∧
      c'.sketch = c.sketch ∧ c'.program.silenced = c.program.silenced ∧
      c'.program.warnings ≠ c.program.warnings := by
  have hpainted : plain.IsRepainted painted := by
    refine Value.IsRepainted.of_entries rfl ?_ ?_
    · exact .cons ⟨rfl, rfl, rfl⟩ (.cons ⟨rfl, rfl, rfl⟩ (.cons ⟨rfl, rfl, rfl⟩
        (.cons ⟨rfl, rfl, rfl⟩ .nil)))
    · exact .cons ⟨rfl, rfl, rfl, rfl⟩ (.cons ⟨rfl, rfl, rfl, rfl⟩ .nil)
  have heq := Except.ok.inj (compile_repainted hpainted .auto)
  refine ⟨hpainted, _, _, rfl, rfl, congrArg Prod.fst heq, congrArg Prod.snd heq, ?_⟩
  decide +kernel

end BlockSketch
