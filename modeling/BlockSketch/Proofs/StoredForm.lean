/-
**Stored graphs are read back.**

Writing a graph leaves out what is missing: a tag, a label, a handle or a slot that is not there, and
parameters if there are none.  Reading takes each of these as missing again.  What a block or link
carries for the editor stands between the fields that the library reads itself, so it must not have
their names; then it is neither mistaken for one of them nor dropped with them.

So every graph of version 1 or 2 whose ids are distinct is read back as it was, and what is read from
editor state is always such a graph.  A loaded graph is normal and of version 2, so that loading its
stored form finds nothing to upgrade and nothing to add.

Main definitions:

* `BlockSketch.Fields.Avoids` — fields with none of the given names;
* `BlockSketch.Graph.IsStorable` — a graph whose stored form can be read back.

Main results:

* `BlockSketch.Node.ofValue?_toValue`, `BlockSketch.Edge.ofValue?_toValue` — blocks and links are read
  back;
* `BlockSketch.Graph.IsStorable.ofValue_toValue`, `BlockSketch.Graph.isStorable_ofValue` — so are
  graphs, and reading gives nothing else;
* `BlockSketch.Graph.stored_form_reads_back` — **stored graphs are read back**, and loaded ones are
  loaded again as they are.
-/

import BlockSketch.Proofs.NormalForm

set_option relaxedAutoImplicit false
set_option autoImplicit false

namespace BlockSketch

/-! ### Fields -/

namespace Fields

variable {fs gs extra : Fields} {names : List String} {key : String}

theorem get?_nil : get? [] key = none := rfl

theorem get?_cons (f : String × Value) :
    get? (f :: fs) key = if key = f.1 then some f.2 else get? fs key := by
  obtain ⟨name, v⟩ := f
  by_cases h : key = name
  · simp [get?, h]
  · have hne : (key == name) = false := by simpa using h
    simp [get?, List.lookup_cons, hne, h]

theorem get?_append : get? (fs ++ gs) key = (get? fs key).or (get? gs key) :=
  List.lookup_append

theorem get?_optionalField (name : String) (v : Option Value) :
    get? (optionalField name v) key = if key = name then v else none := by
  cases v with
  | none => exact (ite_self _).symm
  | some x => exact get?_cons (name, x)

/-- None of the fields has one of the given names. -/
def Avoids (fs : Fields) (names : List String) : Prop :=
  ∀ f ∈ fs, f.1 ∉ names

instance : Decidable (fs.Avoids names) :=
  inferInstanceAs (Decidable (∀ f ∈ fs, f.1 ∉ names))

theorem avoids_without (fs : Fields) (names : List String) : (without fs names).Avoids names := by
  intro f hf
  simpa using (List.mem_filter.1 hf).2

namespace Avoids

/-- A name that is avoided is not found. -/
theorem get?_eq_none (h : fs.Avoids names) (hk : key ∈ names) : get? fs key = none := by
  induction fs with
  | nil => rfl
  | cons f fs ih =>
      obtain ⟨hf, hfs⟩ := List.forall_mem_cons.1 h
      have hne : key ≠ f.1 := fun heq => hf (heq ▸ hk)
      rw [get?_cons, if_neg hne, ih hfs]

/-- Fields that avoid a name do not hide it from those after them. -/
theorem get?_between (h : extra.Avoids names) (hk : key ∈ names) :
    get? (fs ++ extra ++ gs) key = (get? fs key).or (get? gs key) := by
  rw [get?_append, get?_append, h.get?_eq_none hk, Option.or_none]

/-- Of fields that avoid the names between others that have them, the former are left. -/
theorem without_between (h : extra.Avoids names) (hfs : ∀ f ∈ fs, f.1 ∈ names)
    (hgs : ∀ f ∈ gs, f.1 ∈ names) : without (fs ++ extra ++ gs) names = extra := by
  have hdropped {hs : Fields} (hhs : ∀ f ∈ hs, f.1 ∈ names) :
      hs.filter (fun f => !names.contains f.1) = [] :=
    List.filter_eq_nil_iff.2 fun f hf => by simpa using hhs f hf
  have hkept : extra.filter (fun f => !names.contains f.1) = extra :=
    List.filter_eq_self.2 fun f hf => by simpa using h f hf
  rw [without, List.filter_append, List.filter_append, hdropped hfs, hdropped hgs, hkept,
    List.nil_append, List.append_nil]

end Avoids

end Fields

theorem mem_optionalField {name : String} {v : Option Value} {f : String × Value}
    (h : f ∈ optionalField name v) : f.1 = name := by
  obtain ⟨x, -, rfl⟩ := List.mem_map.1 h
  rfl

section Values

variable {fs : Fields} {key : String}

theorem Value.field?_object : (Value.object fs).field? key = Fields.get? fs key := rfl

theorem Value.text?_object :
    (Value.object fs).text? key = (Fields.get? fs key).bind Value.string? := rfl

/-- A text that is stored is the text that is read. -/
theorem Value.bind_string?_map (s : Option String) :
    (s.map Value.string).bind Value.string? = s := by
  cases s <;> rfl

end Values

/-! ### Blocks -/

namespace Node

/-- What a block carries for the editor does not have the names of its own fields. -/
def IsStorable (n : Node) : Prop :=
  n.extra.Avoids ownFields

instance (n : Node) : Decidable n.IsStorable :=
  inferInstanceAs (Decidable (n.extra.Avoids ownFields))

/-- The fields that are stored in front of what a block carries for the editor. -/
def headFields (n : Node) : Fields :=
  ("id", .string n.id) :: optionalText "type" n.renderType

/-- The fields that are stored as the data of a block. -/
def dataFields (n : Node) : Fields :=
  optionalText "blockType" n.blockType ++ optionalText "label" n.label ++
    optionalField "params" (if n.params.isEmpty then none else some (.object n.params))

theorem toValue_eq (n : Node) :
    n.toValue = .object (n.headFields ++ n.extra ++ [("data", .object n.dataFields)]) := rfl

/-- Parameters that are left out are read as none. -/
theorem params_dataFields (n : Node) :
    ((Fields.get? n.dataFields "params").bind Value.object?).getD [] = n.params := by
  have hget : Fields.get? n.dataFields "params" =
      if n.params.isEmpty then none else some (.object n.params) := by
    simp [dataFields, optionalText, Fields.get?_append, Fields.get?_optionalField]
  rw [hget]
  cases hp : n.params <;> rfl

/-- A block is read back. -/
theorem ofValue?_toValue {n : Node} (h : n.IsStorable) : ofValue? n.toValue = some n := by
  have hget {key : String} (hk : key ∈ ownFields) :
      Fields.get? (n.headFields ++ n.extra ++ [("data", .object n.dataFields)]) key =
        (Fields.get? n.headFields key).or (Fields.get? [("data", .object n.dataFields)] key) :=
    h.get?_between hk
  have hextra : Fields.without (n.headFields ++ n.extra ++ [("data", .object n.dataFields)])
      ownFields = n.extra := by
    refine h.without_between ?_ (by simp [ownFields])
    intro f hf
    rcases List.mem_cons.1 hf with rfl | hf
    · simp [ownFields]
    · simp [ownFields, mem_optionalField hf]
  have hid : n.toValue.text? "id" = some n.id := by
    rw [toValue_eq, Value.text?_object, hget (by simp [ownFields])]
    simp [headFields, Fields.get?_cons, Value.string?]
  have htype : n.toValue.text? "type" = n.renderType := by
    rw [toValue_eq, Value.text?_object, hget (by simp [ownFields])]
    simp [headFields, optionalText, Fields.get?_cons, Fields.get?_optionalField, Fields.get?_nil,
      Value.bind_string?_map]
  have hdata : Fields.get? (n.headFields ++ n.extra ++ [("data", .object n.dataFields)]) "data" =
      some (.object n.dataFields) := by
    rw [hget (by simp [ownFields])]
    simp [headFields, optionalText, Fields.get?_cons, Fields.get?_optionalField]
  have htag : (Value.object n.dataFields).text? "blockType" = n.blockType := by
    simp [Value.text?_object, dataFields, optionalText, Fields.get?_append,
      Fields.get?_optionalField, Value.bind_string?_map]
  have hlabel : (Value.object n.dataFields).text? "label" = n.label := by
    simp [Value.text?_object, dataFields, optionalText, Fields.get?_append,
      Fields.get?_optionalField, Value.bind_string?_map]
  rw [ofValue?, hid, htype, toValue_eq]
  simp only [Value.object?, Option.bind_eq_bind, Option.bind_some, hdata, Option.getD_some, htag,
    hlabel, Value.field?_object, params_dataFields, hextra, Option.pure_def]

end Node

/-! ### Links -/

namespace Edge

/-- What a link carries for the editor does not have the names of its own fields. -/
def IsStorable (e : Edge) : Prop :=
  e.extra.Avoids ownFields

instance (e : Edge) : Decidable e.IsStorable :=
  inferInstanceAs (Decidable (e.extra.Avoids ownFields))

/-- The fields that are stored in front of what a link carries for the editor. -/
def headFields (e : Edge) : Fields :=
  [("id", .string e.id), ("source", .string e.source), ("target", .string e.target)] ++
    optionalText "sourceHandle" e.sourceHandle ++ optionalText "targetHandle" e.targetHandle

/-- The field after it, if the link has a slot. -/
def slotFields (e : Edge) : Fields :=
  optionalField "data" (e.slot.map fun k => .object [("kind", .string k.tag)])

theorem toValue_eq (e : Edge) : e.toValue = .object (e.headFields ++ e.extra ++ e.slotFields) := rfl

/-- The stored slot is the one that is read. -/
theorem slot_slotFields (e : Edge) :
    (((Fields.get? e.slotFields "data").getD .null).text? "kind").bind Slot.ofTag? = e.slot := by
  rw [slotFields, Fields.get?_optionalField, if_pos rfl]
  cases e.slot with
  | none => rfl
  | some k => exact Slot.ofTag?_tag k

/-- A link is read back. -/
theorem ofValue?_toValue {e : Edge} (h : e.IsStorable) : ofValue? e.toValue = some e := by
  have hget {key : String} (hk : key ∈ ownFields) :
      Fields.get? (e.headFields ++ e.extra ++ e.slotFields) key =
        (Fields.get? e.headFields key).or (Fields.get? e.slotFields key) :=
    h.get?_between hk
  have hextra : Fields.without (e.headFields ++ e.extra ++ e.slotFields) ownFields = e.extra := by
    refine h.without_between ?_ ?_
    · intro f hf
      simp only [headFields, optionalText, List.mem_append, List.mem_cons, List.not_mem_nil,
        or_false] at hf
      rcases hf with ((rfl | rfl | rfl) | hf) | hf
      · simp [ownFields]
      · simp [ownFields]
      · simp [ownFields]
      · simp [ownFields, mem_optionalField hf]
      · simp [ownFields, mem_optionalField hf]
    · intro f hf
      simp [ownFields, mem_optionalField hf]
  -- the fields in front, one by one
  have hends : e.toValue.text? "id" = some e.id ∧ e.toValue.text? "source" = some e.source ∧
      e.toValue.text? "target" = some e.target := by
    rw [toValue_eq, Value.text?_object, Value.text?_object, Value.text?_object,
      hget (by simp [ownFields]), hget (by simp [ownFields]), hget (by simp [ownFields])]
    simp [headFields, Fields.get?_cons, Value.string?]
  have hhandles : e.toValue.text? "sourceHandle" = e.sourceHandle ∧
      e.toValue.text? "targetHandle" = e.targetHandle := by
    rw [toValue_eq, Value.text?_object, Value.text?_object, hget (by simp [ownFields]),
      hget (by simp [ownFields])]
    simp [headFields, slotFields, optionalText, Fields.get?_append, Fields.get?_cons,
      Fields.get?_optionalField, Value.bind_string?_map]
  have hdata : Fields.get? (e.headFields ++ e.extra ++ e.slotFields) "data" =
      Fields.get? e.slotFields "data" := by
    rw [hget (by simp [ownFields])]
    simp [headFields, optionalText, Fields.get?_append, Fields.get?_cons,
      Fields.get?_optionalField]
  rw [ofValue?, hends.1, hends.2.1, hends.2.2, hhandles.1, hhandles.2, toValue_eq]
  simp only [Value.object?, Option.bind_eq_bind, Option.bind_some, hdata, slot_slotFields, hextra,
    Option.pure_def]

end Edge

/-! ### Graphs -/

/-- Blocks with distinct ids are all kept. -/
theorem firstsById_eq_self {seen : List String} {ns : List Node} (hd : (ns.map Node.id).Nodup)
    (hseen : ∀ n ∈ ns, n.id ∉ seen) : firstsById seen ns = ns := by
  induction ns generalizing seen with
  | nil => rfl
  | cons n ns ih =>
      rw [List.map_cons, List.nodup_cons] at hd
      rw [List.forall_mem_cons] at hseen
      rw [firstsById, if_neg hseen.1, ih hd.2]
      intro m hm hmem
      rcases List.mem_cons.1 hmem with hid | hmem
      · exact hd.1 (hid ▸ List.mem_map_of_mem hm)
      · exact hseen.2 m hm hmem

theorem mem_of_mem_firstsById {seen : List String} {ns : List Node} {n : Node}
    (h : n ∈ firstsById seen ns) : n ∈ ns := by
  induction ns generalizing seen with
  | nil => exact h
  | cons m ns ih =>
      rw [firstsById] at h
      split at h
      · exact List.mem_cons_of_mem m (ih h)
      · rcases List.mem_cons.1 h with rfl | h
        · exact List.mem_cons_self
        · exact List.mem_cons_of_mem m (ih h)

/-- Entries that are read back one by one are read back as a list. -/
theorem filterMap_map_eq_self {α : Type} {write : α → Value} {read? : Value → Option α}
    {xs : List α} (h : ∀ x ∈ xs, read? (write x) = some x) :
    (xs.map write).filterMap read? = xs := by
  induction xs with
  | nil => rfl
  | cons x xs ih =>
      rw [List.forall_mem_cons] at h
      rw [List.map_cons, List.filterMap_cons_some h.1, ih h.2]

namespace Graph

/-- A graph whose stored form can be read back. -/
structure IsStorable (g : Graph) : Prop where
  version : g.version = 1 ∨ g.version = 2
  nodup : (g.nodes.map Node.id).Nodup
  nodes : ∀ n ∈ g.nodes, n.IsStorable
  edges : ∀ e ∈ g.edges, e.IsStorable

variable {g : Graph}

/-- The stored version is the one that is read. -/
theorem IsStorable.version_eq (h : g.IsStorable) :
    (if isTypedVersion (.int g.version) then 2 else 1) = g.version := by
  rcases h.version with hv | hv <;> rw [hv] <;> rfl

/-- A graph is read back. -/
theorem IsStorable.ofValue_toValue (h : g.IsStorable) : ofValue g.toValue = g := by
  have hnodes : firstsById [] ((g.nodes.map Node.toValue).filterMap Node.ofValue?) = g.nodes := by
    rw [filterMap_map_eq_self fun n hn => Node.ofValue?_toValue (h.nodes n hn),
      firstsById_eq_self h.nodup (by simp)]
  have hedges : (g.edges.map Edge.toValue).filterMap Edge.ofValue? = g.edges :=
    filterMap_map_eq_self fun e he => Edge.ofValue?_toValue (h.edges e he)
  have hentries : entries g.toValue "nodes" = g.nodes.map Node.toValue ∧
      entries g.toValue "edges" = g.edges.map Edge.toValue := ⟨rfl, rfl⟩
  have hversion : (g.toValue.field? "version").any isTypedVersion = isTypedVersion (.int g.version) :=
    rfl
  rw [ofValue, hversion, h.version_eq, hentries.1, hnodes, hentries.2, hedges]

/-- What is read from editor state can be stored. -/
theorem isStorable_ofValue (state : Value) : (ofValue state).IsStorable where
  version := by
    unfold ofValue
    dsimp only
    split
    · exact Or.inr rfl
    · exact Or.inl rfl
  nodup := nodup_ofValue state
  nodes n hn := by
    obtain ⟨v, -, hv⟩ := List.mem_filterMap.1 (mem_of_mem_firstsById hn)
    simp only [Node.ofValue?, Option.bind_eq_bind, Option.bind_eq_some_iff, Option.pure_def,
      Option.some.injEq] at hv
    obtain ⟨fs, -, id, -, rfl⟩ := hv
    exact Fields.avoids_without fs Node.ownFields
  edges e he := by
    obtain ⟨v, -, hv⟩ := List.mem_filterMap.1 he
    simp only [Edge.ofValue?, Option.bind_eq_bind, Option.bind_eq_some_iff, Option.pure_def,
      Option.some.injEq] at hv
    obtain ⟨fs, -, id, -, source, -, target, -, rfl⟩ := hv
    exact Fields.avoids_without fs Edge.ownFields

end Graph

/-! ### Loaded graphs -/

theorem Node.IsStorable.drawn {n : Node} (h : n.IsStorable) : n.drawn.IsStorable := by
  unfold Node.drawn
  split <;> exact h

/-- The blocks of a normal graph can be stored if those of the graph can: new roots carry nothing but
their place. -/
theorem isStorable_of_mem_normalNodes {nodes : List Node} (h : ∀ n ∈ nodes, n.IsStorable) {n : Node}
    (hn : n ∈ normalNodes nodes) : n.IsStorable := by
  rw [normalNodes_eq, List.mem_append] at hn
  rcases hn with hn | hn
  · obtain ⟨m, hm, rfl⟩ := List.mem_map.1 hn
    exact Node.IsStorable.drawn (h m hm)
  · obtain ⟨k, -, -, rfl⟩ := mem_newRoots.1 hn
    change Fields.Avoids (Node.position (.int 60) (.int (rootY k))) Node.ownFields
    simp [Fields.Avoids, Node.position, Node.ownFields]

namespace Graph

variable {g : Graph}

/-- A loaded graph can be stored if its ids are distinct. -/
theorem isStorable_load (hg : g.IsStorable) {mode : Mode} {r : Loaded} (h : g.load mode = .ok r)
    (hd : (r.graph.nodes.map Node.id).Nodup) : r.graph.IsStorable where
  version := Or.inr (isNormal_load h).2
  nodup := hd
  nodes n hn := by
    rw [load_nodes h] at hn
    exact isStorable_of_mem_normalNodes hg.nodes (List.mem_filter.1 hn).1
  edges e he := by
    rcases load_cases h with ⟨-, u, hu, hr⟩ | ⟨-, hr⟩
    · obtain ⟨found, -, hgraph⟩ := exists_of_migration hu
      rw [hr, hgraph] at he
      obtain ⟨l, -, rfl⟩ := mem_collectLinks.1 he
      exact List.forall_mem_nil _
    · rw [hr] at he
      obtain ⟨f, hf, rfl⟩ := List.mem_map.1 he
      exact hg.edges f hf

/-- A normal graph of version 2 is loaded as it is. -/
theorem IsNormal.load_eq (h : g.IsNormal) (hv : g.version = 2) {mode : Mode}
    (hm : mode = .auto ∨ mode = .current) : g.load mode = .ok ⟨g, g, none⟩ := by
  have hlegacy : mode.isLegacy g = false := by
    rcases hm with rfl | rfl
    · simp [Mode.isLegacy, hv]
    · rfl
  have hgraph : ({ g with version := 2 } : Graph) = g := by
    rw [← hv]
  rw [load, hlegacy, if_neg (by simp), hgraph, h.normalize_eq]

/-- **Stored graphs are read back.**  What is read from editor state is stored and read again as it is,
and so is any graph of version 1 or 2 with distinct ids that carries none of the library's own fields
for the editor.  A loaded graph with distinct ids is loaded again as it is. -/
theorem stored_form_reads_back (state : Value) (g : Graph) (mode : Mode) :
    ofValue (ofValue state).toValue = ofValue state ∧
      (g.IsStorable → ofValue g.toValue = g) ∧
      ∀ r, BlockSketch.load state mode = .ok r → (r.graph.nodes.map Node.id).Nodup →
        ∀ again, again = .auto ∨ again = .current →
          ∃ r', BlockSketch.load r.graph.toValue again = .ok r' ∧ r'.graph = r.graph := by
  refine ⟨(isStorable_ofValue state).ofValue_toValue, fun hg => hg.ofValue_toValue, ?_⟩
  intro r hr hd again hagain
  obtain ⟨hnormal, hv⟩ := isNormal_load hr
  have hread := (isStorable_load (isStorable_ofValue state) hr hd).ofValue_toValue
  refine ⟨⟨r.graph, r.graph, none⟩, ?_, rfl⟩
  rw [BlockSketch.load, hread]
  exact hnormal.load_eq hv hagain

/-- A linear graph with an unknown block, a block without a tag, and a link that leads nowhere. -/
def decorated : Graph where
  version := 1
  nodes := [
    ⟨"a", some "teleport", none, [("speed", .float .nan), ("to", .array [.null, .int 3])], none,
      [("position", .object [("x", .int 3)])]⟩,
    ⟨"", none, some "", [], some "note", []⟩]
  edges := [⟨"e", "a", "gone", none, some "", none, [("animated", .bool true)]⟩]

/-- The graph is read back, and what is loaded from it is loaded again. -/
theorem decorated_reads_back : decorated.IsStorable ∧ ofValue decorated.toValue = decorated ∧
    ∃ r, BlockSketch.load decorated.toValue .legacy = .ok r ∧
      r.graph.nodes.map Node.id = ["a", "", "setup", "loop"] ∧
      ∃ r', BlockSketch.load r.graph.toValue .auto = .ok r' ∧ r'.graph = r.graph := by
  have hs : decorated.IsStorable := ⟨Or.inl rfl, by decide, by decide, by decide⟩
  obtain ⟨-, hread, hload⟩ := stored_form_reads_back decorated.toValue decorated .legacy
  exact ⟨hs, hread hs, _, rfl, rfl, hload _ rfl (by decide) .auto (Or.inl rfl)⟩

end Graph

end BlockSketch
