/-
**Storage order.**

A graph is stored as two lists.  The order of the blocks decides which one counts if several make the
same claim: the last of one id, the first root of a kind, the first variable of a name, the last mode
of a pin.  The order of the links decides which one a slot leads along.  A graph is *unambiguous* if no
two of its blocks make the same claim, and *reordered* if its blocks stand in another order and every
slot keeps its links in theirs.

A reordered graph that is unambiguous is walked as before, since every id finds the same block and
every slot leads to the same one.  Its tables are sorted.

A variable block without a name takes the name of the catalog.  So a blank name and that one make the
same claim, although they differ.

Main definitions:

* `BlockSketch.Node.declaredName`, `BlockSketch.Node.declaration` — the name under which a variable block
  counts, and the declaration that it makes;
* `BlockSketch.Graph.IsUnambiguous`, `BlockSketch.Graph.IsReordered` — see above.

Main results:

* `BlockSketch.Graph.IsReordered.blueprint` — a reordered graph has the same blueprint;
* `BlockSketch.Graph.sketch_reordered` — **the order of storage does not influence the sketch**.
-/

import BlockSketch.Proofs.SortedTables
import BlockSketch.Proofs.Twins

set_option relaxedAutoImplicit false
set_option autoImplicit false

namespace BlockSketch

/-! ### Blocks in another order -/

section Blocks

variable {ns ms : List Node}

/-- An id finds the same block. -/
theorem nodeById?_of_perm (hd : (ns.map Node.id).Nodup) (h : ns.Perm ms) :
    nodeById? ms = nodeById? ns := by
  have hd' : (ms.map Node.id).Nodup := (h.map Node.id).nodup_iff.1 hd
  funext id
  cases hn : nodeById? ns id with
  | some n =>
      obtain ⟨hmem, rfl⟩ := nodeById?_eq_some hn
      exact nodeById?_of_mem hd' (h.mem_iff.1 hmem)
  | none =>
      rw [← Option.not_isSome_iff_eq_none, nodeById?_isSome_iff] at hn ⊢
      rwa [← (h.map Node.id).mem_iff]

/-- The first block that passes a test is the same if there is no other. -/
theorem find?_of_perm {p : Node → Bool} (hp : (ns.filter p).length ≤ 1) (h : ns.Perm ms) :
    ms.find? p = ns.find? p := by
  have hperm := h.filter p
  have heq : ms.filter p = ns.filter p := by
    match hns : ns.filter p with
    | [] => exact List.nil_perm.1 (hns ▸ hperm)
    | [n] => exact (List.singleton_perm.1 (hns ▸ hperm)).symm
    | _ :: _ :: _ => simp [hns] at hp
  rw [← List.head?_filter, ← List.head?_filter, heq]

end Blocks

/-! ### Claims of blocks -/

/-- The name under which a variable block counts: its own without outer blanks, or that of the
catalog if nothing is left. -/
def Node.declaredName (n : Node) : String :=
  trimmedOr (Fields.text n.params "name" "value") "value"

/-- The declaration that a variable block makes. -/
def Node.declaration (n : Node) : Declaration where
  name := n.declaredName
  type := trimmedOr (Fields.text n.params "varType" "int") "int"
  value := Fields.expression n.params "value" "0"

theorem declared_eq (nodes : List Node) :
    declared nodes = (nodes.filter fun n => n.hasKind .global).map Node.declaration := by
  have hname : (Catalog.default? .global "name").bind Value.string? = some "value" := by decide
  have htype : (Catalog.default? .global "varType").bind Value.string? = some "int" := by decide
  have hdecl (n : Node) : declarationOf? n.params = some n.declaration := by
    simp only [declarationOf?, trimmedParam?, hname, htype, Option.map_some, Option.bind_eq_bind,
      Option.bind_some, Option.pure_def, Node.declaration, Node.declaredName]
  rw [declared]
  simp only [hdecl]
  exact congrFun List.filterMap_eq_map _

theorem names_declared (nodes : List Node) : (declared nodes).map Declaration.name =
    (nodes.filter fun n => n.hasKind .global).map Node.declaredName := by
  rw [declared_eq, List.map_map]
  rfl

namespace Graph

/-- No two blocks make the same claim. -/
structure IsUnambiguous (g : Graph) : Prop where
  ids : (g.nodes.map Node.id).Nodup
  roots : ∀ k : Kind, k.isRoot = true → (g.nodes.filter fun n => n.hasKind k).length ≤ 1
  names : ((g.nodes.filter fun n => n.hasKind .global).map Node.declaredName).Nodup
  pins : ((pinned g.nodes).map Prod.fst).Nodup

/-- The graph in another order.  The blocks are the same, and so are the links of every slot, as far as
both of their ends are there, in their order. -/
structure IsReordered (g h : Graph) : Prop where
  nodes : g.nodes.Perm h.nodes
  edges : ∀ source slot, h.edges.filter (Edge.fills h.nodes source slot) =
    g.edges.filter (Edge.fills g.nodes source slot)

namespace IsReordered

variable {g h : Graph} (hr : g.IsReordered h) (hg : g.IsUnambiguous)
include hr

theorem target?_eq (source : String) (slot : Slot) :
    h.blueprint.target? source slot = g.blueprint.target? source slot := by
  change h.slotTable.target? source slot = g.slotTable.target? source slot
  rw [slotTable_target?, slotTable_target?, ← List.head?_filter, ← List.head?_filter, hr.edges]

include hg

/-- A reordered graph has the same blueprint. -/
theorem blueprint : g.blueprint.IsTwin id h.blueprint where
  block i n hn := by
    refine ⟨n, ?_, rfl, rfl, fun _ => rfl⟩
    rw [← hn]
    exact congrFun (nodeById?_of_perm hg.ids hr.nodes) i
  target i k := by
    rw [Option.map_id_apply]
    exact hr.target?_eq i k

theorem start?_eq (k : Kind) (hk : k.isRoot = true) : h.start? k = g.start? k := by
  have hroot : h.root? k = g.root? k := find?_of_perm (hg.roots k hk) hr.nodes
  simp only [start?, Blueprint.start?, hroot, hr.target?_eq]

theorem code_eq : h.build.code = g.build.code := by
  obtain ⟨hsetup, hloop, -⟩ := bodies_of_isTwin_id (hr.blueprint hg)
    (hr.start?_eq hg .setup rfl) (hr.start?_eq hg .loop rfl)
  exact code_build_eq hsetup hloop
    (globalTable_of_perm hr.nodes (names_declared g.nodes ▸ hg.names))
    (pinTable_of_perm hr.nodes hg.pins)

end IsReordered

/-- **The order of storage does not influence the sketch** of an unambiguous graph. -/
theorem sketch_reordered {g h : Graph} (hg : g.IsUnambiguous) (hr : g.IsReordered h) :
    ∃ s, g.build.sketch? = .ok s ∧ h.build.sketch? = .ok s :=
  exists_sketch_of_code_eq (hr.code_eq hg)

/-- A graph whose blocks share no claim.  The loop has two links by one slot. -/
def shelf : Graph where
  nodes := [Node.create .setup "s" .null .null, Node.create .loop "l" .null .null,
    Node.create .global "b" .null .null none [("name", .string " b ")],
    Node.create .global "a" .null .null none [("name", .string " ")],
    Node.create .pinMode "p" .null .null none [("pin", .int 9)],
    Node.create .pinMode "q" .null .null none [("pin", .int 3)],
    Node.create .digitalWrite "w" .null .null, Node.create .delay "d" .null .null]
  edges := [Edge.typed "l" "w" .body, Edge.typed "l" "d" .body, Edge.typed "w" "d" .next]

/-- The same with the blocks backwards and the links in another order, among them one that leads
nowhere. -/
def shuffled : Graph where
  nodes := shelf.nodes.reverse
  edges := [Edge.typed "w" "d" .next, Edge.typed "l" "w" .body, Edge.typed "l" "x" .body,
    Edge.typed "l" "d" .body]

theorem shuffled_sketch : shelf.IsUnambiguous ∧ shelf.IsReordered shuffled ∧
    ∃ s, shelf.build.sketch? = .ok s ∧ shuffled.build.sketch? = .ok s := by
  have hshelf : shelf.IsUnambiguous := by
    refine ⟨by decide +kernel, fun k hk => ?_, by decide +kernel, by decide +kernel⟩
    cases k with
    | setup => decide +kernel
    | loop => decide +kernel
    | _ => exact absurd hk (by decide)
  have hshuffled : shelf.IsReordered shuffled := by
    refine ⟨shelf.nodes.reverse_perm.symm, fun source slot => ?_⟩
    by_cases hl : source = "l"
    · subst hl
      cases slot <;> rfl
    by_cases hw : source = "w"
    · subst hw
      cases slot <;> rfl
    · simp [shelf, shuffled, Edge.fills, Edge.typed, Ne.symm hl, Ne.symm hw]
  exact ⟨hshelf, hshuffled, sketch_reordered hshelf hshuffled⟩

/-- Two variable blocks, one without a name and one with the name of the catalog. -/
def rivals : Graph where
  nodes := [Node.create .setup "s" .null .null, Node.create .loop "l" .null .null,
    Node.create .global "a" .null .null none [("name", .string ""), ("value", .string "1")],
    Node.create .global "b" .null .null none [("name", .string "value"), ("value", .string "2")]]

/-- Their names differ, with and without outer blanks, but both declare the same variable, and the first
of them counts. -/
theorem rivals_reversed : (rivals.nodes.map Node.id).Nodup ∧
    (rivals.nodes.filter fun n => n.hasKind .setup).length = 1 ∧
    (rivals.nodes.filter fun n => n.hasKind .loop).length = 1 ∧
    ((rivals.nodes.filter fun n => n.hasKind .global).map fun n =>
      Text.trim (Fields.text n.params "name" "value")).Nodup ∧
    ((pinned rivals.nodes).map Prod.fst).Nodup ∧
    rivals.IsReordered { rivals with nodes := rivals.nodes.reverse } ∧
    ¬∃ s, rivals.build.sketch? = .ok s ∧
      ({ rivals with nodes := rivals.nodes.reverse } : Graph).build.sketch? = .ok s := by
  refine ⟨by decide +kernel, by decide +kernel, by decide +kernel, by decide +kernel,
    by decide +kernel, ⟨rivals.nodes.reverse_perm.symm, fun _ _ => by simp [rivals]⟩, fun hs => ?_⟩
  exact absurd (exists_sketch_iff.1 hs) (by decide +kernel)

end Graph

end BlockSketch
