/-
**Twin graphs.**

Two graphs are twins under a renaming of ids if their blocks are twins one by one, in the order in which
they are stored, and their links have the same ends under the new ids and name the same slots.  Then
their blueprints are twins: a block is found where its twin is found, and the first link of a slot is
the twin of the first link of the slot.  Declarations do not speak of ids at all, so that twin graphs
have the same ones.

Where the chains of the roots start is left open here.  An empty id counts as no body, so that it
depends on the ids themselves.

Main definitions:

* `BlockSketch.Edge.IsTwin`, `BlockSketch.Graph.IsTwin` — twin links and twin graphs.

Main results:

* `BlockSketch.Graph.IsTwin.blueprint` — **the blueprints of twin graphs are twins**;
* `BlockSketch.Graph.IsTwin.code_build_eq` — twin graphs whose chains start at the same blocks have
  programs with the same code.
-/

import BlockSketch.Proofs.Twins
import Mathlib.Data.List.Forall2

set_option relaxedAutoImplicit false
set_option autoImplicit false

namespace BlockSketch

/-! ### Lists of twins -/

section Lists

variable {α β γ : Type} {R : α → β → Prop} {xs : List α} {ys : List β}

/-- What is the same for related items is the same for related lists. -/
theorem map_eq_of_forall₂ (h : List.Forall₂ R xs ys) {p : α → γ} {q : β → γ}
    (hpq : ∀ x y, R x y → q y = p x) : ys.map q = xs.map p := by
  induction h with
  | nil => rfl
  | cons hr _ ih => rw [List.map_cons, List.map_cons, hpq _ _ hr, ih]

theorem filterMap_eq_of_forall₂ (h : List.Forall₂ R xs ys) {p : α → Option γ} {q : β → Option γ}
    (hpq : ∀ x y, R x y → q y = p x) : ys.filterMap q = xs.filterMap p := by
  have hmap := map_eq_of_forall₂ h hpq
  simpa [List.filterMap_map] using congrArg (List.filterMap id) hmap

theorem any_eq_of_forall₂ (h : List.Forall₂ R xs ys) {p : α → Bool} {q : β → Bool}
    (hpq : ∀ x y, R x y → q y = p x) : ys.any q = xs.any p := by
  have hmap := map_eq_of_forall₂ h hpq
  simpa [List.any_map] using congrArg (List.any · id) hmap

theorem foldl_eq_of_forall₂ (h : List.Forall₂ R xs ys) {p : γ → α → γ} {q : γ → β → γ}
    (hpq : ∀ t x y, R x y → q t y = p t x) (t : γ) : ys.foldl q t = xs.foldl p t := by
  induction h generalizing t with
  | nil => rfl
  | cons hr _ ih => rw [List.foldl_cons, List.foldl_cons, hpq _ _ _ hr, ih]

/-- Related tests keep related items. -/
theorem filter_of_forall₂ (h : List.Forall₂ R xs ys) {p : α → Bool} {q : β → Bool}
    (hpq : ∀ x y, R x y → q y = p x) : List.Forall₂ R (xs.filter p) (ys.filter q) :=
  List.rel_filter (fun x y hr => by simp [hpq x y hr]) h

/-- The first items of related lists that pass related tests are related. -/
theorem find?_of_forall₂ (h : List.Forall₂ R xs ys) {p : α → Bool} {q : β → Bool}
    (hpq : ∀ x y, R x y → q y = p x) : Option.Rel R (xs.find? p) (ys.find? q) := by
  induction h with
  | nil => exact .none
  | @cons x y _ _ hr _ ih =>
      rw [List.find?_cons, List.find?_cons, hpq x y hr]
      cases p x with
      | true => exact .some hr
      | false => exact ih

end Lists

/-- Of related options both have a value or none has. -/
theorem rel_cases {α β : Type} {R : α → β → Prop} {x : Option α} {y : Option β}
    (h : Option.Rel R x y) : (x = none ∧ y = none) ∨ ∃ a b, x = some a ∧ y = some b ∧ R a b := by
  cases h with
  | none => exact .inl ⟨rfl, rfl⟩
  | some hr => exact .inr ⟨_, _, rfl, rfl, hr⟩

/-- What is the same for related values is the same for related options. -/
theorem map_eq_of_rel {α β γ : Type} {R : α → β → Prop} {x : Option α} {y : Option β}
    (h : Option.Rel R x y) {p : α → γ} {q : β → γ} (hpq : ∀ a b, R a b → q b = p a) :
    y.map q = x.map p := by
  cases h with
  | none => rfl
  | some hr => rw [Option.map_some, Option.map_some, hpq _ _ hr]

/-- What is the same for related values is asked of related options with the same answer. -/
theorem any_eq_of_rel {α β : Type} {R : α → β → Prop} {x : Option α} {y : Option β}
    (h : Option.Rel R x y) {p : α → Bool} {q : β → Bool} (hpq : ∀ a b, R a b → q b = p a) :
    y.any q = x.any p := by
  cases h with
  | none => rfl
  | some hr => rw [Option.any_some, Option.any_some, hpq _ _ hr]

section Blocks

variable {f : String → String} (hf : Function.Injective f) {ns ms : List Node}

include hf in
/-- A block is found where its twin is found. -/
theorem nodeById?_of_forall₂ (h : List.Forall₂ (Node.IsTwin f) ns ms) (id : String) :
    Option.Rel (Node.IsTwin f) (nodeById? ns id) (nodeById? ms (f id)) := by
  induction h with
  | nil => exact .none
  | @cons n m ns ms htwin _ ih =>
      rw [nodeById?_cons, nodeById?_cons, htwin.id]
      rcases rel_cases ih with ⟨hnone, hnone'⟩ | ⟨a, b, ha, hb, hr⟩
      · rw [hnone, hnone', Option.none_or, Option.none_or]
        by_cases hid : n.id = id
        · rw [if_pos hid, if_pos (congrArg f hid)]
          exact .some htwin
        · rw [if_neg hid, if_neg (mt (@hf _ _) hid)]
          exact .none
      · rw [ha, hb, Option.some_or, Option.some_or]
        exact .some hr

variable (h : List.Forall₂ (Node.IsTwin f) ns ms)
include h

/-- Twin blocks declare the same variables. -/
theorem explicitGlobals_of_forall₂ : explicitGlobals ms = explicitGlobals ns := by
  rw [explicitGlobals, explicitGlobals, List.filterMap_filter, List.filterMap_filter]
  congr 1
  refine filterMap_eq_of_forall₂ h fun n m htwin => ?_
  rw [htwin.hasKind_eq, declarationOf?_congr htwin.get?_eq]

/-- Twin blocks set the same modes. -/
theorem explicitPinModes_of_forall₂ : explicitPinModes ms = explicitPinModes ns := by
  rw [explicitPinModes, explicitPinModes, List.filterMap_filter, List.filterMap_filter]
  congr 1
  refine filterMap_eq_of_forall₂ h fun n m htwin => ?_
  rw [htwin.hasKind_eq, pinModeOf?_congr htwin.get?_eq]

theorem globalTable_of_forall₂ : globalTable ms = globalTable ns := by
  funext as
  simp only [globalTable, allGlobals, explicitGlobals_of_forall₂ h]

theorem pinTable_of_forall₂ : pinTable ms = pinTable ns := by
  funext as
  simp only [pinTable, pinUse, explicitPinModes_of_forall₂ h]

end Blocks

/-! ### Twin links -/

/-- Two links that have corresponding ends and name the same slot, if any. -/
structure Edge.IsTwin (f : String → String) (e d : Edge) : Prop where
  source : d.source = f e.source
  target : d.target = f e.target
  namedSlot? : d.namedSlot? = e.namedSlot?

/-- Two graphs whose blocks and links are twins, one by one. -/
structure Graph.IsTwin (f : String → String) (g h : Graph) : Prop where
  nodes : List.Forall₂ (Node.IsTwin f) g.nodes h.nodes
  edges : List.Forall₂ (Edge.IsTwin f) g.edges h.edges

section Links

variable {f : String → String} (hf : Function.Injective f) {ns ms : List Node} {e d : Edge}
  (h : List.Forall₂ (Node.IsTwin f) ns ms) (he : e.IsTwin f d)
include hf h

theorem isSome_nodeById?_of_forall₂ (id : String) :
    (nodeById? ms (f id)).isSome = (nodeById? ns id).isSome := by
  rcases rel_cases (nodeById?_of_forall₂ hf h id) with ⟨hn, hm⟩ | ⟨n, m, hn, hm, -⟩
  · rw [hn, hm]
  · rw [hn, hm, Option.isSome_some, Option.isSome_some]

include he

/-- Twin links leave their sources by the same slot. -/
theorem Edge.IsTwin.slotIn_eq : d.slotIn ms = e.slotIn ns := by
  have hroot : (nodeById? ms (f e.source)).any Node.isRoot =
      (nodeById? ns e.source).any Node.isRoot :=
    any_eq_of_rel (nodeById?_of_forall₂ hf h e.source) fun _ _ hr => hr.isRoot_eq
  rw [Edge.slotIn, he.namedSlot?, he.source, hroot, Edge.slotIn]

/-- Twin links fill the same slots. -/
theorem Edge.IsTwin.fills_eq (id : String) (k : Slot) : d.fills ms (f id) k = e.fills ns id k := by
  have hsource : (f e.source == f id) = (e.source == id) := by
    rw [Bool.eq_iff_iff, beq_iff_eq, beq_iff_eq, hf.eq_iff]
  rw [Edge.fills, Edge.isPresent, he.source, he.target, isSome_nodeById?_of_forall₂ hf h,
    isSome_nodeById?_of_forall₂ hf h, he.slotIn_eq hf h, hsource, Edge.fills, Edge.isPresent]

end Links

/-! ### Twin graphs -/

namespace Graph.IsTwin

variable {f : String → String} {g h : Graph} (htwin : g.IsTwin f h)
include htwin

theorem root? (k : Kind) : Option.Rel (Node.IsTwin f) (g.root? k) (h.root? k) :=
  find?_of_forall₂ htwin.nodes fun _ _ hn => hn.hasKind_eq k

variable (hf : Function.Injective f)
include hf

/-- A slot leads to the twin of what it led to. -/
theorem target? (id : String) (k : Slot) :
    h.blueprint.target? (f id) k = (g.blueprint.target? id k).map f := by
  have hfind := find?_of_forall₂ htwin.edges fun e d he => he.fills_eq hf htwin.nodes id k
  change h.slotTable.target? (f id) k = (g.slotTable.target? id k).map f
  rw [slotTable_target?, slotTable_target?, Option.map_map]
  exact map_eq_of_rel hfind fun e d he => he.target

/-- **The blueprints of twin graphs are twins.** -/
theorem blueprint : g.blueprint.IsTwin f h.blueprint where
  block id n hn := by
    rcases rel_cases (nodeById?_of_forall₂ hf htwin.nodes id) with ⟨hn', -⟩ | ⟨n', m, hn', hm, hr⟩
    · cases hn.symm.trans hn'
    · obtain rfl := Option.some.inj (hn.symm.trans hn')
      exact ⟨m, hm, hr⟩
  target := htwin.target? hf

/-- Twin graphs whose chains start at the same blocks have programs with the same code. -/
theorem code_build_eq (hsetup : h.start? .setup = (g.start? .setup).map f)
    (hloop : h.start? .loop = (g.start? .loop).map f) : h.build.code = g.build.code := by
  obtain ⟨hs, hl, -⟩ := bodies_of_isTwin hf (htwin.blueprint hf) hsetup hloop
  exact Graph.code_build_eq hs hl (globalTable_of_forall₂ htwin.nodes)
    (pinTable_of_forall₂ htwin.nodes)

end Graph.IsTwin

end BlockSketch
