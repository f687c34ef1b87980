/-
**Ids are opaque, but for the empty one.**

A graph is renamed by giving every block a new id and every link new ends.  If different ids stay
different, the renamed graph is a twin of the graph: it has the same slots, is walked in step and
declares the same.

There is one place where an id is looked into.  The chain of a root starts at its body, or else at the
block after it, and a body that starts with the empty id counts as none.  So a renaming that gives the
first block of a root's body the empty id, or takes it away from that block, makes the chain start
elsewhere.  No other block is treated in this way, wherever the empty id occurs.

Main definitions:

* `BlockSketch.Graph.rename` — the graph under new ids;
* `BlockSketch.Graph.KeepsStart` — the renaming does not move the start of a root's chain.

Main results:

* `BlockSketch.Graph.isTwin_rename` — a renamed graph is a twin;
* `BlockSketch.Graph.start?_rename_eq_iff` — exactly when the start of a chain is not moved;
* `BlockSketch.Graph.sketch_rename_eq` — **renaming does not change the sketch unless it moves the
  start of a chain**.
-/

import BlockSketch.Proofs.TwinGraphs
import Mathlib.Logic.Equiv.Basic

set_option relaxedAutoImplicit false
set_option autoImplicit false

namespace BlockSketch

/-! ### Renamed graphs -/

/-- The block under its new id. -/
def Node.rename (f : String → String) (n : Node) : Node :=
  { n with id := f n.id }

/-- The link between the new ids. -/
def Edge.rename (f : String → String) (e : Edge) : Edge :=
  { e with source := f e.source, target := f e.target }

/-- The graph under new ids. -/
def Graph.rename (f : String → String) (g : Graph) : Graph :=
  { g with nodes := g.nodes.map (Node.rename f), edges := g.edges.map (Edge.rename f) }

namespace Graph

variable (g : Graph) (f : String → String)

/-- A renamed graph is a twin. -/
theorem isTwin_rename : g.IsTwin f (g.rename f) where
  nodes := by
    rw [rename, List.forall₂_map_right_iff, List.forall₂_same]
    exact fun n _ => ⟨rfl, rfl, fun _ => rfl⟩
  edges := by
    rw [rename, List.forall₂_map_right_iff, List.forall₂_same]
    exact fun e _ => ⟨rfl, rfl, rfl⟩

/-! ### Where chains start -/

/-- The renaming does not move the start of the chain of a root.  The first block of its body has the
empty id after the renaming only if it had it before, and the other way round; or the root leads to
this block by both slots. -/
def KeepsStart (k : Kind) : Prop :=
  ∀ n t, g.root? k = some n → g.blueprint.target? n.id .body = some t →
    (f t = "" ↔ t = "") ∨ g.blueprint.target? n.id .next = some t

section
variable {g f} (hf : Function.Injective f)
include hf

/-- The chain of a root of the renamed graph starts at its body, unless the new id of the body's first
block is empty. -/
theorem start?_rename (k : Kind) : (g.rename f).start? k =
    (g.root? k).bind fun n => (((g.blueprint.target? n.id .body).map f).bind nonEmpty?).or
      ((g.blueprint.target? n.id .next).map f) := by
  have htwin := g.isTwin_rename f
  rw [start?, Blueprint.start?]
  rcases rel_cases (htwin.root? k) with ⟨hn, hm⟩ | ⟨n, m, hn, hm, hr⟩
  · rw [hn, hm, Option.bind_none, Option.bind_none]
  · rw [hn, hm, Option.bind_some, Option.bind_some, hr.id, htwin.target? hf, htwin.target? hf]

/-- Passing over an empty id before or after the renaming makes a difference if the id is empty on one
side only and there is something else to go on with. -/
theorem nonEmpty?_or_map_eq_iff (t : String) (next : Option String) :
    (nonEmpty? (f t)).or (next.map f) = ((nonEmpty? t).or next).map f ↔
      (f t = "" ↔ t = "") ∨ next = some t := by
  have hnext : next.map f = some (f t) ↔ next = some t :=
    (Option.map_injective hf).eq_iff (b := some t)
  by_cases ht : t = "" <;> by_cases hft : f t = ""
  · rw [nonEmpty?, if_pos hft, nonEmpty?, if_pos ht]
    exact iff_of_true rfl (Or.inl (iff_of_true hft ht))
  · rw [nonEmpty?, if_neg hft, nonEmpty?, if_pos ht, Option.some_or, Option.none_or, eq_comm, hnext]
    exact (or_iff_right fun h => hft (h.2 ht)).symm
  · rw [nonEmpty?, if_pos hft, nonEmpty?, if_neg ht, Option.none_or, Option.some_or,
      Option.map_some, hnext]
    exact (or_iff_right fun h => ht (h.1 hft)).symm
  · rw [nonEmpty?, if_neg hft, nonEmpty?, if_neg ht]
    exact iff_of_true rfl (Or.inl (iff_of_false hft ht))

/-- The start of a chain is not moved exactly if the renaming keeps it. -/
theorem start?_rename_eq_iff (k : Kind) :
    (g.rename f).start? k = (g.start? k).map f ↔ g.KeepsStart f k := by
  rw [start?_rename hf, start?, Blueprint.start?]
  cases hn : g.root? k with
  | none => exact iff_of_true rfl fun n _ hroot => by simp [hn] at hroot
  | some n =>
      rw [Option.bind_some, Option.bind_some]
      cases hbody : g.blueprint.target? n.id .body with
      | none =>
          refine iff_of_true rfl fun m t hroot ht => ?_
          obtain rfl := Option.some.inj (hn.symm.trans hroot)
          simp [hbody] at ht
      | some t =>
          rw [Option.map_some, Option.bind_some, Option.bind_some, nonEmpty?_or_map_eq_iff hf]
          constructor
          · intro h m s hroot hs
            obtain rfl := Option.some.inj (hn.symm.trans hroot)
            obtain rfl := Option.some.inj (hbody.symm.trans hs)
            exact h
          · exact fun h => h n t hn hbody

/-! ### Sketches -/

/-- The code of a renamed graph, if no chain starts elsewhere. -/
theorem code_rename_eq (h : ∀ k : Kind, k.isRoot = true → g.KeepsStart f k) :
    (g.rename f).build.code = g.build.code := by
  refine (g.isTwin_rename f).code_build_eq hf ?_ ?_
  · exact (start?_rename_eq_iff hf .setup).2 (h .setup rfl)
  · exact (start?_rename_eq_iff hf .loop).2 (h .loop rfl)

end

/-- **Renaming does not change the sketch unless it moves the start of a chain**, and this it does
exactly if it gives the empty id to the first block of a root's body or takes it away from there. -/
theorem sketch_rename_eq (hf : Function.Injective f) :
    (∀ k, (g.rename f).start? k = (g.start? k).map f ↔ g.KeepsStart f k) ∧
      ((∀ k : Kind, k.isRoot = true → g.KeepsStart f k) →
        ∃ s, g.build.sketch? = .ok s ∧ (g.rename f).build.sketch? = .ok s) :=
  ⟨start?_rename_eq_iff hf, fun h => exists_sketch_of_code_eq (code_rename_eq hf h)⟩

/-- A loop that is a repetition of a pause, which has the empty id, and a remark. -/
def unnamed : Graph where
  nodes := [Node.create .setup "s" .null .null, Node.create .loop "l" .null .null,
    Node.create .whileLoop "w" .null .null, Node.create .delay "" .null .null,
    Node.create .comment "c" .null .null]
  edges := [Edge.typed "l" "w" .body, Edge.typed "w" "" .body, Edge.typed "" "c" .next]

/-- The pause and the remark can change their ids: neither is the first block of a root's body. -/
theorem unnamed_rename : Function.Injective (Equiv.swap "" "c") ∧
    (∀ k : Kind, k.isRoot = true → unnamed.KeepsStart (Equiv.swap "" "c") k) ∧
    (unnamed.rename (Equiv.swap "" "c")).nodes.map Node.id = ["s", "l", "w", "c", ""] ∧
    ∃ s, unnamed.build.sketch? = .ok s ∧
      (unnamed.rename (Equiv.swap "" "c")).build.sketch? = .ok s := by
  have hkeeps (k : Kind) (hk : k.isRoot = true) : unnamed.KeepsStart (Equiv.swap "" "c") k := by
    intro n t hroot ht
    cases k with
    | setup =>
        obtain rfl := Option.some.inj hroot
        cases ht
    | loop =>
        obtain rfl := Option.some.inj hroot
        obtain rfl := Option.some.inj ht
        exact Or.inl (by decide)
    | _ => exact absurd hk (by decide)
  have hinj := (Equiv.swap "" "c").injective
  exact ⟨hinj, hkeeps, by decide, (sketch_rename_eq unnamed _ hinj).2 hkeeps⟩

/-- A graph whose loop is a single pause. -/
def single : Graph where
  nodes := [Node.create .setup "s" .null .null, Node.create .loop "l" .null .null,
    Node.create .delay "d" .null .null]
  edges := [Edge.typed "l" "d" .body]

/-- If the pause is given the empty id, the loop passes it over, and it is missing from the sketch. -/
theorem single_rename : (single.nodes.map Node.id).Nodup ∧
    Function.Injective (Equiv.swap "d" "") ∧
    single.build.loop.length = 1 ∧ (single.rename (Equiv.swap "d" "")).build.loop.length = 0 ∧
    ¬∃ s, single.build.sketch? = .ok s ∧
      (single.rename (Equiv.swap "d" "")).build.sketch? = .ok s := by
  refine ⟨by decide, (Equiv.swap "d" "").injective, by decide +kernel, by decide +kernel,
    fun hs => ?_⟩
  exact absurd (exists_sketch_iff.1 hs) (by decide +kernel)

end Graph

end BlockSketch
