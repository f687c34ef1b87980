/-
**Compiling never fails on bad data.**

Editor state may be any JSON value.  What cannot be read as a graph is left out, what cannot be read
as a parameter is replaced by the catalog's value, and a loop that would stand still counts by one.
So every state has a program and a sketch, unless the upgrade has to skip a ring of end blocks.  The
numbers of the program are finite, wherever they come from, and so the sketch can sort its pins and
tell which way its loops count.

Main definitions:

* `BlockSketch.Statement.operands` — what stands in the numeric places of a statement;
* `BlockSketch.Program.IsFinite` — the numeric places of a program hold finite numbers, and no loop
  stands still.

Main results:

* `BlockSketch.Graph.isFinite_build` — the program of a graph is finite;
* `BlockSketch.Program.IsFinite.sketch?_eq` — a finite program has a sketch;
* `BlockSketch.exists_compiled` — **every state is compiled with nothing missing**.
-/

import BlockSketch.Proofs.Checked
import BlockSketch.Proofs.Layout
import BlockSketch.Proofs.LeadingEnds
import BlockSketch.Proofs.Rendering
import BlockSketch.Sketch.Compile

set_option relaxedAutoImplicit false
set_option autoImplicit false

namespace BlockSketch

/-! ### Numeric places -/

/-- What stands in the numeric places of an action. -/
def Action.operands : Action → List Operand
  | .delay ms => [ms]
  | .digitalWrite pin _ => [pin]
  | .digitalRead pin _ => [pin]
  | .analogWrite pin _ => [pin]
  | .servoAttach _ pin => [pin]
  | .change _ delta => [delta]
  | .random _ low high => [low, high]
  | .serialBegin baud => [baud]
  | _ => []

/-- What stands in the numeric places of a statement, without its bodies. -/
def Statement.operands : Statement → List Operand
  | .action a => a.operands
  | .forLoop _ start stop step _ => [start, stop, step]
  | _ => []

/-- Whether an operand is a finite number. -/
def Operand.IsFinite (o : Operand) : Prop :=
  ∃ x, o = .number x

/-- The numeric places of a program hold finite numbers, and no loop of it stands still. -/
structure Program.IsFinite (p : Program) : Prop where
  operands : ∀ s ∈ p.statements, ∀ o ∈ s.operands, o.IsFinite
  pins : ∀ pm ∈ p.pinModes, pm.1.IsFinite
  steps : ∀ name start stop step body,
    Statement.forLoop name start stop step body ∈ p.statements → step ≠ .number 0

/-! ### The program of a graph -/

namespace Node

variable {n : Node}

theorem HasOperand.isFinite {key : String} {o : Operand} (h : n.HasOperand key o) :
    o.IsFinite := by
  obtain ⟨x, -, rfl⟩ := h
  exact ⟨x, rfl⟩

/-- The statement of a block holds finite numbers. -/
theorem RendersAs.isFinite {s : Statement} (h : n.RendersAs s) : ∀ o ∈ s.operands, o.IsFinite := by
  cases s with
  | action a =>
      cases a with
      | delay | serialBegin =>
          exact List.forall_mem_singleton.2 h.2.isFinite
      | digitalWrite | digitalRead | analogWrite =>
          exact List.forall_mem_singleton.2 h.2.1.isFinite
      | servoAttach | change =>
          exact List.forall_mem_singleton.2 h.2.2.isFinite
      | random =>
          exact List.forall_mem_cons.2
            ⟨h.2.2.1.isFinite, List.forall_mem_singleton.2 h.2.2.2.isFinite⟩
      | _ => simp [Statement.operands, Action.operands]
  | forLoop name start stop step body =>
      obtain ⟨-, -, hstart, hstop, x, -, rfl⟩ := h
      exact List.forall_mem_cons.2 ⟨hstart.isFinite,
        List.forall_mem_cons.2 ⟨hstop.isFinite, List.forall_mem_singleton.2 ⟨_, rfl⟩⟩⟩
  | _ => simp [Statement.operands]

/-- The loop of a block does not stand still. -/
theorem RendersAs.step_ne_zero {name : String} {start stop step : Operand} {body : List Statement}
    (h : n.RendersAs (.forLoop name start stop step body)) : step ≠ .number 0 := by
  obtain ⟨-, -, -, -, x, -, rfl⟩ := h
  intro hstep
  have hzero := Operand.number.inj hstep
  split at hzero
  · exact absurd hzero (by decide)
  · contradiction

end Node

/-- In lists that are related item by item, each item on the right has one on the left. -/
theorem exists_of_forall₂_of_mem {α β : Type} {R : α → β → Prop} {xs : List α} {ys : List β}
    (h : List.Forall₂ R xs ys) {y : β} (hy : y ∈ ys) : ∃ x ∈ xs, R x y := by
  induction h with
  | nil => cases hy
  | cons hr _ ih =>
      rcases List.mem_cons.1 hy with rfl | hy
      · exact ⟨_, List.mem_cons_self, hr⟩
      · obtain ⟨x, hx, hxy⟩ := ih hy
        exact ⟨x, List.mem_cons_of_mem _ hx, hxy⟩

namespace Graph

/-- Every statement of a graph's program is that of a block. -/
theorem exists_rendersAs (g : Graph) {s : Statement} (hs : s ∈ g.build.statements) :
    ∃ n : Node, n.RendersAs s := by
  obtain ⟨_, -, hsetup⟩ := g.walkSetup_walks.exists_rendered
  obtain ⟨_, -, hloop⟩ := g.walkLoop_walks.exists_rendered
  have hrendered := List.rel_append hsetup hloop
  obtain ⟨id, -, n, -, -, hn⟩ := exists_of_forall₂_of_mem hrendered hs
  exact ⟨n, hn⟩

/-- The program of a graph is finite. -/
theorem isFinite_build (g : Graph) : g.build.IsFinite where
  operands s hs := by
    obtain ⟨n, hn⟩ := g.exists_rendersAs hs
    exact hn.isFinite
  pins pm hpm := by
    obtain ⟨⟨pin, mode⟩, -, rfl⟩ := List.mem_map.1 hpm
    exact ⟨pin, rfl⟩
  steps name start stop step body hs := by
    obtain ⟨n, hn⟩ := g.exists_rendersAs hs
    exact hn.step_ne_zero

end Graph

/-! ### Sketches -/

theorem Operand.IsFinite.isText_eq_false {o : Operand} (h : o.IsFinite) : o.isText = false := by
  obtain ⟨x, rfl⟩ := h
  rfl

namespace Program.IsFinite

variable {p : Program}

theorem isNumeric (h : p.IsFinite) : p.IsNumeric := by
  refine ⟨fun pm hpm => (h.pins pm hpm).isText_eq_false, fun s hs => ?_⟩
  cases s with
  | forLoop name start stop step body =>
      have hstep := (h.operands _ hs step (by simp [Statement.operands])).isText_eq_false
      simp [Statement.textStep?, hstep]
  | _ => rfl

/-- A finite program has a sketch. -/
theorem sketch?_eq (h : p.IsFinite) : p.sketch? = .ok p.sketch :=
  Program.sketch?_eq h.isNumeric

end Program.IsFinite

/-! ### Editor state -/

/-- **Every state is compiled with nothing missing.**  If the skipping of end blocks ends, should the
state be upgraded, there is a program with its sketch; each block that a walk looks up is there and
yields a statement, each parameter that it asks the catalog for is there and of the right form, and
what is compared for the sketch are finite numbers. -/
theorem exists_compiled (state : Value) (mode : Mode)
    (h : mode.isLegacy (Graph.ofValue state) = true → (Graph.ofValue state).SkipsEnds) :
    ∃ c loaded, compile state mode = .ok c ∧ load state mode = .ok loaded ∧
      loaded.graph.checkedBodies = .ok (c.program.setup, c.program.loop) ∧
      (∃ ds, loaded.graph.checkedDeclarations = .ok ds ∧
        explicitGlobals loaded.graph.nodes = distinctNames ds) ∧
      c.program.sketch? = .ok c.sketch ∧ c.program.IsFinite := by
  obtain ⟨loaded, hload⟩ := Graph.exists_load h
  have hload : load state mode = .ok loaded := hload
  refine ⟨_, loaded, by rw [compile, hload]; rfl, hload, loaded.graph.checkedBodies_eq_ok,
    loaded.graph.checkedDeclarations_eq_ok, ?_, loaded.graph.isFinite_build⟩
  exact loaded.graph.isFinite_build.sketch?_eq

/-- A linear state with an entry that is no block, a loop that would stand still between numbers that
are none, a pin and a name that cannot be read, and a chain that starts with an end block and leaves
the blocks at its end. -/
def wreckage : Value :=
  let block (id tag : String) (params : Fields) : Value :=
    .object [("id", .string id),
      ("data", .object [("blockType", .string tag), ("params", .object params)])]
  let link (source target : String) : Value :=
    .object [("id", .string ""), ("source", .string source), ("target", .string target)]
  .object [("version", .string "2"),
    ("nodes", .array [.int 7, block "l" "loop" [], block "e" "end_block" [],
      block "f" "for_loop" [("start", .float .nan), ("end", .float (.infinite true)),
        ("step", .string " 0 "), ("variable", .null)],
      block "d" "digital_write" [("pin", .bool true), ("value", .array [])],
      block "v" "variable" [("name", .string "  ")]]),
    ("edges", .array [link "l" "e", link "e" "f", link "f" "d", link "d" "gone", .null])]

/-- The state is upgraded, and the end block at the start of the chain is skipped. -/
theorem exists_compiled_wreckage :
    Mode.auto.isLegacy (Graph.ofValue wreckage) = true ∧ (Graph.ofValue wreckage).SkipsEnds ∧
      ∃ c, compile wreckage .auto = .ok c ∧ c.program.sketch? = .ok c.sketch ∧
        c.program.IsFinite := by
  have hends : (Graph.ofValue wreckage).SkipsEnds := by
    have hroots : rootIds (normalNodes (Graph.ofValue wreckage).nodes) = ["l", "setup"] := by decide
    unfold Graph.SkipsEnds
    rw [hroots]
    exact List.forall_mem_cons.2 ⟨⟨1, by decide⟩, List.forall_mem_singleton.2 ⟨0, by decide⟩⟩
  obtain ⟨c, -, hc, -, -, -, hsketch, hfinite⟩ := exists_compiled wreckage .auto fun _ => hends
  exact ⟨by decide, hends, c, hc, hsketch, hfinite⟩

end BlockSketch
