/-
**Compiling editor state.**

State is loaded as a graph, the graph is built into a program, and the program has a sketch.  Compiling
keeps the program with the sketch, since its faults and warnings are of interest, and tells its steps.

Main definitions:

* `BlockSketch.Compiled` — a program with its sketch and the notes;
* `BlockSketch.compile` — compiling editor state;
* `BlockSketch.importGraph` — the typed graph of a sketch.
-/

import BlockSketch.Graph.Load
import BlockSketch.Program.Build
import BlockSketch.Sketch.Import
import BlockSketch.Sketch.Render
import BlockSketch.Workspace.Note

set_option relaxedAutoImplicit false
set_option autoImplicit false

namespace BlockSketch

/-! ### Steps that are told -/

/-- The notes on an upgrade of a graph with so many links. -/
def Migration.notes (m : Migration) (links : Nat) : List Note :=
  m.revisits.map (fun r => .revisit r.1 r.2) ++
    [.upgraded links m.graph.edges.length m.endBlocks]

/-- The notes on loaded state. -/
def Loaded.notes (l : Loaded) : List Note :=
  match l.migration with
  | some m => .linearState l.stored.nodes.length :: m.notes l.stored.edges.length
  | none => []

/-- The note on a built program. -/
def Program.note (p : Program) : Note :=
  .built p.setup.length p.loop.length p.faults.length p.warnings.length

/-- The reports on a program: its faults, then its warnings. -/
def Program.reports (p : Program) : List Note :=
  p.faults.map Note.fault ++ p.warnings.map Note.warning

/-! ### Compiling and importing -/

/-- A compiled program. -/
structure Compiled where
  program : Program
  sketch : String
  notes : List Note

/-- Compiles editor state. -/
def compile (state : Value) (mode : Mode) : Except LoadError Compiled := do
  let loaded ← load state mode
  let program := loaded.graph.build
  return { program, sketch := program.sketch, notes := loaded.notes ++ [program.note] }

/-- An imported graph. -/
structure Imported where
  graph : Graph
  notes : List Note

/-- Why a sketch is not imported. -/
inductive ImportError where
  | digits (e : TooManyDigits)
  | endless (chain : EndlessChain)

/-- The message of an error. -/
def ImportError.message : ImportError → String
  | .digits e => e.message
  | .endless chain => chain.message

/-- Imports a sketch as a typed graph. -/
def importGraph (text : String) : Except ImportError Imported := do
  let linear ← (importSketch text).mapError ImportError.digits
  let m ← linear.migration.mapError ImportError.endless
  return {
    graph := m.graph
    notes := (if hasLoopBody text then [] else [.noLoop]) ++ m.notes linear.edges.length }

end BlockSketch
