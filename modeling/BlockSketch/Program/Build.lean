/-
**The program of a graph.**

The chains of the first setup block and of the first loop block become the two bodies of the
program, in this order, so that a block reached from both belongs to setup.  The rest of the program
is derived from the statements and the declaration blocks.

Main definitions:

* `BlockSketch.Graph.walkSetup`, `BlockSketch.Graph.walkLoop` — the two walks;
* `BlockSketch.Graph.unconnected` — the titles of the blocks that no walk has claimed;
* `BlockSketch.Graph.build` — the program.
-/

import BlockSketch.Program.Tables

set_option relaxedAutoImplicit false
set_option autoImplicit false

namespace BlockSketch

/-- The actions among the statements of a list and of their bodies. -/
def actionsOf (ss : List Statement) : List Action :=
  (flattenAll ss).filterMap Statement.action?

/-- Whether an action needs the serial port. -/
def Action.isSerial : Action → Bool
  | .serialBegin _ | .serialPrint _ | .serialPrintValue _ _ => true
  | _ => false

/-- Whether an action opens the serial port. -/
def Action.isSerialBegin : Action → Bool
  | .serialBegin _ => true
  | _ => false

namespace Graph

/-- The first block of a kind. -/
def root? (g : Graph) (k : Kind) : Option Node :=
  g.nodes.find? fun n => n.hasKind k

/-- What is known before the walks: faults of the slots, and missing roots. -/
def firstWalk (g : Graph) : Walk where
  faults := g.slotTable.faults ++ (if (g.root? .loop).isNone then [.missingLoop] else [])
  warnings := if (g.root? .setup).isNone then [.missingSetup] else []

/-- The statements of setup. -/
def walkSetup (g : Graph) : List Statement × Walk :=
  g.blueprint.build maxNesting .setup (g.blueprint.start? (g.root? .setup)) g.firstWalk

/-- The statements of loop, after those of setup. -/
def walkLoop (g : Graph) : List Statement × Walk :=
  g.blueprint.build maxNesting .loop (g.blueprint.start? (g.root? .loop)) g.walkSetup.2

/-- The titles of the blocks that could yield a statement and were not claimed, each once. -/
def unconnected (g : Graph) (claimed : List String) : List String :=
  distinct ((g.nodes.filter fun n =>
    !n.kind?.any (fun k => k.isRoot || k.isDeclaration) && n.id ∉ claimed).map Node.title)

/-- The program of a graph. -/
def build (g : Graph) : Program :=
  let setup := g.walkSetup.1
  let loop := g.walkLoop.1
  let walk := g.walkLoop.2
  let actions := actionsOf setup ++ actionsOf loop
  { setup := setup
    loop := loop
    globals := globalTable g.nodes actions
    servos := servoTable actions
    usesSerial := actions.any Action.isSerial
    beginsSerial := actions.any Action.isSerialBegin
    pinModes := (pinTable g.nodes actions).map fun pm => (.number pm.1, pm.2)
    faults := walk.faults
    warnings :=
      walk.warnings ++ walk.emptyBodies.map Warning.emptyBody ++
        (g.unconnected walk.claimed).map Warning.unconnected ++
        (pinConflicts g.nodes actions).map (fun pm => Warning.pinConflict pm.1 pm.2) ++
        (servoConflicts g.nodes actions).map Warning.servoConflict }

end Graph

end BlockSketch
