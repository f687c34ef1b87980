/-
**Faults and warnings.**

A graph with mistakes still has a program; what was found on the way is recorded with it.  Faults
are structural: the graph cannot mean what it shows.  Warnings point at likely mistakes.

Main definitions:

* `BlockSketch.Chain` — the chains of blocks that messages name;
* `BlockSketch.Fault`, `BlockSketch.Warning` — what can be found, with `message` for the wording.
-/

import BlockSketch.Block.Kind
import BlockSketch.Number.Shortest

set_option relaxedAutoImplicit false
set_option autoImplicit false

namespace BlockSketch

/-- A chain of blocks: that of a root, or a body of a container. -/
inductive Chain where
  | setup
  | loop
  | ifBody (id : String)
  | ifElse (id : String)
  | forBody (id : String)
  | whileBody (id : String)
  deriving DecidableEq, Repr

/-- The name of a chain in messages. -/
def Chain.name : Chain → String
  | .setup => "setup"
  | .loop => "loop"
  | .ifBody id => "if-body(" ++ id ++ ")"
  | .ifElse id => "if-else(" ++ id ++ ")"
  | .forBody id => "for-body(" ++ id ++ ")"
  | .whileBody id => "while-body(" ++ id ++ ")"

/-- How many containers may stand around a container that keeps its bodies. -/
def maxNesting : Nat :=
  100

/-- A structural mistake. -/
inductive Fault where
  /-- Two links leave a block by the same slot. -/
  | multipleOutputs (source : String) (slot : Slot)
  | missingLoop
  /-- A chain comes back to one of its blocks. -/
  | cycle (chain : Chain) (id : String)
  /-- Two chains lead to the same block. -/
  | shared (id : String)
  /-- A container has too many around it. -/
  | tooDeep (id : String)
  deriving DecidableEq, Repr

/-- The message of a fault. -/
def Fault.message : Fault → String
  | .multipleOutputs source slot =>
    "Block " ++ source ++ " has multiple '" ++ slot.tag ++ "' outputs."
  | .missingLoop => "Missing loop() root block."
  | .cycle chain id => "Cycle detected in " ++ chain.name ++ " chain at node " ++ id ++ "."
  | .shared id => "Node " ++ id ++ " is reachable from multiple paths (shared nodes)."
  | .tooDeep id => "Nesting deeper than " ++ toString maxNesting ++ " at node " ++ id ++ "."

/-- A likely mistake. -/
inductive Warning where
  | missingSetup
  | unknownBlock (id : String)
  | zeroStep (title : String)
  | emptyBody (title : String)
  | unconnected (title : String)
  /-- A pin is written to although a block sets another mode for it. -/
  | pinConflict (pin : Dyadic) (mode : String)
  /-- A name is that of a servo and of a variable. -/
  | servoConflict (name : String)
  deriving DecidableEq

/-- The message of a warning. -/
def Warning.message : Warning → String
  | .missingSetup => "Missing setup() root block; using defaults."
  | .unknownBlock id => "Unknown block type at node " ++ id ++ "."
  | .zeroStep title => "\"" ++ title ++ "\" has a step of 0; using 1."
  | .emptyBody title => "\"" ++ title ++ "\" has no body connected."
  | .unconnected title => "\"" ++ title ++ "\" is not connected to setup() or loop()."
  | .pinConflict pin mode =>
    "Pin " ++ numberText pin ++ " is written to but its Pin Mode block sets " ++ mode ++ "."
  | .servoConflict name =>
    "\"" ++ name ++ "\" is used as a servo and as a variable; keeping the Servo declaration."

end BlockSketch
