/-
**Loading editor state.**

Editor state is loaded as a linear or as a typed graph.  If the mode does not say which, it is
linear unless it is of version 2 or has a link that names its slot.

Main definitions:

* `BlockSketch.Mode` — the modes, with `ofTag?`;
* `BlockSketch.Loaded` — a loaded graph, with the upgrade if there was one;
* `BlockSketch.load`, `BlockSketch.loadText` — loading a value or a JSON text;
* `BlockSketch.LoadError` — why nothing is loaded.
-/

import BlockSketch.Graph.Legacy
import BlockSketch.Graph.Wire
import BlockSketch.Json.Reader

set_option relaxedAutoImplicit false
set_option autoImplicit false

namespace BlockSketch

/-- How editor state is to be taken. -/
inductive Mode where
  | auto
  | legacy
  | current
  deriving DecidableEq, Repr

namespace Mode

/-- The tag of a mode. -/
def tag : Mode → String
  | .auto => "auto"
  | .legacy => "legacy"
  | .current => "current"

/-- Every mode. -/
def all : List Mode :=
  [.auto, .legacy, .current]

/-- The mode that a tag names. -/
def ofTag? (s : String) : Option Mode :=
  all.find? fun m => m.tag == s

/-- Whether a graph is taken as a linear one. -/
def isLegacy (m : Mode) (g : Graph) : Bool :=
  match m with
  | .auto => g.version != 2 && !g.hasTypedEdges
  | .legacy => true
  | .current => false

end Mode

/-- Why nothing is loaded. -/
inductive LoadError where
  | unknownMode (tag : String)
  | endless (chain : EndlessChain)
  deriving DecidableEq, Repr

/-- The message of an error. -/
def LoadError.message : LoadError → String
  | .unknownMode tag =>
    "Unknown parse mode '" ++ tag ++ "'. Expected one of: " ++
      ", ".intercalate (Mode.all.map Mode.tag) ++ "."
  | .endless chain => chain.message

/-- The mode that a tag names, or the error that it names none. -/
def Mode.ofTag (s : String) : Except LoadError Mode :=
  match Mode.ofTag? s with
  | some m => .ok m
  | none => .error (.unknownMode s)

/-- A loaded graph. -/
structure Loaded where
  /-- The graph as it was stored. -/
  stored : Graph
  /-- The graph in its normal form. -/
  graph : Graph
  /-- The upgrade, if the state was linear. -/
  migration : Option Migration := none

/-- Loads a stored graph. -/
def Graph.load (stored : Graph) (mode : Mode) : Except LoadError Loaded :=
  if mode.isLegacy stored then do
    let m ← ({ stored with version := 1 } : Graph).migration.mapError LoadError.endless
    return { stored := stored, graph := m.graph, migration := some m }
  else .ok { stored := stored, graph := ({ stored with version := 2 } : Graph).normalize }

/-- Loads editor state. -/
def load (state : Value) (mode : Mode) : Except LoadError Loaded :=
  (Graph.ofValue state).load mode

/-- Loads a JSON text.  A text that is not valid counts as the state of an empty graph. -/
def loadText (text : String) (mode : Mode) : Except LoadError Loaded :=
  load ((Json.read text).toOption.getD .null) mode

end BlockSketch
