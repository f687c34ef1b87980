/-
**Editing graphs.**

An editor works on one graph.  Each edit takes it to the next state or is refused, and then the graph
stays as it is.

Main definitions:

* `BlockSketch.Edit` — the edits;
* `BlockSketch.EditError` — why an edit is refused;
* `BlockSketch.Edit.apply` — the graph after an edit;
* `BlockSketch.EditorStep`, `BlockSketch.runSteps` — edits and compilations in a row.
-/

import BlockSketch.Graph.Load
import BlockSketch.Program.Build
import BlockSketch.Sketch.Import
import BlockSketch.Sketch.Render
import BlockSketch.Text.Quoted

set_option relaxedAutoImplicit false
set_option autoImplicit false

namespace BlockSketch

/-- Why an edit or a look-up is refused. -/
inductive EditError where
  | unknownKind (tag : String)
  | unknownSlot (tag : String)
  | unknownParam (key : String)
  | unknownNode (id : String)
  | tooFewCoordinates (count : Nat)
  | tooManyCoordinates
  | load (e : LoadError)
  | digits (e : TooManyDigits)

/-- The message of an error. -/
def EditError.message : EditError → String
  | .unknownKind tag => Text.quoted tag ++ " is not a valid BlockKind"
  | .unknownSlot tag => Text.quoted tag ++ " is not a valid EdgeKind"
  | .unknownParam key => Text.quoted key
  | .unknownNode id => Text.quoted id
  | .tooFewCoordinates count =>
    "not enough values to unpack (expected 2, got " ++ toString count ++ ")"
  | .tooManyCoordinates => "too many values to unpack (expected 2)"
  | .load e => e.message
  | .digits e => e.message

/-- The kind that a tag names, or the error that it names none. -/
def Kind.ofTag (tag : String) : Except EditError Kind :=
  match Kind.ofTag? tag with
  | some k => .ok k
  | none => .error (.unknownKind tag)

/-- The slot that a tag names, or the error that it names none. -/
def Slot.ofTag (tag : String) : Except EditError Slot :=
  match Slot.ofTag? tag with
  | some s => .ok s
  | none => .error (.unknownSlot tag)

/-- The parameter that a new block of the tagged kind starts with. -/
def Catalog.lookUp (tag key : String) : Except EditError Value := do
  let k ← Kind.ofTag tag
  match Catalog.default? k key with
  | some v => return v
  | none => .error (.unknownParam key)

/-- A block to be created, as the editor asks for it. -/
structure NewBlock where
  kind : String
  id : String
  position : List Value := [.int 0, .int 0]
  label : Option String := none
  params : Fields := []

/-- The new block, if its kind is known and its position has two coordinates. -/
def NewBlock.create (b : NewBlock) : Except EditError Node := do
  let k ← Kind.ofTag b.kind
  match b.position with
  | [x, y] => return Node.create k b.id x y b.label b.params
  | _ :: _ :: _ => .error .tooManyCoordinates
  | few => .error (.tooFewCoordinates few.length)

/-- Gives a parameter of the last block with the given id a new value. -/
def setParam (id key : String) (v : Value) : List Node → List Node
  | [] => []
  | n :: ns =>
    if (nodeById? ns id).isNone && n.id == id then
      { n with params := Fields.set n.params key v } :: ns
    else n :: setParam id key v ns

/-- What an editor can do to a graph. -/
inductive Edit where
  /-- Replaces the graph by a stored one as it is. -/
  | open (state : Value)
  /-- Replaces the graph by a stored one in normal form. -/
  | load (state : Value) (mode : String)
  /-- Stores the graph and loads it again. -/
  | reload (mode : String)
  /-- Replaces the graph by that of a sketch. -/
  | importSketch (text : String)
  | create (block : NewBlock)
  | connect (edge : Edge) (slot : Option String)
  | connectTyped (source target slot : String)
  | setParam (id key : String) (v : Value)
  | removeNode (id : String)
  | removeEdge (id : String)
  | setVersion (n : Int)
  | normalize
  | migrate
  /-- Writes the sketch of the graph and imports it. -/
  | reimport

/-- Loads state in the mode of a tag. -/
def loadTagged (state : Value) (mode : String) : Except EditError Graph := do
  let m ← (Mode.ofTag mode).mapError EditError.load
  let loaded ← (BlockSketch.load state m).mapError EditError.load
  return loaded.graph

/-- Loads a JSON text in the mode of a tag. -/
def loadTaggedText (text mode : String) : Except EditError Graph := do
  let m ← (Mode.ofTag mode).mapError EditError.load
  let loaded ← (BlockSketch.loadText text m).mapError EditError.load
  return loaded.graph

/-- The graph after an edit. -/
def Edit.apply (g : Graph) : Edit → Except EditError Graph
  | .open state => .ok (Graph.ofValue state)
  | .load state mode => loadTagged state mode
  | .reload mode => loadTagged g.toValue mode
  | .importSketch text => (BlockSketch.importSketch text).mapError EditError.digits
  | .create block => do
    let n ← block.create
    return { g with nodes := g.nodes ++ [n] }
  | .connect edge slot => do
    let s ← slot.mapM Slot.ofTag
    return { g with edges := g.edges ++ [{ edge with slot := s }] }
  | .connectTyped source target slot => do
    let s ← Slot.ofTag slot
    return { g with edges := g.edges ++ [Edge.typed source target s] }
  | .setParam id key v =>
    if (g.node? id).isSome then .ok { g with nodes := BlockSketch.setParam id key v g.nodes }
    else .error (.unknownNode id)
  | .removeNode id => .ok { g with nodes := g.nodes.filter fun n => n.id ≠ id }
  | .removeEdge id => .ok { g with edges := g.edges.filter fun e => e.id ≠ id }
  | .setVersion n => .ok { g with version := n }
  | .normalize => .ok g.normalize
  | .migrate => g.migrate.mapError fun e => .load (.endless e)
  | .reimport => (BlockSketch.importSketch g.build.sketch).mapError EditError.digits

/-! ### Steps in a row -/

/-- A step of an editor: an edit, or a look at the program of the graph. -/
inductive EditorStep where
  | edit (e : Edit)
  | compile

/-- What a step shows. -/
inductive StepResult where
  | graph (g : Graph)
  | program (p : Program)
  | refused (e : EditError)

/-- The graph after a step, and what the step shows. -/
def EditorStep.run (g : Graph) : EditorStep → Graph × StepResult
  | .edit e =>
    match e.apply g with
    | .ok g => (g, .graph g)
    | .error e => (g, .refused e)
  | .compile => (g, .program g.build)

/-- What the steps show, one after the other. -/
def runSteps : Graph → List EditorStep → List StepResult
  | _, [] => []
  | g, step :: steps =>
    let (g, shown) := step.run g
    shown :: runSteps g steps

end BlockSketch
