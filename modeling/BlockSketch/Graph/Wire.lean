/-
**Graphs as editor state.**

The editor stores a graph as a JSON object.  Reading it is lenient: entries that are no blocks or
links are dropped, of several blocks with one id the first is kept, and fields of an unexpected form
count as missing.  The version is 2 only if the state says so.

Main definitions:

* `BlockSketch.Node.ofValue?`, `BlockSketch.Edge.ofValue?`, `BlockSketch.Graph.ofValue` — reading;
* `BlockSketch.Node.toValue`, `BlockSketch.Edge.toValue`, `BlockSketch.Graph.toValue` — writing.
-/

import BlockSketch.Graph.Basic

set_option relaxedAutoImplicit false
set_option autoImplicit false

namespace BlockSketch

/-- A field with a value, if there is one. -/
def optionalField (key : String) (v : Option Value) : Fields :=
  v.toList.map fun x => (key, x)

/-- A field with a text, if there is one. -/
def optionalText (key : String) (s : Option String) : Fields :=
  optionalField key (s.map Value.string)

/-! ### Blocks -/

/-- The fields of a stored block that the library reads itself. -/
def Node.ownFields : List String :=
  ["id", "type", "data"]

/-- The block that a stored entry describes; it needs an id. -/
def Node.ofValue? (v : Value) : Option Node := do
  let fs ← v.object?
  let id ← v.text? "id"
  let data := (Fields.get? fs "data").getD .null
  return {
    id := id
    blockType := data.text? "blockType"
    label := data.text? "label"
    params := ((data.field? "params").bind Value.object?).getD []
    renderType := v.text? "type"
    extra := Fields.without fs Node.ownFields }

/-- The stored form of a block. -/
def Node.toValue (n : Node) : Value :=
  let params := if n.params.isEmpty then none else some (.object n.params)
  let data :=
    optionalText "blockType" n.blockType ++ optionalText "label" n.label ++
      optionalField "params" params
  .object ([("id", .string n.id)] ++ optionalText "type" n.renderType ++ n.extra ++
    [("data", .object data)])

/-! ### Links -/

/-- The fields of a stored link that the library reads itself. -/
def Edge.ownFields : List String :=
  ["id", "source", "target", "sourceHandle", "targetHandle", "data"]

/-- The link that a stored entry describes; it needs an id and two ends. -/
def Edge.ofValue? (v : Value) : Option Edge := do
  let fs ← v.object?
  let id ← v.text? "id"
  let source ← v.text? "source"
  let target ← v.text? "target"
  return {
    id := id
    source := source
    target := target
    slot := (((Fields.get? fs "data").getD .null).text? "kind").bind Slot.ofTag?
    sourceHandle := v.text? "sourceHandle"
    targetHandle := v.text? "targetHandle"
    extra := Fields.without fs Edge.ownFields }

/-- The stored form of a link. -/
def Edge.toValue (e : Edge) : Value :=
  .object ([("id", .string e.id), ("source", .string e.source), ("target", .string e.target)] ++
    optionalText "sourceHandle" e.sourceHandle ++ optionalText "targetHandle" e.targetHandle ++
    e.extra ++
    optionalField "data" (e.slot.map fun s => .object [("kind", .string s.tag)]))

/-! ### Graphs -/

/-- The blocks of a list without those whose id came before. -/
def firstsById : (seen : List String) → List Node → List Node
  | _, [] => []
  | seen, n :: ns =>
    if n.id ∈ seen then firstsById seen ns else n :: firstsById (n.id :: seen) ns

/-- Whether a stored version is that of typed graphs. -/
def isTypedVersion : Value → Bool
  | .int n => n == 2
  | .float (.finite x) => x == 2
  | _ => false

/-- The items of a field that holds an array; none if it does not. -/
def entries (v : Value) (key : String) : List Value :=
  ((v.field? key).bind Value.array?).getD []

/-- The graph that editor state describes. -/
def Graph.ofValue (v : Value) : Graph where
  version := if (v.field? "version").any isTypedVersion then 2 else 1
  nodes := firstsById [] ((entries v "nodes").filterMap Node.ofValue?)
  edges := (entries v "edges").filterMap Edge.ofValue?

/-- The stored form of a graph. -/
def Graph.toValue (g : Graph) : Value :=
  .object [("version", .int g.version), ("nodes", .array (g.nodes.map Node.toValue)),
    ("edges", .array (g.edges.map Edge.toValue))]

end BlockSketch
