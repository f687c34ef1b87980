/-
**From chains of blocks to statements.**

A chain is followed along its next slots.  Roots, declarations and end blocks on it yield nothing;
every other block yields one statement, and a container takes the statements of its bodies with it.
A block is claimed by the first chain that reaches it.  A chain ends at a block that is claimed
already and at one that it has met before, and the fault is recorded; a container with a hundred
others around it keeps no body.

Main definitions:

* `BlockSketch.actionOf?`, `BlockSketch.headerOf?` — what a block is, by its kind and parameters;
* `BlockSketch.Walk` — what a walk has claimed and found;
* `BlockSketch.Blueprint` — blocks and slots;
* `BlockSketch.Blueprint.chainFrom`, `BlockSketch.Blueprint.build` — the statements of a chain.
-/

import BlockSketch.Block.Params
import BlockSketch.Program.Slots
import BlockSketch.Program.Statement

set_option relaxedAutoImplicit false
set_option autoImplicit false

namespace BlockSketch

/-! ### The statement of a block -/

/-- A text parameter with the fallback of the catalog. -/
def textParam? (k : Kind) (ps : Fields) (key : String) : Option String :=
  ((Catalog.default? k key).bind Value.string?).map fun d => Fields.text ps key d

/-- An expression with the fallback of the catalog. -/
def expressionParam? (k : Kind) (ps : Fields) (key : String) : Option String :=
  ((Catalog.default? k key).bind Value.string?).map fun d => Fields.expression ps key d

/-- A numeric parameter with the fallback of the catalog. -/
def numberParam? (k : Kind) (ps : Fields) (key : String) : Option Dyadic :=
  ((Catalog.default? k key).bind Value.number?).map fun d => Fields.number ps key d

/-- A numeric parameter as an operand. -/
def operandParam? (k : Kind) (ps : Fields) (key : String) : Option Operand :=
  (numberParam? k ps key).map Operand.number

/-- Whether a parameter is not the truth value `false`. -/
def notFalse (ps : Fields) (key : String) : Bool :=
  match Fields.get? ps key with
  | some (.bool false) => false
  | _ => true

/-- The action of a block, by its kind and parameters; only kinds of actions have one. -/
def actionOf? (k : Kind) (ps : Fields) : Option Action := do
  match k with
  | .comment => return .comment (← textParam? k ps "text")
  | .delay => return .delay (← operandParam? k ps "ms")
  | .digitalWrite => return .digitalWrite (← operandParam? k ps "pin") (← textParam? k ps "value")
  | .digitalRead => return .digitalRead (← operandParam? k ps "pin") (← textParam? k ps "variable")
  | .analogWrite =>
    return .analogWrite (← operandParam? k ps "pin") (← expressionParam? k ps "value")
  | .analogRead =>
    return .analogRead (← expressionParam? k ps "pin") (← textParam? k ps "variable")
  | .servoAttach => return .servoAttach (← textParam? k ps "variable") (← operandParam? k ps "pin")
  | .servoWrite =>
    return .servoWrite (← textParam? k ps "variable") (← expressionParam? k ps "angle")
  | .assign => return .assign (← textParam? k ps "name") (← expressionParam? k ps "value")
  | .change => return .change (← textParam? k ps "name") (← operandParam? k ps "delta")
  | .arithmetic =>
    return .arithmetic (← textParam? k ps "target") (← expressionParam? k ps "left")
      (← textParam? k ps "op") (← expressionParam? k ps "right")
  | .random =>
    return .random (← textParam? k ps "target") (← operandParam? k ps "min")
      (← operandParam? k ps "max")
  | .serialBegin => return .serialBegin (← operandParam? k ps "baud")
  | .serialPrint => return .serialPrint (← textParam? k ps "message")
  | .serialPrintValue =>
    return .serialPrintValue (← expressionParam? k ps "value") (notFalse ps "newline")
  | _ => none

/-- A container without its bodies. -/
inductive Header where
  | branch (condition : String)
  | forLoop (name : String) (start stop step : Dyadic)
  | whileLoop (condition : String)
  deriving DecidableEq

/-- The header of a container, by its kind and parameters; only kinds of containers have one. -/
def headerOf? (k : Kind) (ps : Fields) : Option Header := do
  match k with
  | .ifThen | .ifElse => return .branch (← textParam? k ps "condition")
  | .forLoop =>
    return .forLoop (← textParam? k ps "variable") (← numberParam? k ps "start")
      (← numberParam? k ps "end") (← numberParam? k ps "step")
  | .whileLoop => return .whileLoop (← textParam? k ps "condition")
  | _ => none

/-! ### Walks -/

/-- What a walk has claimed and found so far. -/
structure Walk where
  /-- The blocks that have yielded a statement, in order. -/
  claimed : List String := []
  faults : List Fault := []
  warnings : List Warning := []
  /-- The titles of the containers without a body, each once. -/
  emptyBodies : List String := []

namespace Walk

/-- Claims a block. -/
def claim (w : Walk) (id : String) : Walk :=
  { w with claimed := w.claimed ++ [id] }

/-- Records a fault. -/
def fault (w : Walk) (f : Fault) : Walk :=
  { w with faults := w.faults ++ [f] }

/-- Records a warning. -/
def warn (w : Walk) (x : Warning) : Walk :=
  { w with warnings := w.warnings ++ [x] }

/-- Records a container without a body, unless one of its title has been recorded. -/
def emptyBody (w : Walk) (title : String) : Walk :=
  if title ∈ w.emptyBodies then w else { w with emptyBodies := w.emptyBodies ++ [title] }

end Walk

/-- What a walk reads: blocks, and where their slots lead. -/
structure Blueprint where
  nodes : List Node
  slots : SlotTable

/-- The blueprint of a graph. -/
def Graph.blueprint (g : Graph) : Blueprint :=
  ⟨g.nodes, g.slotTable⟩

/-- A way to turn a chain into statements. -/
abbrev ChainBuilder := Chain → Option String → Walk → List Statement × Walk

namespace Blueprint

/-- Where a slot leads. -/
def target? (b : Blueprint) (source : String) (slot : Slot) : Option String :=
  b.slots.target? source slot

/-- Records what is to be said about the bodies of a container: that they are too deep, if there is
no way to build them, or that there is none. -/
def checkBody (b : Blueprint) (inner : Option ChainBuilder) (node : Node) (w : Walk) : Walk :=
  if inner.isNone then w.fault (.tooDeep node.id)
  else if (b.target? node.id .body).isNone then w.emptyBody node.title
  else w

/-- The statements of a body; none if there is no way to build it. -/
def bodyOf (b : Blueprint) (inner : Option ChainBuilder) (chain : Chain) (id : String) (slot : Slot)
    (w : Walk) : List Statement × Walk :=
  match inner with
  | some build => build chain (b.target? id slot) w
  | none => ([], w)

/-- The statement of a container.  A loop counts by one if its step is zero. -/
def container (b : Blueprint) (inner : Option ChainBuilder) (node : Node) (header : Header)
    (w : Walk) : Statement × Walk :=
  let w := b.checkBody inner node w
  match header with
  | .branch condition =>
    let (body, w) := b.bodyOf inner (.ifBody node.id) node.id .body w
    let (otherwise, w) := b.bodyOf inner (.ifElse node.id) node.id .otherwise w
    (.branch condition body otherwise, w)
  | .forLoop name start stop step =>
    let w := if step = 0 then w.warn (.zeroStep node.title) else w
    let step := if step = 0 then 1 else step
    let (body, w) := b.bodyOf inner (.forBody node.id) node.id .body w
    (.forLoop name (.number start) (.number stop) (.number step) body, w)
  | .whileLoop condition =>
    let (body, w) := b.bodyOf inner (.whileBody node.id) node.id .body w
    (.whileLoop condition body, w)

/-- The statement of a block that yields one. -/
def statement (b : Blueprint) (inner : Option ChainBuilder) (node : Node) (w : Walk) :
    Option Statement × Walk :=
  match node.kind? with
  | none => (some (.action (.unknown (node.blockType.getD ""))), w.warn (.unknownBlock node.id))
  | some k =>
    if k.isContainer then
      match headerOf? k node.params with
      | some header =>
        let (s, w) := b.container inner node header w
        (some s, w)
      | none => (none, w)
    else ((actionOf? k node.params).map Statement.action, w)

/-- The statements of a chain from a block on.  The blocks that the chain has met are passed along;
the fuel bounds their number. -/
def chainFrom (b : Blueprint) (inner : Option ChainBuilder) (chain : Chain) :
    (fuel : Nat) → (visited : List String) → Option String → Walk → List Statement × Walk
  | 0, _, _, w => ([], w)
  | _ + 1, _, none, w => ([], w)
  | fuel + 1, visited, some id, w =>
    if id ∈ visited then ([], w.fault (.cycle chain id))
    else
      match nodeById? b.nodes id with
      | none => ([], w)
      | some node =>
        let following := b.target? id .next
        if node.kind?.any Kind.isSilent then
          b.chainFrom inner chain fuel (id :: visited) following w
        else if id ∈ w.claimed then ([], w.fault (.shared id))
        else
          let (s, w) := b.statement inner node (w.claim id)
          let (rest, w) := b.chainFrom inner chain fuel (id :: visited) following w
          (s.toList ++ rest, w)

/-- The statements of a chain, where `room` more containers may stand inside each other.  No block
is met twice, so one step more than there are blocks is enough. -/
def build (b : Blueprint) : (room : Nat) → ChainBuilder
  | 0 => fun chain start w => b.chainFrom none chain (b.nodes.length + 1) [] start w
  | room + 1 => fun chain start w =>
    b.chainFrom (some (b.build room)) chain (b.nodes.length + 1) [] start w

/-- Where the chain of a root starts: at its body, else at the block after it.  An empty id counts
as no body. -/
def start? (b : Blueprint) (root : Option Node) : Option String :=
  root.bind fun n => ((b.target? n.id .body).bind nonEmpty?).or (b.target? n.id .next)

end Blueprint

end BlockSketch
