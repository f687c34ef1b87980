/-
**Graphs of sketches.**

A sketch is imported as a linear graph: the lines of its loop function that have the shape of a block
become the blocks of one chain, and a line with a lone closing brace becomes an end block if a
container is open.  All other lines are dropped.

Main definitions:

* `BlockSketch.loopBody?` — the lines of the loop function;
* `BlockSketch.importLines` — the blocks of the lines;
* `BlockSketch.linearGraph` — a chain of blocks as a graph;
* `BlockSketch.importSketch` — the graph of a sketch.
-/

import BlockSketch.Graph.Basic
import BlockSketch.Sketch.Recognise

set_option relaxedAutoImplicit false
set_option autoImplicit false

namespace BlockSketch

open BlockSketch.Text

/-! ### Lines -/

/-- The text up to the first closing brace at the start of a line. -/
def upToEnd? : List Char → Option (List Char)
  | [] => none
  | '\n' :: '\x7d' :: _ => some []
  | c :: cs => (upToEnd? cs).map (c :: ·)

/-- The body of a loop function that starts here. -/
def loopShape (s : List Char) : Option (List Char) := do
  let s ← afterWord? "void".toList s
  let s ← afterBlanks? s
  let s ← afterWord? "loop".toList s
  let s ← afterMark? '(' s
  let s ← afterMark? ')' s
  let s ← afterMark? '\x7b' s
  upToEnd? s

/-- The body of the first loop function of a sketch. -/
def loopBody? (text : List Char) : Option (List Char) :=
  search loopShape text

/-- The lines of a text without outer blanks and without the empty ones. -/
def bodyLines (body : List Char) : List (List Char) :=
  ((splitLines body).map trimChars).filter fun l => !l.isEmpty

/-! ### Blocks -/

/-- A block to be placed: its kind and the parameters that differ from the catalog's. -/
abbrev BlockEntry := Kind × Fields

/-- The blocks of the lines, where `depth` containers are open. -/
def importLines : (depth : Nat) → List (List Char) → Except TooManyDigits (List BlockEntry)
  | _, [] => .ok []
  | depth, line :: lines =>
    match recognise line with
    | some found => do
      let params ← found.params
      let rest ← importLines (if found.kind.isContainer then depth + 1 else depth) lines
      return (found.kind, params) :: rest
    | none =>
      if line = ['\x7d'] ∧ depth ≠ 0 then do
        let rest ← importLines (depth - 1) lines
        return (.endBlock, []) :: rest
      else importLines depth lines

/-! ### Chains -/

/-- The id of the block at a place of the chain. -/
def chainId (place : Nat) : String :=
  "node_" ++ toString place

/-- The blocks of a chain, from the given place on. -/
def chainNodes : (place : Nat) → List BlockEntry → List Node
  | _, [] => []
  | place, (k, params) :: rest =>
    Node.create k (chainId place) (.int 200) (.int (300 + 80 * (place - 1 : Int))) none params ::
      chainNodes (place + 1) rest

/-- The links of a chain, from the block before the given place on. -/
def chainEdges : (last : String) → (place : Nat) → List BlockEntry → List Edge
  | _, _, [] => []
  | last, place, _ :: rest =>
    let id := chainId place
    { id := "edge_" ++ last ++ "_" ++ id, source := last, target := id } ::
      chainEdges id (place + 1) rest

/-- The linear graph with both roots whose loop has the given chain. -/
def linearGraph (blocks : List BlockEntry) : Graph where
  version := 1
  nodes :=
    Node.create .setup "setup" (.int 60) (.int 60) ::
      Node.create .loop "loop" (.int 60) (.int 180) :: chainNodes 1 blocks
  edges := chainEdges "loop" 1 blocks

/-- The graph of a sketch.  Without a loop function it has its roots only. -/
def importSketch (text : String) : Except TooManyDigits Graph :=
  match loopBody? text.toList with
  | none => .ok (linearGraph [])
  | some body => (importLines 0 (bodyLines body)).map linearGraph

/-- Whether a sketch has a loop function that can be read. -/
def hasLoopBody (text : String) : Bool :=
  (loopBody? text.toList).isSome

/-- The message of a refused import. -/
def TooManyDigits.message (e : TooManyDigits) : String :=
  tooManyDigitsMessage e.count

end BlockSketch
