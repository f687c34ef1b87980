/-
**Outlines: what a chain unfolds to.**

A chain of blocks can be unfolded without any precaution: follow its next slots, and unfold the
bodies of each container on the way.  On a graph with cycles this has no end, and where two slots
lead to one block its part of the graph is unfolded twice.  The unfolding is a relation here, so that
a chain without a finite unfolding simply has none; its value is an *outline*, a tree of blocks.

Main definitions:

* `BlockSketch.Node.statement?` — the statement of a block whose bodies are given;
* `BlockSketch.Outline` — a chain of blocks, each with its two bodies;
* `BlockSketch.Outline.statements`, `BlockSketch.Outline.ids`, `BlockSketch.Outline.nesting` — the
  statements of an outline, the blocks that yield them, and how deep its containers are nested;
* `BlockSketch.Unfolds` — a chain unfolds to an outline.

Main results:

* `BlockSketch.Node.statement?_isSome` — **every block but a silent one has a statement**;
* `BlockSketch.Unfolds.unique` — a chain has at most one outline.
-/

import BlockSketch.Proofs.Slots

set_option relaxedAutoImplicit false
set_option autoImplicit false

namespace BlockSketch

/-! ### Blocks -/

/-- Containers with a second body. -/
def Kind.isBranch : Kind → Bool
  | .ifThen | .ifElse => true
  | _ => false

namespace Node

/-- Whether a block yields no statement where it stands in a chain. -/
def isSilent (n : Node) : Bool :=
  n.kind?.any Kind.isSilent

/-- Whether a block holds other blocks. -/
def isContainer (n : Node) : Bool :=
  n.kind?.any Kind.isContainer

/-- Whether a block is a container with a second body. -/
def isBranch (n : Node) : Bool :=
  n.kind?.any Kind.isBranch

theorem isContainer_of_isBranch {n : Node} (h : n.isBranch = true) : n.isContainer = true := by
  unfold isBranch at h
  unfold isContainer
  cases hk : n.kind? with
  | none => simp [hk] at h
  | some k => cases k <;> simp_all [Kind.isBranch, Kind.isContainer]

theorem isContainer_of_isSilent {n : Node} (h : n.isSilent = true) : n.isContainer = false := by
  unfold isSilent at h
  unfold isContainer
  cases hk : n.kind? with
  | none => rfl
  | some k =>
      rw [hk] at h
      cases k <;> first | rfl | exact absurd h (by decide)

theorem isBranch_of_not_isContainer {n : Node} (h : n.isContainer = false) :
    n.isBranch = false := by
  cases hb : n.isBranch with
  | false => rfl
  | true => rw [isContainer_of_isBranch hb] at h; simp at h

end Node

/-- The container with the given bodies.  A loop counts by one if its step is zero. -/
def Header.statement (h : Header) (body otherwise : List Statement) : Statement :=
  match h with
  | .branch condition => .branch condition body otherwise
  | .forLoop name start stop step =>
    .forLoop name (.number start) (.number stop) (.number (if step = 0 then 1 else step)) body
  | .whileLoop condition => .whileLoop condition body

/-- The statement of a block whose bodies have the given statements. -/
def Node.statement? (n : Node) (body otherwise : List Statement) : Option Statement :=
  match n.kind? with
  | none => some (.action (.unknown (n.blockType.getD "")))
  | some k =>
    if k.isSilent then none
    else if k.isContainer then (headerOf? k n.params).map fun h => h.statement body otherwise
    else (actionOf? k n.params).map Statement.action

/-! ### Parameters have fallbacks -/

/-- An integer that does not round to infinity counts as a number. -/
theorem Value.number?_int {n : Int} (h : n.natAbs < binary64Bound) :
    (Value.int n).number? = some (Dyadic.ofInt n) := by
  rw [Value.number?, if_pos h]

theorem lt_binary64Bound {n : Nat} (h : n < 10000) : n < binary64Bound :=
  Nat.lt_trans h (by decide +kernel)

section Fallback

variable (k : Kind) (key : String)

theorem textParam?_eq {d : String} (h : Catalog.default? k key = some (.string d)) (ps : Fields) :
    textParam? k ps key = some (Fields.text ps key d) := by
  simp [textParam?, h, Value.string?]

theorem expressionParam?_eq {d : String} (h : Catalog.default? k key = some (.string d))
    (ps : Fields) : expressionParam? k ps key = some (Fields.expression ps key d) := by
  simp [expressionParam?, h, Value.string?]

theorem numberParam?_eq {n : Int} (h : Catalog.default? k key = some (.int n))
    (hn : n.natAbs < 10000) (ps : Fields) :
    numberParam? k ps key = some (Fields.number ps key (Dyadic.ofInt n)) := by
  simp [numberParam?, h, Value.number?_int (lt_binary64Bound hn)]

theorem operandParam?_eq {n : Int} (h : Catalog.default? k key = some (.int n))
    (hn : n.natAbs < 10000) (ps : Fields) :
    operandParam? k ps key = some (.number (Fields.number ps key (Dyadic.ofInt n))) := by
  rw [operandParam?, numberParam?_eq k key h hn, Option.map_some]

end Fallback

/-- Every kind of container has a header, whatever its parameters are. -/
theorem headerOf?_isSome {k : Kind} (h : k.isContainer = true) (ps : Fields) :
    (headerOf? k ps).isSome = true := by
  cases k with
  | ifThen => simp [headerOf?, textParam?_eq .ifThen "condition" rfl]
  | ifElse => simp [headerOf?, textParam?_eq .ifElse "condition" rfl]
  | forLoop =>
      simp [headerOf?, textParam?_eq .forLoop "variable" rfl,
        numberParam?_eq .forLoop "start" rfl (by decide),
        numberParam?_eq .forLoop "end" rfl (by decide),
        numberParam?_eq .forLoop "step" rfl (by decide)]
  | whileLoop => simp [headerOf?, textParam?_eq .whileLoop "condition" rfl]
  | _ => simp [Kind.isContainer] at h

/-- Every kind of action has an action, whatever its parameters are. -/
theorem actionOf?_isSome {k : Kind} (hs : k.isSilent = false) (hc : k.isContainer = false)
    (ps : Fields) : (actionOf? k ps).isSome = true := by
  cases k with
  | comment => simp [actionOf?, textParam?_eq .comment "text" rfl]
  | delay => simp [actionOf?, operandParam?_eq .delay "ms" rfl (by decide)]
  | digitalWrite =>
      simp [actionOf?, operandParam?_eq .digitalWrite "pin" rfl (by decide),
        textParam?_eq .digitalWrite "value" rfl]
  | digitalRead =>
      simp [actionOf?, operandParam?_eq .digitalRead "pin" rfl (by decide),
        textParam?_eq .digitalRead "variable" rfl]
  | analogWrite =>
      simp [actionOf?, operandParam?_eq .analogWrite "pin" rfl (by decide),
        expressionParam?_eq .analogWrite "value" rfl]
  | analogRead =>
      simp [actionOf?, expressionParam?_eq .analogRead "pin" rfl,
        textParam?_eq .analogRead "variable" rfl]
  | servoAttach =>
      simp [actionOf?, textParam?_eq .servoAttach "variable" rfl,
        operandParam?_eq .servoAttach "pin" rfl (by decide)]
  | servoWrite =>
      simp [actionOf?, textParam?_eq .servoWrite "variable" rfl,
        expressionParam?_eq .servoWrite "angle" rfl]
  | assign =>
      simp [actionOf?, textParam?_eq .assign "name" rfl, expressionParam?_eq .assign "value" rfl]
  | change =>
      simp [actionOf?, textParam?_eq .change "name" rfl,
        operandParam?_eq .change "delta" rfl (by decide)]
  | arithmetic =>
      simp [actionOf?, textParam?_eq .arithmetic "target" rfl,
        expressionParam?_eq .arithmetic "left" rfl, textParam?_eq .arithmetic "op" rfl,
        expressionParam?_eq .arithmetic "right" rfl]
  | random =>
      simp [actionOf?, textParam?_eq .random "target" rfl,
        operandParam?_eq .random "min" rfl (by decide),
        operandParam?_eq .random "max" rfl (by decide)]
  | serialBegin => simp [actionOf?, operandParam?_eq .serialBegin "baud" rfl (by decide)]
  | serialPrint => simp [actionOf?, textParam?_eq .serialPrint "message" rfl]
  | serialPrintValue => simp [actionOf?, expressionParam?_eq .serialPrintValue "value" rfl]
  | setup | loop | global | pinMode | endBlock => exact absurd hs (by decide)
  | ifThen | ifElse | forLoop | whileLoop => exact absurd hc (by decide)

/-- **Every block but a silent one has a statement.** -/
theorem Node.statement?_isSome {n : Node} (h : n.isSilent = false)
    (body otherwise : List Statement) : (n.statement? body otherwise).isSome = true := by
  unfold Node.isSilent at h
  unfold Node.statement?
  cases hk : n.kind? with
  | none => rfl
  | some k =>
      have hs : k.isSilent = false := by simpa [hk] using h
      simp only [hs, Bool.false_eq_true, if_false]
      cases hc : k.isContainer with
      | true => simpa using headerOf?_isSome hc n.params
      | false => simpa using actionOf?_isSome hs hc n.params

theorem Node.statement?_of_isSilent {n : Node} (h : n.isSilent = true)
    (body otherwise : List Statement) : n.statement? body otherwise = none := by
  unfold Node.isSilent at h
  unfold Node.statement?
  cases hk : n.kind? with
  | none => simp [hk] at h
  | some k => simp [show k.isSilent = true by simpa [hk] using h]

/-! ### Outlines -/

/-- A chain of blocks, each with the chains of its two bodies. -/
inductive Outline where
  | done
  | block (node : Node) (body otherwise rest : Outline)

namespace Outline

/-- The statements of an outline.  Silent blocks yield none. -/
def statements : Outline → List Statement
  | done => []
  | block node body otherwise rest =>
    (node.statement? body.statements otherwise.statements).toList ++ rest.statements

/-- The blocks that yield a statement, each before its bodies. -/
def ids : Outline → List String
  | done => []
  | block node body otherwise rest =>
    (if node.isSilent then [] else [node.id]) ++ body.ids ++ otherwise.ids ++ rest.ids

/-- How many containers stand inside each other, the outermost included. -/
def nesting : Outline → Nat
  | done => 0
  | block node body otherwise rest =>
    max (if node.isContainer then max body.nesting otherwise.nesting + 1 else 0) rest.nesting

/-- The number of blocks of the chain itself. -/
def length : Outline → Nat
  | done => 0
  | block _ _ _ rest => rest.length + 1

section Block

variable {n : Node} (body otherwise rest : Outline)

theorem ids_block (h : n.isSilent = false) :
    (block n body otherwise rest).ids = n.id :: (body.ids ++ (otherwise.ids ++ rest.ids)) := by
  simp [ids, h]

theorem ids_silent (h : n.isSilent = true) : (block n done done rest).ids = rest.ids := by
  simp [ids, h]

end Block

end Outline

namespace Blueprint

/-- Where the body of a block starts. -/
def bodyStart? (b : Blueprint) (n : Node) : Option String :=
  if n.isContainer then b.target? n.id .body else none

/-- Where the second body of a block starts. -/
def otherwiseStart? (b : Blueprint) (n : Node) : Option String :=
  if n.isBranch then b.target? n.id .otherwise else none

section Leaf

variable {b : Blueprint} {n : Node}

theorem bodyStart?_eq_none (h : n.isContainer = false) : b.bodyStart? n = none := by
  simp [bodyStart?, h]

theorem otherwiseStart?_eq_none (h : n.isContainer = false) : b.otherwiseStart? n = none := by
  simp [otherwiseStart?, Node.isBranch_of_not_isContainer h]

end Leaf

end Blueprint

/-- The chain that starts at the given block unfolds to an outline.  Nothing stops the unfolding but
the end of a chain: it knows neither what was met before nor how deep it is. -/
inductive Unfolds (b : Blueprint) : Option String → Outline → Prop
  | done : Unfolds b none .done
  | block {id : String} {node : Node} {body otherwise rest : Outline} :
      nodeById? b.nodes id = some node →
      Unfolds b (b.bodyStart? node) body →
      Unfolds b (b.otherwiseStart? node) otherwise →
      Unfolds b (b.target? id .next) rest →
      Unfolds b (some id) (.block node body otherwise rest)

/-- A chain has at most one outline. -/
theorem Unfolds.unique {b : Blueprint} {start : Option String} {o o' : Outline}
    (h : Unfolds b start o) (h' : Unfolds b start o') : o = o' := by
  induction h generalizing o' with
  | done =>
      cases h' with
      | done => rfl
  | block hn _ _ _ ihbody ihotherwise ihrest =>
      cases h' with
      | block hn' hbody hotherwise hrest =>
          obtain rfl := Option.some.inj (hn.symm.trans hn')
          rw [ihbody hbody, ihotherwise hotherwise, ihrest hrest]

/-- The outline of a chain starts with its first block. -/
theorem Unfolds.exists_block {b : Blueprint} {id : String} {node : Node} {o : Outline}
    (h : Unfolds b (some id) o) (hn : nodeById? b.nodes id = some node) :
    ∃ body otherwise rest, o = .block node body otherwise rest ∧
      Unfolds b (b.bodyStart? node) body ∧ Unfolds b (b.otherwiseStart? node) otherwise ∧
      Unfolds b (b.target? id .next) rest := by
  cases h with
  | block hn' hbody hother hrest =>
      obtain rfl := Option.some.inj (hn.symm.trans hn')
      exact ⟨_, _, _, rfl, hbody, hother, hrest⟩

end BlockSketch
