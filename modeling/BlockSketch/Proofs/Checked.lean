/-
**Building with nothing missing.**

`BlockSketch.Graph.build` is total: where an id names no block, where the catalog has no fallback
for a parameter or one of another form, and where a block yields no statement, it goes on without.
Here the same building is written down so that each of these is an error, and the two are shown to
agree on every graph.  So none of the errors can happen, and what `BlockSketch.Graph.build` does
about them is never used.

Main definitions:

* `BlockSketch.Gap` — what a building can miss;
* `BlockSketch.Checked.action`, `BlockSketch.Checked.header`, `BlockSketch.Checked.declaration` —
  what a block is, where every fallback has to be there;
* `BlockSketch.Checked.chainFrom`, `BlockSketch.Checked.build` — the statements of a chain, where
  every block of it has to be there and to yield a statement;
* `BlockSketch.Graph.checkedBodies`, `BlockSketch.Graph.checkedDeclarations` — the statements of the
  two roots, and the declarations of the variable blocks.

Main results:

* `BlockSketch.Checked.build_eq_ok` — a chain of blocks is built with nothing missing;
* `BlockSketch.Graph.checkedBodies_eq_ok`, `BlockSketch.Graph.checkedDeclarations_eq_ok` — **every
  graph is built with nothing missing**.
-/

import BlockSketch.Proofs.Walks

set_option relaxedAutoImplicit false
set_option autoImplicit false

namespace BlockSketch

/-- What a building can miss. -/
inductive Gap where
  /-- No block has the id. -/
  | block (id : String)
  /-- The catalog has no such parameter. -/
  | fallback (k : Kind) (key : String)
  /-- The parameter of the catalog is not of the form that is asked for. -/
  | form (k : Kind) (key : String)
  /-- A block of the kind yields no statement. -/
  | statement (k : Kind)
  /-- The chain goes on after every block has been met. -/
  | length (chain : Chain)
  deriving DecidableEq

namespace Checked

/-! ### The parts of a block -/

/-- The catalog's value of a parameter. -/
def fallback {α : Type} (k : Kind) (key : String) (read? : Value → Option α) : Except Gap α :=
  match Catalog.default? k key with
  | none => .error (.fallback k key)
  | some v =>
    match read? v with
    | none => .error (.form k key)
    | some d => .ok d

/-- A text parameter. -/
def text (k : Kind) (ps : Fields) (key : String) : Except Gap String :=
  (fallback k key Value.string?).map fun d => Fields.text ps key d

/-- An expression. -/
def expression (k : Kind) (ps : Fields) (key : String) : Except Gap String :=
  (fallback k key Value.string?).map fun d => Fields.expression ps key d

/-- A numeric parameter. -/
def number (k : Kind) (ps : Fields) (key : String) : Except Gap Dyadic :=
  (fallback k key Value.number?).map fun d => Fields.number ps key d

/-- A numeric parameter as an operand. -/
def operand (k : Kind) (ps : Fields) (key : String) : Except Gap Operand :=
  (number k ps key).map Operand.number

/-- A text parameter without outer blanks. -/
def trimmed (k : Kind) (ps : Fields) (key : String) : Except Gap String :=
  (fallback k key Value.string?).map fun d => trimmedOr (Fields.text ps key d) d

/-- The action of a block. -/
def action (k : Kind) (ps : Fields) : Except Gap Action := do
  match k with
  | .comment => return .comment (← text k ps "text")
  | .delay => return .delay (← operand k ps "ms")
  | .digitalWrite => return .digitalWrite (← operand k ps "pin") (← text k ps "value")
  | .digitalRead => return .digitalRead (← operand k ps "pin") (← text k ps "variable")
  | .analogWrite => return .analogWrite (← operand k ps "pin") (← expression k ps "value")
  | .analogRead => return .analogRead (← expression k ps "pin") (← text k ps "variable")
  | .servoAttach => return .servoAttach (← text k ps "variable") (← operand k ps "pin")
  | .servoWrite => return .servoWrite (← text k ps "variable") (← expression k ps "angle")
  | .assign => return .assign (← text k ps "name") (← expression k ps "value")
  | .change => return .change (← text k ps "name") (← operand k ps "delta")
  | .arithmetic =>
    return .arithmetic (← text k ps "target") (← expression k ps "left") (← text k ps "op")
      (← expression k ps "right")
  | .random => return .random (← text k ps "target") (← operand k ps "min") (← operand k ps "max")
  | .serialBegin => return .serialBegin (← operand k ps "baud")
  | .serialPrint => return .serialPrint (← text k ps "message")
  | .serialPrintValue =>
    return .serialPrintValue (← expression k ps "value") (notFalse ps "newline")
  | _ => throw (.statement k)

/-- The header of a container. -/
def header (k : Kind) (ps : Fields) : Except Gap Header := do
  match k with
  | .ifThen | .ifElse => return .branch (← text k ps "condition")
  | .forLoop =>
    return .forLoop (← text k ps "variable") (← number k ps "start") (← number k ps "end")
      (← number k ps "step")
  | .whileLoop => return .whileLoop (← text k ps "condition")
  | _ => throw (.statement k)

/-- The declaration that a variable block makes. -/
def declaration (ps : Fields) : Except Gap Declaration := do
  let name ← trimmed .global ps "name"
  let type ← trimmed .global ps "varType"
  return { name := name, type := type, value := Fields.expression ps "value" "0" }

/-! ### Chains -/

/-- A way to turn a chain into statements. -/
abbrev Builder := Chain → Option String → Walk → Except Gap (List Statement × Walk)

/-- The statements of a body; none if there is no way to build it. -/
def bodyOf (b : Blueprint) (inner : Option Builder) (chain : Chain) (id : String) (slot : Slot)
    (w : Walk) : Except Gap (List Statement × Walk) :=
  match inner with
  | some build => build chain (b.target? id slot) w
  | none => .ok ([], w)

/-- The statement of a container, where `room` containers may stand inside each other. -/
def container (b : Blueprint) (room : Nat) (inner : Option Builder) (node : Node) (h : Header)
    (w : Walk) : Except Gap (Statement × Walk) := do
  let w := b.checkBody (b.inner? room) node w
  match h with
  | .branch condition =>
    let (body, w) ← bodyOf b inner (.ifBody node.id) node.id .body w
    let (otherwise, w) ← bodyOf b inner (.ifElse node.id) node.id .otherwise w
    return (.branch condition body otherwise, w)
  | .forLoop name start stop step =>
    let w := if step = 0 then w.warn (.zeroStep node.title) else w
    let step := if step = 0 then 1 else step
    let (body, w) ← bodyOf b inner (.forBody node.id) node.id .body w
    return (.forLoop name (.number start) (.number stop) (.number step) body, w)
  | .whileLoop condition =>
    let (body, w) ← bodyOf b inner (.whileBody node.id) node.id .body w
    return (.whileLoop condition body, w)

/-- The statement of a block. -/
def statement (b : Blueprint) (room : Nat) (inner : Option Builder) (node : Node) (w : Walk) :
    Except Gap (Statement × Walk) := do
  match node.kind? with
  | none =>
    return (.action (.unknown (node.blockType.getD "")), w.warn (.unknownBlock node.id))
  | some k =>
    if k.isContainer then container b room inner node (← header k node.params) w
    else return (.action (← action k node.params), w)

/-- The statements of a chain from a block on. -/
def chainFrom (b : Blueprint) (room : Nat) (inner : Option Builder) (chain : Chain) :
    (fuel : Nat) → (visited : List String) → Option String → Walk →
      Except Gap (List Statement × Walk)
  | 0, _, _, _ => .error (.length chain)
  | _ + 1, _, none, w => .ok ([], w)
  | fuel + 1, visited, some id, w => do
    if id ∈ visited then return ([], w.fault (.cycle chain id))
    match nodeById? b.nodes id with
    | none => throw (.block id)
    | some node =>
      let following := b.target? id .next
      if node.isSilent then chainFrom b room inner chain fuel (id :: visited) following w
      else if id ∈ w.claimed then return ([], w.fault (.shared id))
      else
        let (s, w) ← statement b room inner node (w.claim id)
        let (rest, w) ← chainFrom b room inner chain fuel (id :: visited) following w
        return (s :: rest, w)

/-- The statements of a chain, where `room` more containers may stand inside each other. -/
def build (b : Blueprint) : (room : Nat) → Builder
  | 0 => fun chain start w => chainFrom b 0 none chain (b.nodes.length + 1) [] start w
  | room + 1 => fun chain start w =>
    chainFrom b (room + 1) (some (build b room)) chain (b.nodes.length + 1) [] start w

/-! ### No part of a block is missing -/

/-- Forgetting what is missing. -/
theorem toOption_bind {ε α β : Type} (x : Except ε α) (f : α → Except ε β) :
    (x >>= f).toOption = x.toOption.bind fun a => (f a).toOption := by
  cases x <;> rfl

theorem toOption_map {ε α β : Type} (f : α → β) (x : Except ε α) :
    (x.map f).toOption = x.toOption.map f := by
  cases x <;> rfl

/-- What is not an error is a result. -/
theorem eq_ok_of_toOption {ε α : Type} {x : Except ε α} {a : α} (h : x.toOption = some a) :
    x = .ok a := by
  cases x with
  | error e => cases h
  | ok b => rw [Option.some.inj h]

section Parts

variable (k : Kind) (ps : Fields) (key : String)

theorem toOption_fallback {α : Type} (read? : Value → Option α) :
    (fallback k key read?).toOption = (Catalog.default? k key).bind read? := by
  unfold fallback
  cases Catalog.default? k key with
  | none => rfl
  | some v =>
      rw [Option.bind_some]
      dsimp only
      cases read? v <;> rfl

theorem toOption_text : (text k ps key).toOption = textParam? k ps key := by
  rw [text, toOption_map, toOption_fallback, textParam?]

theorem toOption_expression : (expression k ps key).toOption = expressionParam? k ps key := by
  rw [expression, toOption_map, toOption_fallback, expressionParam?]

theorem toOption_number : (number k ps key).toOption = numberParam? k ps key := by
  rw [number, toOption_map, toOption_fallback, numberParam?]

theorem toOption_operand : (operand k ps key).toOption = operandParam? k ps key := by
  rw [operand, toOption_map, toOption_number, operandParam?]

theorem toOption_trimmed : (trimmed k ps key).toOption = trimmedParam? k ps key := by
  rw [trimmed, toOption_map, toOption_fallback, trimmedParam?]

theorem toOption_pure {ε α : Type} (a : α) : (pure a : Except ε α).toOption = some a := rfl

theorem toOption_throw {ε α : Type} (e : ε) : (throw e : Except ε α).toOption = none := rfl

theorem toOption_action : (action k ps).toOption = actionOf? k ps := by
  cases k
  all_goals simp only [action, actionOf?, toOption_bind, toOption_pure, toOption_throw, toOption_text,
    toOption_operand, toOption_expression, Option.bind_eq_bind, Option.pure_def]

theorem toOption_header : (header k ps).toOption = headerOf? k ps := by
  cases k
  all_goals simp only [header, headerOf?, toOption_bind, toOption_pure, toOption_throw, toOption_text,
    toOption_number, Option.bind_eq_bind, Option.pure_def]

theorem toOption_declaration : (declaration ps).toOption = declarationOf? ps := by
  simp only [declaration, declarationOf?, toOption_bind, toOption_pure, toOption_trimmed,
    Option.bind_eq_bind, Option.pure_def]

/-- Every kind of action is built with nothing missing, whatever its parameters are. -/
theorem exists_action (hs : k.isSilent = false) (hc : k.isContainer = false) :
    ∃ a, actionOf? k ps = some a ∧ action k ps = .ok a := by
  obtain ⟨a, ha⟩ := Option.isSome_iff_exists.1 (actionOf?_isSome hs hc ps)
  exact ⟨a, ha, eq_ok_of_toOption ((toOption_action k ps).trans ha)⟩

/-- Every kind of container is built with nothing missing, whatever its parameters are. -/
theorem exists_header (hc : k.isContainer = true) :
    ∃ h, headerOf? k ps = some h ∧ header k ps = .ok h := by
  obtain ⟨h, hh⟩ := Option.isSome_iff_exists.1 (headerOf?_isSome hc ps)
  exact ⟨h, hh, eq_ok_of_toOption ((toOption_header k ps).trans hh)⟩

/-- Every variable block declares a variable, whatever its parameters are. -/
theorem exists_declaration : ∃ d, declarationOf? ps = some d ∧ declaration ps = .ok d := by
  have hname : (Catalog.default? .global "name").bind Value.string? = some "value" := rfl
  have htype : (Catalog.default? .global "varType").bind Value.string? = some "int" := rfl
  have hd : (declarationOf? ps).isSome = true := by
    simp [declarationOf?, trimmedParam?, hname, htype]
  obtain ⟨d, hd⟩ := Option.isSome_iff_exists.1 hd
  exact ⟨d, hd, eq_ok_of_toOption ((toOption_declaration ps).trans hd)⟩

end Parts

/-! ### No block of a chain is missing -/

section Chains

variable {b : Blueprint} {room : Nat} {inner : Option Builder}
  (hin : ∀ chain id slot w,
    bodyOf b inner chain id slot w = .ok (b.bodyOf (b.inner? room) chain id slot w))
include hin

theorem container_eq_ok (node : Node) (h : Header) (w : Walk) :
    container b room inner node h w = .ok (b.container (b.inner? room) node h w) := by
  cases h <;> simp only [container, Blueprint.container, hin] <;> rfl

/-- A block that is not silent yields a statement. -/
theorem statement_eq_ok {node : Node} (hs : node.isSilent = false) (w : Walk) :
    ∃ s w', b.statement (b.inner? room) node w = (some s, w') ∧
      statement b room inner node w = .ok (s, w') := by
  unfold Blueprint.statement statement
  cases hk : node.kind? with
  | none => exact ⟨_, _, rfl, rfl⟩
  | some k =>
      have hks : k.isSilent = false := by simpa [Node.isSilent, hk] using hs
      dsimp only
      cases hc : k.isContainer with
      | true =>
          obtain ⟨h, hh, hok⟩ := exists_header k node.params hc
          rw [if_pos rfl, if_pos rfl, hh, hok]
          exact ⟨_, _, rfl, container_eq_ok hin node h w⟩
      | false =>
          obtain ⟨a, ha, hok⟩ := exists_action k node.params hks hc
          rw [if_neg (by simp), if_neg (by simp), ha, hok]
          exact ⟨_, _, rfl, rfl⟩

/-- From a block on, a chain is built with nothing missing. -/
theorem chainFrom_eq_ok (hb : b.Closed) (chain : Chain) (fuel : Nat) :
    ∀ (visited : List String) (start : Option String) (w : Walk),
      Fuelled b.nodes visited fuel → (∀ id, start = some id → (nodeById? b.nodes id).isSome) →
      chainFrom b room inner chain fuel visited start w =
        .ok (b.chainFrom (b.inner? room) chain fuel visited start w) := by
  induction fuel with
  | zero =>
      intro visited start w hfuel _
      exact absurd hfuel.pos (Nat.lt_irrefl 0)
  | succ fuel ih =>
      intro visited start w hfuel hstart
      cases start with
      | none => rfl
      | some id =>
          rw [chainFrom, Blueprint.chainFrom]
          by_cases hv : id ∈ visited
          · rw [if_pos hv, if_pos hv]
            rfl
          · obtain ⟨node, hn⟩ := Option.isSome_iff_exists.1 (hstart id rfl)
            -- the chain after this block, in any state
            have hrest (w : Walk) := ih (id :: visited) (b.target? id .next) w
              (hfuel.visit hv (hstart id rfl)) (fun _ h => hb h)
            rw [if_neg hv, if_neg hv, hn]
            dsimp only
            change _ = Except.ok (if node.isSilent then _ else _)
            by_cases hs : node.isSilent = true
            · rw [if_pos hs, if_pos hs]
              exact hrest w
            · rw [if_neg hs, if_neg hs]
              rw [Bool.not_eq_true] at hs
              by_cases hc : id ∈ w.claimed
              · rw [if_pos hc, if_pos hc]
                rfl
              · obtain ⟨s, w', heq, hok⟩ := statement_eq_ok hin hs (w.claim id)
                rw [if_neg hc, if_neg hc, heq, hok]
                change (chainFrom b room inner chain fuel (id :: visited) _ w' >>= _) = _
                rw [hrest w']
                rfl

end Chains

/-- A chain of blocks is built with nothing missing. -/
theorem build_eq_ok {b : Blueprint} (hb : b.Closed) (room : Nat) (chain : Chain)
    (start : Option String) (w : Walk)
    (hstart : ∀ id, start = some id → (nodeById? b.nodes id).isSome) :
    build b room chain start w = .ok (b.build room chain start w) := by
  induction room generalizing chain start w with
  | zero =>
      exact chainFrom_eq_ok (fun _ _ _ _ => rfl) hb chain _ [] start w (Fuelled.start _) hstart
  | succ room ih =>
      have hin (chain : Chain) (id : String) (slot : Slot) (w : Walk) :
          bodyOf b (some (build b room)) chain id slot w =
            .ok (b.bodyOf (b.inner? (room + 1)) chain id slot w) :=
        ih chain _ w fun _ h => hb h
      exact chainFrom_eq_ok hin hb chain _ [] start w (Fuelled.start _) hstart

end Checked

/-! ### Graphs -/

namespace Graph

/-- The statements of setup and of loop. -/
def checkedBodies (g : Graph) : Except Gap (List Statement × List Statement) := do
  let (setup, w) ← Checked.build g.blueprint maxNesting .setup (g.start? .setup) g.firstWalk
  let (loop, _) ← Checked.build g.blueprint maxNesting .loop (g.start? .loop) w
  return (setup, loop)

/-- The declarations of the variable blocks. -/
def checkedDeclarations (g : Graph) : Except Gap (List Declaration) :=
  (g.nodes.filter fun n => n.hasKind .global).mapM fun n => Checked.declaration n.params

/-- **Every graph is built with nothing missing.** -/
theorem checkedBodies_eq_ok (g : Graph) :
    g.checkedBodies = .ok (g.build.setup, g.build.loop) := by
  have hstart (k : Kind) : ∀ id, g.start? k = some id → (nodeById? g.blueprint.nodes id).isSome :=
    fun _ h => g.blueprint_closed.start? h
  rw [checkedBodies, Checked.build_eq_ok g.blueprint_closed _ _ _ _ (hstart .setup)]
  change (Checked.build g.blueprint maxNesting .loop (g.start? .loop) g.walkSetup.2 >>= _) = _
  rw [Checked.build_eq_ok g.blueprint_closed _ _ _ _ (hstart .loop)]
  rfl

/-- Every variable block declares a variable. -/
theorem checkedDeclarations_eq_ok (g : Graph) :
    ∃ ds, g.checkedDeclarations = .ok ds ∧ explicitGlobals g.nodes = distinctNames ds := by
  unfold checkedDeclarations explicitGlobals
  induction g.nodes.filter fun n => n.hasKind .global with
  | nil => exact ⟨[], rfl, rfl⟩
  | cons n ns ih =>
      obtain ⟨d, hd, hok⟩ := Checked.exists_declaration n.params
      obtain ⟨ds, hds, heq⟩ := ih
      refine ⟨d :: ds, ?_, ?_⟩
      · rw [List.mapM_cons, hok, hds]
        rfl
      · rw [List.filterMap_cons, hd]
        dsimp only
        rw [distinctNames, heq, distinctNames]

end Graph

end BlockSketch
