/-
**Each block is rendered once and in order.**

A walk claims a block, builds its bodies, and only then puts its statement in front of what follows.
Whatever cuts the walk short on the way, the claimed blocks and the statements stay in step: the
`i`-th claimed block is the one that the `i`-th statement renders, where statements are counted each
before its bodies.

What it means that a statement renders a block is said here field by field, from the parameters of
the block and those of the catalog, and without the functions that build statements.

Main definitions:

* `BlockSketch.Node.param?` — a parameter of a block, or else the one of the catalog;
* `BlockSketch.Node.RendersAs` — the statement of a block, up to its bodies;
* `BlockSketch.Statement.body`, `BlockSketch.Statement.otherwise` — the bodies of a statement.

Main results:

* `BlockSketch.Node.rendersAs_of_statement?` — blocks are built as what they render as;
* `BlockSketch.Walks.exists_rendered` — a walk claims the blocks of its statements, in order;
* `BlockSketch.Graph.claims_rendered_in_order` — **each block is rendered once and in order**.
-/

import BlockSketch.Proofs.Reachable
import Mathlib.Data.List.Forall2

set_option relaxedAutoImplicit false
set_option autoImplicit false

namespace BlockSketch

/-! ### Parameters -/

/-- The text that a value is as an expression: its own if it is a text, else that of its number. -/
def Value.expression? : Value → Option String
  | .string s => some s
  | v => v.number?.map numberText

namespace Node

/-- What a parameter of a block is read as: the value that is given, if it can be read, else the one
that the catalog has for the block's kind. -/
def param? {α : Type} (n : Node) (given fallback : Value → Option α) (key : String) : Option α :=
  ((Fields.get? n.params key).bind given).or
    (n.kind?.bind fun k => (Catalog.default? k key).bind fallback)

/-- A text parameter. -/
def paramText? (n : Node) (key : String) : Option String :=
  n.param? Value.string? Value.string? key

/-- A numeric parameter. -/
def paramNumber? (n : Node) (key : String) : Option Dyadic :=
  n.param? Value.number? Value.number? key

/-- An expression. -/
def paramExpression? (n : Node) (key : String) : Option String :=
  n.param? Value.expression? Value.string? key

/-- The operand is the number that a parameter is read as. -/
def HasOperand (n : Node) (key : String) (o : Operand) : Prop :=
  ∃ x, n.paramNumber? key = some x ∧ o = .number x

/-- The statement of a block, up to its bodies.  A block without a kind is rendered by its tag, and a
loop counts by one if its step is zero. -/
def RendersAs (n : Node) : Statement → Prop
  | .action (.comment text) => n.kind? = some .comment ∧ n.paramText? "text" = some text
  | .action (.delay ms) => n.kind? = some .delay ∧ n.HasOperand "ms" ms
  | .action (.digitalWrite pin level) =>
    n.kind? = some .digitalWrite ∧ n.HasOperand "pin" pin ∧ n.paramText? "value" = some level
  | .action (.digitalRead pin name) =>
    n.kind? = some .digitalRead ∧ n.HasOperand "pin" pin ∧ n.paramText? "variable" = some name
  | .action (.analogWrite pin value) =>
    n.kind? = some .analogWrite ∧ n.HasOperand "pin" pin ∧ n.paramExpression? "value" = some value
  | .action (.analogRead pin name) =>
    n.kind? = some .analogRead ∧ n.paramExpression? "pin" = some pin ∧
      n.paramText? "variable" = some name
  | .action (.servoAttach name pin) =>
    n.kind? = some .servoAttach ∧ n.paramText? "variable" = some name ∧ n.HasOperand "pin" pin
  | .action (.servoWrite name angle) =>
    n.kind? = some .servoWrite ∧ n.paramText? "variable" = some name ∧
      n.paramExpression? "angle" = some angle
  | .action (.assign name value) =>
    n.kind? = some .assign ∧ n.paramText? "name" = some name ∧
      n.paramExpression? "value" = some value
  | .action (.change name delta) =>
    n.kind? = some .change ∧ n.paramText? "name" = some name ∧ n.HasOperand "delta" delta
  | .action (.arithmetic target left op right) =>
    n.kind? = some .arithmetic ∧ n.paramText? "target" = some target ∧
      n.paramExpression? "left" = some left ∧ n.paramText? "op" = some op ∧
      n.paramExpression? "right" = some right
  | .action (.random target low high) =>
    n.kind? = some .random ∧ n.paramText? "target" = some target ∧ n.HasOperand "min" low ∧
      n.HasOperand "max" high
  | .action (.serialBegin baud) => n.kind? = some .serialBegin ∧ n.HasOperand "baud" baud
  | .action (.serialPrint message) =>
    n.kind? = some .serialPrint ∧ n.paramText? "message" = some message
  | .action (.serialPrintValue value newline) =>
    n.kind? = some .serialPrintValue ∧ n.paramExpression? "value" = some value ∧
      (newline = false ↔ Fields.get? n.params "newline" = some (.bool false))
  | .action (.unknown tag) => n.kind? = none ∧ tag = n.blockType.getD ""
  | .action (.foreign _) => False
  | .branch condition _ _ =>
    (n.kind? = some .ifThen ∨ n.kind? = some .ifElse) ∧ n.paramText? "condition" = some condition
  | .forLoop name start stop step _ =>
    n.kind? = some .forLoop ∧ n.paramText? "variable" = some name ∧ n.HasOperand "start" start ∧
      n.HasOperand "end" stop ∧
      ∃ x, n.paramNumber? "step" = some x ∧ step = .number (if x = 0 then 1 else x)
  | .whileLoop condition _ =>
    n.kind? = some .whileLoop ∧ n.paramText? "condition" = some condition

section Param

variable {n : Node} {k : Kind} {key : String}

/-- A value that is given counts, and otherwise the one of the catalog. -/
theorem param?_eq {α : Type} {given fallback : Value → Option α} {d : α} (hk : n.kind? = some k)
    (hd : (Catalog.default? k key).bind fallback = some d) :
    n.param? given fallback key = some (((Fields.get? n.params key).bind given).getD d) := by
  rw [param?, hk, Option.bind_some, hd]
  cases (Fields.get? n.params key).bind given <;> rfl

theorem paramText?_of_textParam? {s : String} (hk : n.kind? = some k)
    (h : textParam? k n.params key = some s) : n.paramText? key = some s := by
  obtain ⟨d, hd, rfl⟩ := Option.map_eq_some_iff.1 h
  exact param?_eq hk hd

theorem paramNumber?_of_numberParam? {x : Dyadic} (hk : n.kind? = some k)
    (h : numberParam? k n.params key = some x) : n.paramNumber? key = some x := by
  obtain ⟨d, hd, rfl⟩ := Option.map_eq_some_iff.1 h
  exact param?_eq hk hd

theorem hasOperand_of_operandParam? {o : Operand} (hk : n.kind? = some k)
    (h : operandParam? k n.params key = some o) : n.HasOperand key o := by
  obtain ⟨x, hx, rfl⟩ := Option.map_eq_some_iff.1 h
  exact ⟨x, paramNumber?_of_numberParam? hk hx, rfl⟩

theorem paramExpression?_of_expressionParam? {s : String} (hk : n.kind? = some k)
    (h : expressionParam? k n.params key = some s) : n.paramExpression? key = some s := by
  obtain ⟨d, hd, rfl⟩ := Option.map_eq_some_iff.1 h
  rw [paramExpression?, param?_eq hk hd, Fields.expression.eq_def]
  cases Fields.get? n.params key with
  | none => rfl
  | some v =>
      cases v with
      | string s => rfl
      | _ =>
          dsimp only [Option.bind_some, Value.expression?]
          split <;> simp_all

theorem notFalse_eq_false_iff : notFalse n.params key = false ↔
    Fields.get? n.params key = some (.bool false) := by
  unfold notFalse
  split <;> simp_all

end Param

/-! ### Blocks are built as what they render as -/

variable {n : Node} {k : Kind}

theorem rendersAs_of_actionOf? {a : Action} (hk : n.kind? = some k)
    (ha : actionOf? k n.params = some a) : n.RendersAs (.action a) := by
  have text {key s : String} (h : textParam? k n.params key = some s) :=
    paramText?_of_textParam? hk h
  have operand {key : String} {o : Operand} (h : operandParam? k n.params key = some o) :=
    hasOperand_of_operandParam? hk h
  have expression {key s : String} (h : expressionParam? k n.params key = some s) :=
    paramExpression?_of_expressionParam? hk h
  cases k
  all_goals simp only [actionOf?, Option.pure_def, Option.bind_eq_bind, Option.bind_eq_some_iff,
    Option.some.injEq, reduceCtorEq] at ha
  case comment =>
    obtain ⟨t, ht, rfl⟩ := ha
    exact ⟨hk, text ht⟩
  case delay =>
    obtain ⟨ms, hms, rfl⟩ := ha
    exact ⟨hk, operand hms⟩
  case digitalWrite =>
    obtain ⟨pin, hpin, level, hlevel, rfl⟩ := ha
    exact ⟨hk, operand hpin, text hlevel⟩
  case digitalRead =>
    obtain ⟨pin, hpin, name, hname, rfl⟩ := ha
    exact ⟨hk, operand hpin, text hname⟩
  case analogWrite =>
    obtain ⟨pin, hpin, value, hvalue, rfl⟩ := ha
    exact ⟨hk, operand hpin, expression hvalue⟩
  case analogRead =>
    obtain ⟨pin, hpin, name, hname, rfl⟩ := ha
    exact ⟨hk, expression hpin, text hname⟩
  case servoAttach =>
    obtain ⟨name, hname, pin, hpin, rfl⟩ := ha
    exact ⟨hk, text hname, operand hpin⟩
  case servoWrite =>
    obtain ⟨name, hname, angle, hangle, rfl⟩ := ha
    exact ⟨hk, text hname, expression hangle⟩
  case assign =>
    obtain ⟨name, hname, value, hvalue, rfl⟩ := ha
    exact ⟨hk, text hname, expression hvalue⟩
  case change =>
    obtain ⟨name, hname, delta, hdelta, rfl⟩ := ha
    exact ⟨hk, text hname, operand hdelta⟩
  case arithmetic =>
    obtain ⟨target, htarget, left, hleft, op, hop, right, hright, rfl⟩ := ha
    exact ⟨hk, text htarget, expression hleft, text hop, expression hright⟩
  case random =>
    obtain ⟨target, htarget, low, hlow, high, hhigh, rfl⟩ := ha
    exact ⟨hk, text htarget, operand hlow, operand hhigh⟩
  case serialBegin =>
    obtain ⟨baud, hbaud, rfl⟩ := ha
    exact ⟨hk, operand hbaud⟩
  case serialPrint =>
    obtain ⟨message, hmessage, rfl⟩ := ha
    exact ⟨hk, text hmessage⟩
  case serialPrintValue =>
    obtain ⟨value, hvalue, rfl⟩ := ha
    exact ⟨hk, expression hvalue, notFalse_eq_false_iff⟩

theorem rendersAs_of_headerOf? {h : Header} (hk : n.kind? = some k)
    (hh : headerOf? k n.params = some h) (body otherwise : List Statement) :
    n.RendersAs (h.statement body otherwise) := by
  have text {key s : String} (h : textParam? k n.params key = some s) :=
    paramText?_of_textParam? hk h
  have number {key : String} {x : Dyadic} (h : numberParam? k n.params key = some x) :=
    paramNumber?_of_numberParam? hk h
  cases k
  all_goals simp only [headerOf?, Option.pure_def, Option.bind_eq_bind, Option.bind_eq_some_iff,
    Option.some.injEq, reduceCtorEq] at hh
  case ifThen =>
    obtain ⟨c, hc, rfl⟩ := hh
    exact ⟨Or.inl hk, text hc⟩
  case ifElse =>
    obtain ⟨c, hc, rfl⟩ := hh
    exact ⟨Or.inr hk, text hc⟩
  case forLoop =>
    obtain ⟨name, hname, start, hstart, stop, hstop, step, hstep, rfl⟩ := hh
    exact ⟨hk, text hname, ⟨start, number hstart, rfl⟩, ⟨stop, number hstop, rfl⟩, step,
      number hstep, rfl⟩
  case whileLoop =>
    obtain ⟨c, hc, rfl⟩ := hh
    exact ⟨hk, text hc⟩

/-- The three forms of a statement that is built from a block. -/
theorem statement?_cases {body otherwise : List Statement} {s : Statement}
    (h : n.statement? body otherwise = some s) :
    (n.kind? = none ∧ s = .action (.unknown (n.blockType.getD ""))) ∨
      ∃ k, n.kind? = some k ∧
        ((k.isContainer = false ∧ ∃ a, actionOf? k n.params = some a ∧ s = .action a) ∨
          k.isContainer = true ∧
            ∃ header, headerOf? k n.params = some header ∧ s = header.statement body otherwise) := by
  unfold statement? at h
  cases hk : n.kind? with
  | none =>
      rw [hk] at h
      exact Or.inl ⟨rfl, (Option.some.inj h).symm⟩
  | some k =>
      simp only [hk] at h
      refine Or.inr ⟨k, rfl, ?_⟩
      split at h
      · simp at h
      · split at h <;> rename_i hc
        · obtain ⟨header, hheader, rfl⟩ := Option.map_eq_some_iff.1 h
          exact Or.inr ⟨hc, header, hheader, rfl⟩
        · obtain ⟨a, ha, rfl⟩ := Option.map_eq_some_iff.1 h
          exact Or.inl ⟨by simpa using hc, a, ha, rfl⟩

/-- Blocks are built as what they render as. -/
theorem rendersAs_of_statement? {body otherwise : List Statement} {s : Statement}
    (h : n.statement? body otherwise = some s) : n.RendersAs s := by
  rcases statement?_cases h with ⟨hk, rfl⟩ | ⟨k, hk, ⟨-, a, ha, rfl⟩ | ⟨-, header, hheader, rfl⟩⟩
  · exact ⟨hk, rfl⟩
  · exact rendersAs_of_actionOf? hk ha
  · exact rendersAs_of_headerOf? hk hheader body otherwise

end Node

/-! ### Bodies of statements -/

namespace Statement

/-- The body of a statement; that of an action is empty. -/
def body : Statement → List Statement
  | .action _ => []
  | .branch _ body _ | .forLoop _ _ _ _ body | .whileLoop _ body => body

/-- The second body of a statement; that of anything but a branch is empty. -/
def otherwise : Statement → List Statement
  | .branch _ _ otherwise => otherwise
  | _ => []

/-- Whether a statement is a container. -/
def isContainer : Statement → Bool
  | .action _ => false
  | _ => true

theorem flatten_eq (s : Statement) :
    s.flatten = s :: (flattenAll s.body ++ flattenAll s.otherwise) := by
  cases s <;> simp [flatten, body, otherwise, flattenAll]

end Statement

/-- The statement of a block has the bodies that it is built with, where the block has such a body. -/
theorem Node.bodies_of_statement? {n : Node} {body otherwise : List Statement} {s : Statement}
    (h : n.statement? body otherwise = some s) (hb : n.isContainer = false → body = [])
    (ho : n.isBranch = false → otherwise = []) :
    s.isContainer = n.isContainer ∧ s.body = body ∧ s.otherwise = otherwise := by
  have hleaf (hc : n.isContainer = false) : body = [] ∧ otherwise = [] :=
    ⟨hb hc, ho (isBranch_of_not_isContainer hc)⟩
  rcases statement?_cases h with ⟨hk, rfl⟩ | ⟨k, hk, ⟨hc, a, -, rfl⟩ | ⟨-, header, hheader, rfl⟩⟩
  · have hc : n.isContainer = false := by simp [isContainer, hk]
    rw [hc, (hleaf hc).1, (hleaf hc).2]
    exact ⟨rfl, rfl, rfl⟩
  · have hc : n.isContainer = false := by simp [isContainer, hk, hc]
    rw [hc, (hleaf hc).1, (hleaf hc).2]
    exact ⟨rfl, rfl, rfl⟩
  · have hc : n.isContainer = true := by simp [isContainer, hk, isContainer_of_headerOf? hheader]
    rw [hc]
    -- only a branch has a second body
    obtain ⟨c, rfl, -⟩ | ⟨_, _, _, _, rfl, rfl⟩ | ⟨c, rfl, rfl⟩ := headerOf?_cases hheader
    · exact ⟨rfl, rfl, rfl⟩
    · rw [ho (by simp [isBranch, hk, Kind.isBranch])]
      exact ⟨rfl, rfl, rfl⟩
    · rw [ho (by simp [isBranch, hk, Kind.isBranch])]
      exact ⟨rfl, rfl, rfl⟩

/-! ### Walks -/

/-- The block of an id yields a statement, and the given one renders it. -/
def Blueprint.Renders (b : Blueprint) (id : String) (s : Statement) : Prop :=
  ∃ n, nodeById? b.nodes id = some n ∧ n.isSilent = false ∧ n.RendersAs s

namespace Walks

variable {b : Blueprint} {room : Nat} {chain : Chain} {visited : List String}
  {start : Option String} {w w' : Walk} {ss : List Statement}

theorem eq_nil (h : Walks b room chain visited none w ss w') : ss = [] := by
  cases h
  rfl

/-- A walk claims the blocks of its statements, in order, whatever cuts it short. -/
theorem exists_rendered (h : Walks b room chain visited start w ss w') :
    ∃ ids, w'.claimed = w.claimed ++ ids ∧ List.Forall₂ b.Renders ids (flattenAll ss) := by
  induction h with
  | done => exact ⟨[], by simp, .nil⟩
  | cycle _ => exact ⟨[], by simp, .nil⟩
  | silent _ _ _ _ ih => exact ih
  | shared _ _ _ _ => exact ⟨[], by simp, .nil⟩
  | @block room _ _ id node w w₁ w₂ w₃ body otherwise rest s _ hn hs _ hbody hother hst _ ihbody
      ihother ihrest =>
      obtain ⟨bs, hbs, hrb⟩ := ihbody
      obtain ⟨os, hos, hro⟩ := ihother
      obtain ⟨rs, hrs, hrr⟩ := ihrest
      -- a slot that the block does not have starts no walk
      have hb (hc : node.isContainer = false) : body = [] := by
        rw [Blueprint.bodyWithin?, Blueprint.bodyStart?_eq_none hc, ite_self] at hbody
        exact hbody.eq_nil
      have ho (hc : node.isBranch = false) : otherwise = [] := by
        rw [Blueprint.otherwiseWithin?, Blueprint.otherwiseStart?, hc] at hother
        simp only [Bool.false_eq_true, if_false, ite_self] at hother
        exact hother.eq_nil
      obtain ⟨-, hsb, hso⟩ := Node.bodies_of_statement? hst hb ho
      refine ⟨id :: (bs ++ os ++ rs), ?_, ?_⟩
      · rw [hrs, hos, hbs, Blueprint.meet_claimed, nodeById?_id hn]
        simp
      · rw [flattenAll, s.flatten_eq, hsb, hso, List.cons_append]
        exact .cons ⟨node, hn, hs, Node.rendersAs_of_statement? hst⟩
          (List.rel_append (List.rel_append hrb hro) hrr)

end Walks

/-! ### Graphs -/

namespace Graph

/-- **Each block is rendered once and in order.**  No block is claimed twice, no root, declaration or
end block is claimed, and the claimed blocks are, one by one, those that the statements of setup and
loop render.  This holds of every graph, whatever faults it has. -/
theorem claims_rendered_in_order (g : Graph) :
    (g.setupClaims ++ g.loopClaims).Nodup ∧
      List.Forall₂ (fun id s => ∃ n, nodeById? g.nodes id = some n ∧ n.isSilent = false ∧
        n.RendersAs s) (g.setupClaims ++ g.loopClaims)
        (flattenAll g.build.setup ++ flattenAll g.build.loop) := by
  obtain ⟨ss, hss, hrs⟩ := g.walkSetup_walks.exists_rendered
  obtain ⟨ls, hls, hrl⟩ := g.walkLoop_walks.exists_rendered
  rw [← walkLoop_claimed]
  refine ⟨g.walkLoop_walks.nodup (g.walkSetup_walks.nodup List.nodup_nil), ?_⟩
  rw [hls, hss]
  exact List.rel_append hrs hrl

end Graph

end BlockSketch
