/-
**Statements laid out along a chain.**

A list of statements is laid out as one chain of blocks: each container is followed by its body and
then by an end block.  Reading the chain by scopes gives the statements back, provided that no body is
empty; so does upgrading and building the graph of the chain.

Main definitions:

* `BlockSketch.Statement.nesting`, `BlockSketch.nestingAll` — how deep the containers of statements
  are nested;
* `BlockSketch.entryStatement?` — the statement of a block to be placed;
* `BlockSketch.Encodes` — statements laid out as a list of blocks.

Main results:

* `BlockSketch.Outline.nesting_eq` — outlines and their statements are nested equally deep;
* `BlockSketch.Encodes.readScopes_append` — **reading the blocks gives the statements back**;
* `BlockSketch.Encodes.exists_build` — and so does building the graph of the chain.
-/

import BlockSketch.Proofs.LinearGraph

set_option relaxedAutoImplicit false
set_option autoImplicit false

namespace BlockSketch

/-! ### Nesting -/

mutual

/-- How many containers stand inside each other in a statement, itself included. -/
def Statement.nesting : Statement → Nat
  | .action _ => 0
  | .branch _ body otherwise => max (nestingAll body) (nestingAll otherwise) + 1
  | .forLoop _ _ _ _ body => nestingAll body + 1
  | .whileLoop _ body => nestingAll body + 1

/-- How many containers stand inside each other in the statements of a list. -/
def nestingAll : List Statement → Nat
  | [] => 0
  | s :: ss => max s.nesting (nestingAll ss)

end

/-- A container stands around what is in its bodies. -/
theorem Node.nesting_of_statement? {n : Node} {body otherwise : List Statement} {s : Statement}
    (h : n.statement? body otherwise = some s) (ho : n.isBranch = false → otherwise = []) :
    s.nesting =
      if n.isContainer then max (nestingAll body) (nestingAll otherwise) + 1 else 0 := by
  unfold Node.statement? at h
  unfold Node.isBranch at ho
  unfold Node.isContainer
  cases hk : n.kind? with
  | none =>
      rw [hk] at h
      obtain rfl := Option.some.inj h
      simp [Statement.nesting]
  | some k =>
      rw [hk] at ho
      simp only [hk, Option.any_some] at h ho ⊢
      split at h
      · simp at h
      · split at h <;> rename_i hc
        · rw [if_pos hc]
          obtain ⟨header, hheader, rfl⟩ := Option.map_eq_some_iff.1 h
          rcases headerOf?_cases hheader with ⟨c, rfl, -⟩ | ⟨_, _, _, _, rfl, rfl⟩ | ⟨c, rfl, rfl⟩
          · rfl
          · simp [Header.statement, Statement.nesting, nestingAll, ho rfl]
          · simp [Header.statement, Statement.nesting, nestingAll, ho rfl]
        · rw [if_neg hc]
          obtain ⟨a, -, rfl⟩ := Option.map_eq_some_iff.1 h
          rfl

/-- Outlines and their statements are nested equally deep. -/
theorem Outline.nesting_eq {o : Outline} (h : o.Shaped) : o.nesting = nestingAll o.statements := by
  induction o with
  | done => rfl
  | block n body otherwise rest ihbody ihother ihrest =>
      obtain ⟨-, hother, hsb, hso, hsr⟩ := h
      rw [Outline.nesting, Outline.statements, ihbody hsb, ihother hso, ihrest hsr]
      cases hs : n.isSilent with
      | true =>
          rw [n.statement?_of_isSilent hs, Node.isContainer_of_isSilent hs]
          simp
      | false =>
          obtain ⟨s, hstatement⟩ := Option.isSome_iff_exists.1
            (n.statement?_isSome hs body.statements otherwise.statements)
          have hnesting := Node.nesting_of_statement? hstatement fun hb => by rw [hother hb]; rfl
          rw [hstatement, Option.toList_some, List.singleton_append, nestingAll, hnesting]

/-! ### Layout -/

/-- The statement of a block to be placed, with the statements of its body. -/
def entryStatement? (e : BlockEntry) (body : List Statement) : Option Statement :=
  (Node.create e.1 "" .null .null none e.2).statement? body []

/-- A block with a statement is neither a root nor an end block. -/
theorem isSilent_of_entryStatement? {e : BlockEntry} {body : List Statement} {s : Statement}
    (h : entryStatement? e body = some s) : e.1.isSilent = false := by
  cases hs : e.1.isSilent with
  | false => rfl
  | true =>
      rw [entryStatement?, Node.statement?_of_isSilent (by simp [Node.isSilent, hs])] at h
      simp at h

/-- The statements are laid out as the blocks: a container is followed by its body, which is not
empty, and an end block. -/
inductive Encodes : List Statement → List BlockEntry → Prop
  | nil : Encodes [] []
  | action {s : Statement} {e : BlockEntry} {ss : List Statement} {es : List BlockEntry} :
      e.1.isContainer = false → entryStatement? e [] = some s → Encodes ss es →
      Encodes (s :: ss) (e :: es)
  | container {s : Statement} {e : BlockEntry} {body ss : List Statement}
      {bs es : List BlockEntry} :
      e.1.isContainer = true → entryStatement? e body = some s → Encodes body bs → body ≠ [] →
      Encodes ss es → Encodes (s :: ss) (e :: (bs ++ (.endBlock, []) :: es))

/-- The block at a place. -/
def chainNode (place : Nat) (e : BlockEntry) : Node :=
  Node.create e.1 (chainId place) (.int 200) (.int (300 + 80 * (place - 1 : Int))) none e.2

theorem chainNodes_cons (place : Nat) (e : BlockEntry) (es : List BlockEntry) :
    chainNodes place (e :: es) = chainNode place e :: chainNodes (place + 1) es := rfl

theorem isContainer_chainNode (place : Nat) (e : BlockEntry) :
    (chainNode place e).isContainer = e.1.isContainer := by
  simp [chainNode, Node.isContainer]

theorem isEnd_chainNode {e : BlockEntry} (h : e.1.isSilent = false) (place : Nat) :
    (chainNode place e).isEnd = false := by
  simp only [Kind.isSilent, Bool.or_eq_false_iff] at h
  simp [chainNode, Node.isEnd, Node.hasKind, h.2]

namespace Encodes

variable {ss : List Statement} {es : List BlockEntry}

/-- The first block is not an end block, if there is one. -/
theorem exists_cons (h : Encodes ss es) (hss : ss ≠ []) :
    ∃ e es', es = e :: es' ∧ e.1.isSilent = false := by
  cases h with
  | nil => exact absurd rfl hss
  | action _ hs _ => exact ⟨_, _, rfl, isSilent_of_entryStatement? hs⟩
  | container _ hs _ _ _ => exact ⟨_, _, rfl, isSilent_of_entryStatement? hs⟩

/-- No root is among the blocks. -/
theorem isRoot_eq_false (h : Encodes ss es) : ∀ e ∈ es, e.1.isRoot = false := by
  have hroot {e : BlockEntry} {body : List Statement} {s : Statement}
      (hs : entryStatement? e body = some s) : e.1.isRoot = false := by
    have hsilent := isSilent_of_entryStatement? hs
    simp only [Kind.isSilent, Bool.or_eq_false_iff] at hsilent
    exact hsilent.1.1
  induction h with
  | nil => simp
  | action _ hs _ ih =>
      rw [List.forall_mem_cons]
      exact ⟨hroot hs, ih⟩
  | container _ hs _ _ _ ihbody ih =>
      rw [List.forall_mem_cons, List.forall_mem_append, List.forall_mem_cons]
      exact ⟨hroot hs, ihbody, rfl, ih⟩

/-- **Reading the blocks gives the statements back**, whatever is open around them and whatever comes
after them. -/
theorem readScopes_append (h : Encodes ss es) (depth place : Nat) (rest : List Node) :
    (readScopes depth (chainNodes place es ++ rest)).1.statements =
        ss ++ (readScopes depth rest).1.statements ∧
      (readScopes depth (chainNodes place es ++ rest)).2 = (readScopes depth rest).2 := by
  induction h generalizing depth place rest with
  | nil => exact ⟨rfl, rfl⟩
  | @action s e ss es hc hs _ ih =>
      obtain ⟨hss, hrest⟩ := ih depth (place + 1) rest
      have hplain : opensScope (chainNode place e) (chainNodes (place + 1) es ++ rest) = false := by
        simp [opensScope, isContainer_chainNode, hc]
      have hstatement : (chainNode place e).statement? Outline.done.statements
          Outline.done.statements = some s := hs
      rw [chainNodes_cons, List.cons_append,
        readScopes_plain (isEnd_chainNode (isSilent_of_entryStatement? hs) place) hplain]
      refine ⟨?_, hrest⟩
      rw [Outline.statements, hstatement, hss]
      rfl
  | @container s e body ss bs es hc hs hb hne _ ihbody ih =>
      -- what follows the body: the end block, and then the rest of this scope
      generalize hplace : place + 1 + bs.length = place'
      let after := chainNode place' (.endBlock, []) :: (chainNodes (place' + 1) es ++ rest)
      have hnodes : chainNodes place (e :: (bs ++ (.endBlock, []) :: es)) ++ rest =
          chainNode place e :: (chainNodes (place + 1) bs ++ after) := by
        simp [chainNodes_cons, chainNodes_append, hplace, after]
      have hafter : readScopes (depth + 1) after =
          (.done, (readScopes depth (chainNodes (place' + 1) es ++ rest)).1 ::
            (readScopes depth (chainNodes (place' + 1) es ++ rest)).2) :=
        readScopes_end_succ rfl
      have hopens : opensScope (chainNode place e) (chainNodes (place + 1) bs ++ after) = true := by
        obtain ⟨b, bs', rfl, hfirst⟩ := hb.exists_cons hne
        rw [chainNodes_cons]
        simp [opensScope, isContainer_chainNode, hc, isEnd_chainNode hfirst]
      obtain ⟨hbody, houter⟩ := ihbody (depth + 1) (place + 1) after
      obtain ⟨hss, hrest⟩ := ih depth (place' + 1) rest
      rw [hafter] at hbody houter
      have hstatement : (chainNode place e).statement?
          (readScopes (depth + 1) (chainNodes (place + 1) bs ++ after)).1.statements
          Outline.done.statements = some s := by
        rw [hbody, Outline.statements, List.append_nil]
        exact hs
      rw [hnodes, readScopes_open (isEnd_chainNode (isSilent_of_entryStatement? hs) place) hopens,
        houter]
      refine ⟨?_, hrest⟩
      rw [Outline.statements, hstatement, List.headD_cons, hss]
      rfl

/-- Reading the whole chain gives the statements back. -/
theorem readChain_statements (h : Encodes ss es) :
    (readChain (chainNodes 1 es)).statements = ss := by
  have hread := (h.readScopes_append 0 1 []).1
  rw [List.append_nil] at hread
  rw [readChain_eq, hread, readScopes_nil, Outline.statements, List.append_nil]

theorem readChain_nesting (h : Encodes ss es) :
    (readChain (chainNodes 1 es)).nesting = nestingAll ss := by
  rw [← h.readChain_statements, readChain_eq]
  exact Outline.nesting_eq (readScopes_shaped 0 _).1

/-- Building the graph of the chain gives the statements back. -/
theorem exists_build (h : Encodes ss es) (hn : nestingAll ss ≤ maxNesting) :
    ∃ m, (linearGraph es).migrate = .ok m ∧ m.build.faults = [] ∧ m.build.setup = [] ∧
      m.build.loop = ss := by
  rw [← h.readChain_nesting] at hn
  obtain ⟨m, hm, hbuild⟩ := linearGraph_exists_build h.isRoot_eq_false hn
  rw [h.readChain_statements] at hbuild
  exact ⟨m, hm, hbuild⟩

end Encodes

end BlockSketch
