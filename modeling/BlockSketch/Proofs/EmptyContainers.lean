/-
**Empty containers in linear chains.**

Blocks are laid out along a chain with an end block after the body of each container.  The reading
opens the scope of a container only if something else than an end block comes after it, but an end
block closes a scope whenever one is open.  So the end block of an empty container closes the
container *around* it, and what follows there is read too far outside.

The damage is done exactly if something follows.  Where an empty container comes last in the container
around it, and that one again, up to the outermost, there is nothing to be read too far outside, and
the end blocks that are left over close nothing.

The proof compares how deep each block stands with how deep it is read.  The second is never more than
the first, and the two lists of depths are equal exactly for the blocks that are read back.

Main definitions:

* `BlockSketch.BlockForest` — blocks, where containers have bodies, with the chain `entries` and the
  `statements`;
* `BlockSketch.BlockForest.isLegible` — no block follows an empty container inside a container;
* `BlockSketch.BlockForest.levels`, `BlockSketch.BlockForest.after` — how deep each block is read, and
  how deep the reading is afterwards.

Main results:

* `BlockSketch.BlockForest.scanDepths_entries`, `BlockSketch.BlockForest.levels_le` — how deep blocks
  are read, and that this is never too deep;
* `BlockSketch.BlockForest.isLegible_of_levels_eq` — blocks that are read as deep as they stand;
* `BlockSketch.BlockForest.readChain_statements` — blocks that are read back;
* `BlockSketch.BlockForest.build_eq_iff_isLegible` — **a chain is built as the blocks that it was laid
  out from exactly if no block follows an empty container inside a container**.
-/

import BlockSketch.Proofs.Depths

set_option relaxedAutoImplicit false
set_option autoImplicit false

namespace BlockSketch

/-! ### Blocks with bodies -/

/-- Kinds of blocks that yield an action. -/
def Kind.isAction (k : Kind) : Bool :=
  !k.isSilent && !k.isContainer

theorem Kind.isAction_iff {k : Kind} :
    k.isAction = true ↔ k.isSilent = false ∧ k.isContainer = false := by
  simp [isAction]

theorem Kind.isSilent_of_isContainer {k : Kind} (h : k.isContainer = true) : k.isSilent = false := by
  revert h
  cases k <;> decide

/-- A list of blocks with their parameters, where each container has a body that is such a list. -/
inductive BlockForest where
  | done
  | action (k : Kind) (params : Fields) (h : k.isAction = true) (rest : BlockForest)
  | container (k : Kind) (params : Fields) (h : k.isContainer = true) (body rest : BlockForest)

namespace BlockForest

/-- The blocks along one chain: each container is followed by its body and an end block. -/
def entries : BlockForest → List BlockEntry
  | done => []
  | action k params _ rest => (k, params) :: rest.entries
  | container k params _ body rest =>
    (k, params) :: (body.entries ++ (.endBlock, []) :: rest.entries)

/-- The statements of the blocks. -/
def statements : BlockForest → List Statement
  | done => []
  | action k params _ rest => (entryStatement? (k, params) []).toList ++ rest.statements
  | container k params _ body rest =>
    (entryStatement? (k, params) body.statements).toList ++ rest.statements

/-- Whether there is no block. -/
def isDone : BlockForest → Bool
  | done => true
  | _ => false

/-- Whether every container has something in its body. -/
def isFull : BlockForest → Bool
  | done => true
  | action _ _ _ rest => rest.isFull
  | container _ _ _ body rest => !body.isDone && body.isFull && rest.isFull

/-- Whether no block follows an empty container: such a container comes last, and if it has containers
around it, they do. -/
def isFullButLast : BlockForest → Bool
  | done => true
  | action _ _ _ rest => rest.isFullButLast
  | container _ _ _ body rest =>
    (rest.isDone && body.isFullButLast) || (!body.isDone && body.isFull && rest.isFullButLast)

/-- Whether no block follows an empty container inside a container. -/
def isLegible : BlockForest → Bool
  | done => true
  | action _ _ _ rest => rest.isLegible
  | container _ _ _ body rest => body.isFullButLast && rest.isLegible

theorem eq_done {t : BlockForest} (h : t.isDone = true) : t = done := by
  cases t with
  | done => rfl
  | action => simp [isDone] at h
  | container => simp [isDone] at h

section Equations

variable {k : Kind} (params : Fields) (body rest : BlockForest)

theorem exists_entryStatement? (hs : k.isSilent = false) (body : List Statement) :
    ∃ s, entryStatement? (k, params) body = some s :=
  Option.isSome_iff_exists.1 (Node.statement?_isSome (by simp [Node.isSilent, hs]) body [])

theorem exists_statements_action (h : k.isAction = true) :
    ∃ s, entryStatement? (k, params) [] = some s ∧
      (action k params h rest).statements = s :: rest.statements := by
  obtain ⟨s, hs⟩ := exists_entryStatement? params (Kind.isAction_iff.1 h).1 []
  exact ⟨s, hs, by rw [statements, hs]; rfl⟩

theorem exists_statements_container (h : k.isContainer = true) :
    ∃ s, entryStatement? (k, params) body.statements = some s ∧
      (container k params h body rest).statements = s :: rest.statements := by
  obtain ⟨s, hs⟩ := exists_entryStatement? params (Kind.isSilent_of_isContainer h) body.statements
  exact ⟨s, hs, by rw [statements, hs]; rfl⟩

end Equations

/-- Blocks have statements. -/
theorem statements_ne_nil {t : BlockForest} (h : t.isDone = false) : t.statements ≠ [] := by
  cases t with
  | done => simp [isDone] at h
  | action k params ha rest =>
      obtain ⟨s, -, hs⟩ := exists_statements_action params rest ha
      simp [hs]
  | container k params hc body rest =>
      obtain ⟨s, -, hs⟩ := exists_statements_container params body rest hc
      simp [hs]

theorem isRoot_eq_false (t : BlockForest) : ∀ e ∈ t.entries, e.1.isRoot = false := by
  have hroot {k : Kind} (h : k.isSilent = false) : k.isRoot = false := by
    simp only [Kind.isSilent, Bool.or_eq_false_iff] at h
    exact h.1.1
  induction t with
  | done => simp [entries]
  | action k params h rest ih =>
      rw [entries, List.forall_mem_cons]
      exact ⟨hroot (Kind.isAction_iff.1 h).1, ih⟩
  | container k params h body rest ihbody ih =>
      rw [entries, List.forall_mem_cons, List.forall_mem_append, List.forall_mem_cons]
      exact ⟨hroot (Kind.isSilent_of_isContainer h), ihbody, rfl, ih⟩

/-! ### Depths of blocks -/

/-- How deep the body of a container is read that is itself `depth` deep. -/
def bodyDepth (depth : Nat) (body : BlockForest) : Nat :=
  if body.isDone then depth else depth + 1

/-- How deep a reading is after the blocks that starts at the given depth. -/
def after : (depth : Nat) → BlockForest → Nat
  | depth, done => depth
  | depth, action _ _ _ rest => after depth rest
  | depth, container _ _ _ body rest => after (after (bodyDepth depth body) body - 1) rest

/-- How deep each of the blocks is read, if the first one is at the given depth, and whether it is a
container. -/
def levels : (depth : Nat) → BlockForest → List (Nat × Bool)
  | _, done => []
  | depth, action _ _ _ rest => (depth, false) :: levels depth rest
  | depth, container _ _ _ body rest =>
    (depth, true) :: (levels (bodyDepth depth body) body ++
      levels (after (bodyDepth depth body) body - 1) rest)

section Chain

variable {k : Kind} {params : Fields} {body rest : BlockForest}

/-- The chain of a container and of what follows it. -/
theorem chainNodes_container (h : k.isContainer = true) (place : Nat) (tail : List Node) :
    chainNodes place (container k params h body rest).entries ++ tail =
      chainNode place (k, params) :: (chainNodes (place + 1) body.entries ++
        chainNode (place + 1 + body.entries.length) (.endBlock, []) ::
          (chainNodes (place + 1 + body.entries.length + 1) rest.entries ++ tail)) := by
  simp [entries, chainNodes_cons, chainNodes_append]

theorem isEnd_chainNode_endBlock (place : Nat) : (chainNode place (.endBlock, [])).isEnd = true :=
  rfl

/-- A container opens a scope exactly if its body has a block. -/
theorem opensScope_chainNode (h : k.isContainer = true) (place next : Nat) (tail : List Node) :
    opensScope (chainNode place (k, params)) (chainNodes (place + 1) body.entries ++
      chainNode next (.endBlock, []) :: tail) = !body.isDone := by
  have hc : (chainNode place (k, params)).isContainer = true := by
    rw [isContainer_chainNode]
    exact h
  cases body with
  | done => simp [opensScope, entries, chainNodes, isDone, isEnd_chainNode_endBlock]
  | action k' params' h' rest' =>
      have hs : k'.isSilent = false := (Kind.isAction_iff.1 h').1
      simp [opensScope, entries, chainNodes_cons, isDone, hc, isEnd_chainNode (e := (k', _)) hs]
  | container k' params' h' body' rest' =>
      have hs : k'.isSilent = false := Kind.isSilent_of_isContainer h'
      simp [opensScope, entries, chainNodes_cons, isDone, hc, isEnd_chainNode (e := (k', _)) hs]

end Chain

/-- The blocks of a chain are silent only if they are end blocks. -/
theorem isSilent_eq_isEnd (t : BlockForest) (place : Nat) :
    ∀ n ∈ chainNodes place t.entries, n.isSilent = n.isEnd := by
  have hkind {k : Kind} (h : k.isSilent = false) (place : Nat) (params : Fields) :
      (chainNode place (k, params)).isSilent = (chainNode place (k, params)).isEnd := by
    rw [isEnd_chainNode (e := (k, params)) h]
    simp [chainNode, Node.isSilent, h]
  induction t generalizing place with
  | done => simp [entries, chainNodes]
  | action k params h rest ih =>
      rw [entries, chainNodes_cons, List.forall_mem_cons]
      exact ⟨hkind (Kind.isAction_iff.1 h).1 _ _, ih _⟩
  | container k params h body rest ihbody ih =>
      rw [← List.append_nil (chainNodes _ _), chainNodes_container, List.forall_mem_cons,
        List.forall_mem_append, List.forall_mem_cons, List.append_nil]
      exact ⟨hkind (Kind.isSilent_of_isContainer h) _ _, ihbody _, rfl, ih _⟩

/-- How deep the blocks of a chain are read. -/
theorem scanDepths_entries (t : BlockForest) (depth place : Nat) (tail : List Node) :
    scanDepths depth (chainNodes place t.entries ++ tail) =
      levels depth t ++ scanDepths (after depth t) tail := by
  induction t generalizing depth place tail with
  | done => rfl
  | action k params h rest ih =>
      obtain ⟨hs, hka⟩ := Kind.isAction_iff.1 h
      have hc : (chainNode place (k, params)).isContainer = false := by
        rw [isContainer_chainNode]
        exact hka
      rw [entries, chainNodes_cons, List.cons_append, scanDepths,
        if_neg (by simp [isEnd_chainNode (e := (k, params)) hs]), hc,
        if_neg (by simp [opensScope, hc]), ih, levels, after]
      rfl
  | container k params h body rest ihbody ih =>
      have hc : (chainNode place (k, params)).isContainer = true := by
        rw [isContainer_chainNode]
        exact h
      have hdepth : (if (!body.isDone) = true then depth + 1 else depth) = bodyDepth depth body := by
        cases hb : body.isDone <;> simp [bodyDepth, hb]
      rw [chainNodes_container, scanDepths,
        if_neg (by simp [isEnd_chainNode (e := (k, params)) (Kind.isSilent_of_isContainer h)]), hc,
        opensScope_chainNode h, hdepth, ihbody, scanDepths, if_pos (isEnd_chainNode_endBlock _), ih,
        levels, after]
      simp

section Profile

variable {k : Kind} {params : Fields} {body rest : BlockForest} (depth : Nat)

theorem profile_action (h : k.isAction = true) :
    profileAll depth (action k params h rest).statements =
      (depth, false) :: profileAll depth rest.statements := by
  obtain ⟨s, hs, hstatements⟩ := exists_statements_action params rest h
  have hprofile := Node.profile_of_statement? hs (fun _ => rfl) depth
  rw [hstatements, profileAll, hprofile]
  simp [Node.isContainer, (Kind.isAction_iff.1 h).2, profileAll]

theorem profile_container (h : k.isContainer = true) :
    profileAll depth (container k params h body rest).statements =
      (depth, true) ::
        (profileAll (depth + 1) body.statements ++ profileAll depth rest.statements) := by
  obtain ⟨s, hs, hstatements⟩ := exists_statements_container params body rest h
  have hprofile := Node.profile_of_statement? hs (by simp [Node.isContainer, h]) depth
  rw [hstatements, profileAll, hprofile]
  simp [Node.isContainer, h]

end Profile

/-! ### Blocks are never read too deep -/

section After

variable {depth : Nat} {body : BlockForest}

theorem bodyDepth_le : bodyDepth depth body ≤ depth + 1 := by
  unfold bodyDepth
  split <;> omega

theorem bodyDepth_eq (h : body.isDone = false) : bodyDepth depth body = depth + 1 := by
  rw [bodyDepth, if_neg (by simp [h])]

theorem after_le (t : BlockForest) (depth : Nat) : after depth t ≤ depth := by
  induction t generalizing depth with
  | done => exact Nat.le_refl depth
  | action _ _ _ rest ih => exact ih depth
  | container _ _ _ body rest ihbody ih =>
      have hrest := ih (after (bodyDepth depth body) body - 1)
      have hbody := ihbody (bodyDepth depth body)
      have hdepth : bodyDepth depth body ≤ depth + 1 := bodyDepth_le
      rw [after]
      omega

/-- After a container the reading is not deeper than before it. -/
theorem after_body_le : after (bodyDepth depth body) body - 1 ≤ depth := by
  have hbody := after_le body (bodyDepth depth body)
  have hdepth : bodyDepth depth body ≤ depth + 1 := bodyDepth_le
  omega

/-- If the reading is back where it was after a container, there is something in its body. -/
theorem isDone_eq_false_of_after_eq (h : after (bodyDepth depth body) body = depth + 1) :
    body.isDone = false := by
  cases hb : body.isDone with
  | false => rfl
  | true =>
      have hbody := after_le body (bodyDepth depth body)
      rw [bodyDepth, if_pos hb] at h hbody
      omega

end After

/-- No block is read deeper than it stands. -/
theorem levels_le (t : BlockForest) {depth depth' : Nat} (h : depth ≤ depth') :
    List.Forall₂ (fun p q => p.1 ≤ q.1 ∧ p.2 = q.2) (levels depth t)
      (profileAll depth' t.statements) := by
  induction t generalizing depth depth' with
  | done => exact .nil
  | action k params ha rest ih =>
      rw [profile_action]
      exact .cons ⟨h, rfl⟩ (ih h)
  | container k params hc body rest ihbody ih =>
      rw [profile_container]
      refine .cons ⟨h, rfl⟩ (List.rel_append (ihbody ?_) (ih ?_))
      · exact Nat.le_trans bodyDepth_le (Nat.succ_le_succ h)
      · exact Nat.le_trans after_body_le h

/-! ### Blocks that are read as deep as they stand -/

section Equal

variable {t : BlockForest} {depth depth' : Nat}

/-- Where the reading is not as deep as it should be, there is nothing left to read. -/
theorem eq_done_of_levels_eq (h : levels depth t = profileAll depth' t.statements)
    (hne : depth ≠ depth') : t = done := by
  cases t with
  | done => rfl
  | action k params ha rest =>
      rw [profile_action, levels, List.cons.injEq, Prod.mk.injEq] at h
      exact absurd h.1.1 hne
  | container k params hc body rest =>
      rw [profile_container, levels, List.cons.injEq, Prod.mk.injEq] at h
      exact absurd h.1.1 hne

/-- The parts of a container are read as deep as they stand, if the whole is. -/
theorem levels_eq_container {k : Kind} {params : Fields} {hc : k.isContainer = true}
    {body rest : BlockForest}
    (h : levels depth (container k params hc body rest) =
      profileAll depth (container k params hc body rest).statements) :
    levels (bodyDepth depth body) body = profileAll (depth + 1) body.statements ∧
      levels (after (bodyDepth depth body) body - 1) rest = profileAll depth rest.statements := by
  rw [profile_container, levels, List.cons.injEq] at h
  exact List.append_inj h.2 (levels_le body bodyDepth_le).length_eq

/-- Inside a container, a reading that is as deep as before has met no empty container. -/
theorem isFull_of_after_eq (h : after (depth + 1) t = depth + 1) : t.isFull = true := by
  induction t generalizing depth with
  | done => rfl
  | action k params ha rest ih => exact ih h
  | container k params hc body rest ihbody ih =>
      rw [after] at h
      have hback : after (bodyDepth (depth + 1) body) body = depth + 1 + 1 := by
        have hrest := after_le rest (after (bodyDepth (depth + 1) body) body - 1)
        have hbody := after_le body (bodyDepth (depth + 1) body)
        have hdepth : bodyDepth (depth + 1) body ≤ depth + 1 + 1 := bodyDepth_le
        omega
      have hdone := isDone_eq_false_of_after_eq hback
      rw [hback] at h
      rw [bodyDepth_eq hdone] at hback
      rw [isFull, hdone, ihbody hback, ih h]
      rfl

/-- Inside a container, no block follows an empty container if all are read as deep as they stand. -/
theorem isFullButLast_of_levels_eq
    (h : levels (depth + 1) t = profileAll (depth + 1) t.statements) : t.isFullButLast = true := by
  induction t generalizing depth with
  | done => rfl
  | action k params ha rest ih =>
      rw [profile_action, levels, List.cons.injEq] at h
      exact ih h.2
  | container k params hc body rest ihbody ih =>
      obtain ⟨hbody, hrest⟩ := levels_eq_container h
      rw [isFullButLast]
      -- either the reading is back where it was, or what follows is read too far outside
      by_cases hback : after (bodyDepth (depth + 1) body) body = depth + 1 + 1
      · have hdone := isDone_eq_false_of_after_eq hback
        rw [hback] at hrest
        rw [bodyDepth_eq hdone] at hback
        rw [hdone, isFull_of_after_eq hback, ih hrest]
        simp
      · have hne : after (bodyDepth (depth + 1) body) body - 1 ≠ depth + 1 := by
          have := after_le body (bodyDepth (depth + 1) body)
          have : bodyDepth (depth + 1) body ≤ depth + 1 + 1 := bodyDepth_le
          omega
        have hlast : body.isFullButLast = true := by
          cases hb : body.isDone with
          | true => rw [eq_done hb, isFullButLast]
          | false =>
              rw [bodyDepth_eq hb] at hbody
              exact ihbody hbody
        rw [eq_done_of_levels_eq hrest hne, hlast]
        simp [isDone]

/-- Blocks that are all read as deep as they stand. -/
theorem isLegible_of_levels_eq (h : levels 0 t = profileAll 0 t.statements) :
    t.isLegible = true := by
  induction t with
  | done => rfl
  | action k params ha rest ih =>
      rw [profile_action, levels, List.cons.injEq] at h
      exact ih h.2
  | container k params hc body rest ihbody ih =>
      obtain ⟨hbody, hrest⟩ := levels_eq_container h
      have hback : after (bodyDepth 0 body) body - 1 = 0 := Nat.le_zero.1 after_body_le
      rw [hback] at hrest
      rw [isLegible, ih hrest, Bool.and_true]
      cases hb : body.isDone with
      | true => rw [eq_done hb, isFullButLast]
      | false =>
          rw [bodyDepth_eq hb] at hbody
          exact isFullButLast_of_levels_eq hbody

end Equal

/-! ### Blocks that are read back -/

/-- Blocks whose containers all have something in their bodies are laid out as before. -/
theorem encodes_of_isFull {t : BlockForest} (h : t.isFull = true) :
    Encodes t.statements t.entries := by
  induction t with
  | done => exact .nil
  | action k params ha rest ih =>
      obtain ⟨s, hs, hstatements⟩ := exists_statements_action params rest ha
      rw [hstatements]
      exact .action (Kind.isAction_iff.1 ha).2 hs (ih h)
  | container k params hc body rest ihbody ih =>
      simp only [isFull, Bool.and_eq_true, Bool.not_eq_true'] at h
      obtain ⟨⟨hdone, hbody⟩, hrest⟩ := h
      obtain ⟨s, hs, hstatements⟩ := exists_statements_container params body rest hc
      rw [hstatements]
      exact .container hc hs (ihbody hbody) (statements_ne_nil hdone) (ih hrest)

/-- End blocks close every scope that is open, if there are enough of them, and are ignored then. -/
theorem readScopes_ends {ends : List Node} (hends : ∀ n ∈ ends, n.isEnd = true) {depth : Nat}
    (hlen : depth ≤ ends.length) (tail : List Node) :
    (readScopes depth (ends ++ tail)).1 :: (readScopes depth (ends ++ tail)).2 =
      List.replicate depth .done ++ [(readScopes 0 tail).1] := by
  induction ends generalizing depth with
  | nil =>
      obtain rfl := Nat.le_zero.1 hlen
      simpa using length_readScopes 0 tail
  | cons n ends ih =>
      rw [List.forall_mem_cons] at hends
      cases depth with
      | zero =>
          rw [List.cons_append, readScopes_end_zero hends.1]
          exact ih hends.2 (Nat.zero_le _)
      | succ depth =>
          rw [List.cons_append, readScopes_end_succ hends.1, ih hends.2 (Nat.le_of_succ_le_succ hlen)]
          rfl

section Reading

variable {k : Kind} {params : Fields} {body rest : BlockForest} {depth place next : Nat}
  {tail : List Node}

theorem statements_block (e : BlockEntry) (place : Nat) (body rest : Outline) :
    (Outline.block (chainNode place e) body .done rest).statements =
      (entryStatement? e body.statements).toList ++ rest.statements := rfl

/-- An action is read back, if what follows it is. -/
theorem readScopes_action (h : k.isAction = true)
    (hrest : (readScopes depth (chainNodes (place + 1) rest.entries ++ tail)).1.statements =
      rest.statements) :
    (readScopes depth (chainNodes place (action k params h rest).entries ++ tail)).1.statements =
        (action k params h rest).statements ∧
      (readScopes depth (chainNodes place (action k params h rest).entries ++ tail)).2 =
        (readScopes depth (chainNodes (place + 1) rest.entries ++ tail)).2 := by
  obtain ⟨hs, hc⟩ := Kind.isAction_iff.1 h
  rw [entries, chainNodes_cons, List.cons_append,
    readScopes_plain (isEnd_chainNode (e := (k, params)) hs place)
      (by simp [opensScope, isContainer_chainNode, hc])]
  refine ⟨?_, rfl⟩
  rw [statements_block, hrest]
  rfl

/-- The scope of a container that has something in its body is opened.  The container is read back,
if its body and the rest of the scope around it are. -/
theorem readScopes_full (h : k.isContainer = true) (hb : body.isDone = false) {r : Outline}
    {outer : List Outline}
    (hbody : (readScopes (depth + 1) (chainNodes (place + 1) body.entries ++
      chainNode next (.endBlock, []) :: tail)).1.statements = body.statements)
    (houter : (readScopes (depth + 1) (chainNodes (place + 1) body.entries ++
      chainNode next (.endBlock, []) :: tail)).2 = r :: outer)
    (hr : r.statements = rest.statements) :
    (readScopes depth (chainNode place (k, params) :: (chainNodes (place + 1) body.entries ++
        chainNode next (.endBlock, []) :: tail))).1.statements =
        (container k params h body rest).statements ∧
      (readScopes depth (chainNode place (k, params) :: (chainNodes (place + 1) body.entries ++
        chainNode next (.endBlock, []) :: tail))).2 = outer := by
  rw [readScopes_open (isEnd_chainNode (e := (k, params)) (Kind.isSilent_of_isContainer h) place)
    (by rw [opensScope_chainNode h, hb]; rfl), houter]
  refine ⟨?_, rfl⟩
  rw [statements_block, hbody, List.headD_cons, hr]
  rfl

/-- No scope is opened for an empty container, and its end block counts for the scope around it. -/
theorem readScopes_empty (h : k.isContainer = true)
    (hrest : (readScopes depth (chainNode next (.endBlock, []) :: tail)).1.statements =
      rest.statements) :
    (readScopes depth (chainNode place (k, params) :: (chainNodes (place + 1) done.entries ++
        chainNode next (.endBlock, []) :: tail))).1.statements =
        (container k params h done rest).statements ∧
      (readScopes depth (chainNode place (k, params) :: (chainNodes (place + 1) done.entries ++
        chainNode next (.endBlock, []) :: tail))).2 =
        (readScopes depth (chainNode next (.endBlock, []) :: tail)).2 := by
  rw [readScopes_plain (isEnd_chainNode (e := (k, params)) (Kind.isSilent_of_isContainer h) place)
    (by rw [opensScope_chainNode h]; rfl)]
  refine ⟨?_, rfl⟩
  show (Outline.block _ _ _ (readScopes depth (chainNode next (.endBlock, []) :: tail)).1).statements =
    _
  rw [statements_block, hrest]
  rfl

end Reading

/-- Inside a container, where the end blocks of all containers around come next, the blocks are read
back if none follows an empty container.  The end blocks then close every scope. -/
theorem readScopes_of_isFullButLast {t : BlockForest} (h : t.isFullButLast = true)
    (depth place : Nat) {ends : List Node} (hends : ∀ n ∈ ends, n.isEnd = true)
    (hlen : depth + 1 ≤ ends.length) (tail : List Node) :
    (readScopes (depth + 1) (chainNodes place t.entries ++ (ends ++ tail))).1.statements =
        t.statements ∧
      (readScopes (depth + 1) (chainNodes place t.entries ++ (ends ++ tail))).2 =
        List.replicate depth .done ++ [(readScopes 0 tail).1] := by
  induction t generalizing depth place ends with
  | done =>
      have hread := readScopes_ends hends hlen tail
      rw [List.replicate_succ, List.cons_append, List.cons.injEq] at hread
      refine ⟨?_, hread.2⟩
      show (readScopes (depth + 1) (ends ++ tail)).1.statements = []
      rw [hread.1]
      rfl
  | action k params ha rest ih =>
      obtain ⟨hstatements, houter⟩ := ih h depth (place + 1) hends hlen
      rw [← houter]
      exact readScopes_action ha hstatements
  | container k params hc body rest ihbody ih =>
      rw [chainNodes_container]
      generalize place + 1 + body.entries.length = next
      have hends' : ∀ n ∈ chainNode next (.endBlock, []) :: ends, n.isEnd = true :=
        List.forall_mem_cons.2 ⟨isEnd_chainNode_endBlock next, hends⟩
      simp only [isFullButLast, Bool.or_eq_true, Bool.and_eq_true, Bool.not_eq_true'] at h
      rcases h with ⟨hdone, hlast⟩ | ⟨⟨hb, hfull⟩, hrest⟩
      · -- the container comes last: its end block is one more to close what is around
        obtain rfl := eq_done hdone
        cases hb : body.isDone with
        | true =>
            obtain rfl := eq_done hb
            obtain ⟨hstatements, houter⟩ := ihbody hlast depth next hends' (Nat.le_succ_of_le hlen)
            rw [← houter]
            exact readScopes_empty hc hstatements
        | false =>
            obtain ⟨hstatements, houter⟩ :=
              ihbody hlast (depth + 1) (place + 1) hends' (Nat.succ_le_succ hlen)
            exact readScopes_full hc hb hstatements houter rfl
      · -- no scope is closed too early in the body, and the end block closes its scope
        obtain ⟨hbody, houter⟩ := (encodes_of_isFull hfull).readScopes_append (depth + 1 + 1)
          (place + 1) (chainNode next (.endBlock, []) ::
            (chainNodes (next + 1) rest.entries ++ (ends ++ tail)))
        obtain ⟨hstatements, hrest⟩ := ih hrest depth (next + 1) hends hlen
        rw [readScopes_end_succ (isEnd_chainNode_endBlock next)] at hbody houter
        rw [Outline.statements, List.append_nil] at hbody
        rw [← hrest]
        exact readScopes_full hc hb hbody houter hstatements

/-- Legible blocks are read back. -/
theorem readScopes_of_isLegible {t : BlockForest} (h : t.isLegible = true) (place : Nat) :
    (readScopes 0 (chainNodes place t.entries ++ [])).1.statements = t.statements := by
  induction t generalizing place with
  | done => rfl
  | action k params ha rest ih => exact (readScopes_action ha (ih h (place + 1))).1
  | container k params hc body rest ihbody ih =>
      rw [chainNodes_container]
      generalize place + 1 + body.entries.length = next
      simp only [isLegible, Bool.and_eq_true] at h
      have hrest := ih h.2 (next + 1)
      cases hb : body.isDone with
      | true =>
          obtain rfl := eq_done hb
          rw [← readScopes_end_zero (isEnd_chainNode_endBlock next)] at hrest
          exact (readScopes_empty hc hrest).1
      | false =>
          obtain ⟨hbody, houter⟩ := readScopes_of_isFullButLast h.1 0 (place + 1)
            (List.forall_mem_singleton.2 (isEnd_chainNode_endBlock next)) (Nat.le_refl 1)
            (chainNodes (next + 1) rest.entries ++ [])
          exact (readScopes_full hc hb hbody houter hrest).1

/-! ### Building the chain -/

/-- The statements of the reading stand as deep as the blocks are read. -/
theorem profile_readChain (t : BlockForest) :
    profileAll 0 (readChain (chainNodes 1 t.entries)).statements = levels 0 t := by
  have hprofile := profile_readScopes (isSilent_eq_isEnd t 1) 0
  have hdepths := t.scanDepths_entries 0 1 []
  rw [List.eq_nil_of_length_eq_zero (length_readScopes 0 _), scopesProfile, scopesProfile,
    List.append_nil] at hprofile
  rw [List.append_nil, scanDepths, List.append_nil] at hdepths
  rw [readChain_eq, hprofile, hdepths]

theorem nesting_readChain_le (t : BlockForest) :
    (readChain (chainNodes 1 t.entries)).nesting ≤ nestingAll t.statements := by
  have hnesting : (readChain (chainNodes 1 t.entries)).nesting =
      nestingAll (readChain (chainNodes 1 t.entries)).statements := by
    rw [readChain_eq]
    exact Outline.nesting_eq (readScopes_shaped 0 _).1
  rw [hnesting, nestingAll_le_iff _ 0, profile_readChain]
  exact forall_lt_of_forall₂ (t.levels_le (Nat.le_refl 0))
    ((nestingAll_le_iff _ 0 _).1 (Nat.le_refl _))

/-- Reading the whole chain gives the statements back exactly for legible blocks. -/
theorem readChain_statements (t : BlockForest) :
    (readChain (chainNodes 1 t.entries)).statements = t.statements ↔ t.isLegible = true := by
  constructor
  · intro h
    apply isLegible_of_levels_eq
    rw [← profile_readChain, h]
  · intro h
    rw [readChain_eq, ← List.append_nil (chainNodes 1 t.entries)]
    exact readScopes_of_isLegible h 1

/-- Building the graph of the chain gives the reading. -/
theorem exists_build (t : BlockForest) (hn : nestingAll t.statements ≤ maxNesting) :
    ∃ m, (linearGraph t.entries).migrate = .ok m ∧ m.build.faults = [] ∧ m.build.setup = [] ∧
      m.build.loop = (readChain (chainNodes 1 t.entries)).statements :=
  linearGraph_exists_build t.isRoot_eq_false (Nat.le_trans t.nesting_readChain_le hn)

/-- **A chain is built as the blocks that it was laid out from exactly if no block follows an empty
container inside a container.** -/
theorem build_eq_iff_isLegible (t : BlockForest) (hn : nestingAll t.statements ≤ maxNesting) :
    ∃ m, (linearGraph t.entries).migrate = .ok m ∧ m.build.faults = [] ∧ m.build.setup = [] ∧
      (m.build.loop = t.statements ↔ t.isLegible = true) := by
  obtain ⟨m, hm, hfaults, hsetup, hloop⟩ := t.exists_build hn
  refine ⟨m, hm, hfaults, hsetup, ?_⟩
  rw [hloop]
  exact t.readChain_statements

/-- Two loops, where a branch without a body comes last in the inner one. -/
def trailing : BlockForest :=
  .container .whileLoop [("condition", .string "a")] rfl
    (.container .whileLoop [("condition", .string "b")] rfl
      (.action .serialPrint [("message", .string "c")] rfl
        (.container .ifThen [("condition", .string "d")] rfl .done .done)) .done)
    (.action .serialPrint [("message", .string "e")] rfl .done)

/-- Three end blocks in a row close two loops, and the blocks are read back. -/
theorem trailing_build : nestingAll trailing.statements ≤ maxNesting ∧
    ∃ m, (linearGraph trailing.entries).migrate = .ok m ∧
      m.build.loop =
        [.whileLoop "a" [.whileLoop "b" [.action (.serialPrint "c"), .branch "d" [] []]],
         .action (.serialPrint "e")] := by
  have hn : nestingAll trailing.statements ≤ maxNesting := by decide
  obtain ⟨m, hm, -, -, hloop⟩ := build_eq_iff_isLegible trailing hn
  exact ⟨hn, m, hm, hloop.2 rfl⟩

/-- A loop, where something follows a branch without a body. -/
def interrupted : BlockForest :=
  .container .whileLoop [("condition", .string "a")] rfl
    (.container .ifThen [("condition", .string "b")] rfl .done
      (.action .serialPrint [("message", .string "c")] rfl .done)) .done

/-- The end block of the branch closes the loop, and what follows the branch ends up outside. -/
theorem interrupted_build : nestingAll interrupted.statements ≤ maxNesting ∧
    interrupted.statements =
      [.whileLoop "a" [.branch "b" [] [], .action (.serialPrint "c")]] ∧
    ∃ m, (linearGraph interrupted.entries).migrate = .ok m ∧ m.build.faults = [] ∧
      m.build.loop = [.whileLoop "a" [.branch "b" [] []], .action (.serialPrint "c")] := by
  have hn : nestingAll interrupted.statements ≤ maxNesting := by decide
  obtain ⟨m, hm, hfaults, -, hloop⟩ := interrupted.exists_build hn
  exact ⟨hn, rfl, m, hm, hfaults, hloop⟩

end BlockForest

end BlockSketch
