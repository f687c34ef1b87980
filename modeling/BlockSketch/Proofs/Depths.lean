/-
**How deep statements stand.**

The depth of a statement is the number of containers around it.  The depths of all statements of a
list, in the order of the text and marked with what is a container, tell how the containers are nested.
For the reading of a chain they can be told without reading it: it is enough to count the scopes that
are open.

Main definitions:

* `BlockSketch.Statement.profile`, `BlockSketch.profileAll` — how deep each statement stands;
* `BlockSketch.scanDepths` — how deep each block of a chain is read.

Main results:

* `BlockSketch.nestingAll_le_iff` — nesting is a matter of depths;
* `BlockSketch.profile_readScopes` — **the statements of a reading stand as deep as its blocks are
  read**.
-/

import BlockSketch.Proofs.Encoding
import BlockSketch.Proofs.Rendering

set_option relaxedAutoImplicit false
set_option autoImplicit false

namespace BlockSketch

/-! ### How deep statements stand -/

mutual

/-- How deep a statement and each one inside it stands, and whether it is a container. -/
def Statement.profile (depth : Nat) : Statement → List (Nat × Bool)
  | .action _ => [(depth, false)]
  | .branch _ body otherwise =>
    (depth, true) :: (profileAll (depth + 1) body ++ profileAll (depth + 1) otherwise)
  | .forLoop _ _ _ _ body => (depth, true) :: profileAll (depth + 1) body
  | .whileLoop _ body => (depth, true) :: profileAll (depth + 1) body

/-- How deep the statements of a list and those inside them stand. -/
def profileAll (depth : Nat) : List Statement → List (Nat × Bool)
  | [] => []
  | s :: ss => s.profile depth ++ profileAll depth ss

end

theorem Statement.profile_eq (depth : Nat) (s : Statement) :
    s.profile depth = (depth, s.isContainer) ::
      (profileAll (depth + 1) s.body ++ profileAll (depth + 1) s.otherwise) := by
  cases s <;> simp [profile, body, otherwise, isContainer, profileAll]

/-- The statement of a block stands where the block does, and its bodies one deeper. -/
theorem Node.profile_of_statement? {n : Node} {body : List Statement} {s : Statement}
    (h : n.statement? body [] = some s) (hb : n.isContainer = false → body = []) (depth : Nat) :
    s.profile depth = (depth, n.isContainer) :: profileAll (depth + 1) body := by
  obtain ⟨hc, hbody, hother⟩ := bodies_of_statement? h hb fun _ => rfl
  rw [s.profile_eq, hc, hbody, hother, profileAll, List.append_nil]

/-- What is inside a container may stand as deep as before with one container less. -/
theorem forall_lt_container (depth bound : Nat) (ps : List (Nat × Bool)) :
    (∀ p ∈ (depth, true) :: ps, p.2 = true → p.1 < depth + bound) ↔
      1 ≤ bound ∧ ∀ p ∈ ps, p.2 = true → p.1 < depth + 1 + (bound - 1) := by
  rw [List.forall_mem_cons]
  constructor
  · rintro ⟨hd, hps⟩
    have hbound : 1 ≤ bound := by
      have := hd rfl
      omega
    refine ⟨hbound, fun p hp hc => ?_⟩
    have := hps p hp hc
    omega
  · rintro ⟨hbound, hps⟩
    refine ⟨fun _ => by omega, fun p hp hc => ?_⟩
    have := hps p hp hc
    omega

mutual

/-- Statements nest few containers exactly if none of these stands too deep. -/
theorem Statement.nesting_le_iff (s : Statement) (depth bound : Nat) :
    s.nesting ≤ bound ↔ ∀ p ∈ s.profile depth, p.2 = true → p.1 < depth + bound := by
  cases s with
  | action a => simp [Statement.nesting, Statement.profile]
  | branch c body otherwise =>
      rw [Statement.nesting, Statement.profile, forall_lt_container, List.forall_mem_append,
        ← nestingAll_le_iff body, ← nestingAll_le_iff otherwise]
      omega
  | forLoop name start stop step body =>
      rw [Statement.nesting, Statement.profile, forall_lt_container, ← nestingAll_le_iff body]
      omega
  | whileLoop c body =>
      rw [Statement.nesting, Statement.profile, forall_lt_container, ← nestingAll_le_iff body]
      omega

theorem nestingAll_le_iff (ss : List Statement) (depth bound : Nat) :
    nestingAll ss ≤ bound ↔ ∀ p ∈ profileAll depth ss, p.2 = true → p.1 < depth + bound := by
  cases ss with
  | nil => simp [nestingAll, profileAll]
  | cons s ss =>
      rw [nestingAll, Nat.max_le, s.nesting_le_iff depth, nestingAll_le_iff ss depth, profileAll,
        List.forall_mem_append]

end

/-- Containers that do not stand deeper than others do not stand too deep, if the others do not. -/
theorem forall_lt_of_forall₂ {ps qs : List (Nat × Bool)} {bound : Nat}
    (h : List.Forall₂ (fun p q => p.1 ≤ q.1 ∧ p.2 = q.2) ps qs)
    (hqs : ∀ q ∈ qs, q.2 = true → q.1 < bound) : ∀ p ∈ ps, p.2 = true → p.1 < bound := by
  induction h with
  | nil => simp
  | cons hpq _ ih =>
      rw [List.forall_mem_cons] at hqs ⊢
      exact ⟨fun hp => Nat.lt_of_le_of_lt hpq.1 (hqs.1 (hpq.2 ▸ hp)), ih hqs.2⟩

/-! ### How deep blocks are read -/

/-- How deep each block of a list is read, where `depth` scopes are open around the innermost one, and
whether it is a container. -/
def scanDepths : (depth : Nat) → List Node → List (Nat × Bool)
  | _, [] => []
  | depth, n :: ns =>
    if n.isEnd then scanDepths (depth - 1) ns
    else (depth, n.isContainer) :: scanDepths (if opensScope n ns then depth + 1 else depth) ns

/-- How deep the statements of scopes stand, where the first scope is `depth` deep and each one after
it is around the one before. -/
def scopesProfile : (depth : Nat) → List Outline → List (Nat × Bool)
  | _, [] => []
  | depth, o :: os => profileAll depth o.statements ++ scopesProfile (depth - 1) os

theorem scopesProfile_replicate_done (depth count : Nat) :
    scopesProfile depth (List.replicate count .done) = [] := by
  induction count generalizing depth with
  | zero => rfl
  | succ count ih =>
      rw [List.replicate_succ, scopesProfile, ih]
      rfl

/-- A block in front of an outline stands in front of what the outline has. -/
theorem profile_block {n : Node} {body : Outline} (hs : n.isSilent = false)
    (hb : n.isContainer = false → body = .done) (rest : Outline) (depth : Nat) :
    profileAll depth (Outline.block n body .done rest).statements =
      (depth, n.isContainer) ::
        (profileAll (depth + 1) body.statements ++ profileAll depth rest.statements) := by
  obtain ⟨s, hstatement⟩ :=
    Option.isSome_iff_exists.1 (n.statement?_isSome hs body.statements [])
  have hprofile := Node.profile_of_statement? hstatement (fun hc => by rw [hb hc]; rfl) depth
  have hst : n.statement? body.statements Outline.done.statements = some s := hstatement
  rw [Outline.statements, hst, Option.toList_some, List.singleton_append, profileAll, hprofile,
    List.cons_append]

/-- The statements of a reading stand as deep as its blocks are read. -/
theorem profile_readScopes {ns : List Node} (h : ∀ n ∈ ns, n.isSilent = n.isEnd) (depth : Nat) :
    scopesProfile depth ((readScopes depth ns).1 :: (readScopes depth ns).2) =
      scanDepths depth ns := by
  induction ns generalizing depth with
  | nil =>
      rw [readScopes_nil, scopesProfile, scopesProfile_replicate_done]
      rfl
  | cons n ns ih =>
      rw [List.forall_mem_cons] at h
      have ih (depth : Nat) := ih h.2 depth
      rw [scanDepths]
      cases he : n.isEnd with
      | true =>
          rw [if_pos rfl]
          cases depth with
          | zero => rw [readScopes_end_zero he, ih]
          | succ depth =>
              rw [readScopes_end_succ he, scopesProfile, Nat.add_sub_cancel, ih]
              rfl
      | false =>
          have hs : n.isSilent = false := h.1.trans he
          rw [if_neg (by simp)]
          cases ho : opensScope n ns with
          | true =>
              have hc : n.isContainer = true := (Bool.and_eq_true_iff.1 ho).1
              have hdepths := ih (depth + 1)
              obtain ⟨body, rest, outer, hr⟩ := exists_readScopes_succ depth ns
              rw [hr] at hdepths
              rw [readScopes_open he ho, hr, if_pos rfl, ← hdepths, scopesProfile,
                profile_block hs (by simp [hc])]
              simp [scopesProfile]
          | false =>
              rw [readScopes_plain he ho, if_neg (by simp), ← ih, scopesProfile,
                profile_block hs fun _ => rfl]
              rfl

end BlockSketch
