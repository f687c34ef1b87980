/-
**The guarded walk as a relation.**

`BlockSketch.Blueprint.build` follows chains with fuel, a list of the blocks that the chain has met,
and the state of the whole walk.  The relation `BlockSketch.Walks` says the same with one rule for
each thing that can happen at a block, so that a fact about walks is proved by induction over the
rules, bodies of containers included.  Fuel has no part in it: since no block is met twice in a chain,
it never runs out.

Main definitions:

* `BlockSketch.Blueprint.meet` — the state of a walk after a block is claimed, before its bodies;
* `BlockSketch.Walks` — the rules.

Main results:

* `BlockSketch.Blueprint.build_walks` — **the program's walk follows the rules**;
* `BlockSketch.Walks.claimed_prefix`, `BlockSketch.Walks.faults_prefix` — a walk only adds to what
  is claimed and reported;
* `BlockSketch.Walks.nodup` — no block is claimed twice.
-/

import BlockSketch.Proofs.Outline

set_option relaxedAutoImplicit false
set_option autoImplicit false

namespace BlockSketch

/-! ### One block -/

/-- The chain of a container's body. -/
def Node.bodyChain (n : Node) : Chain :=
  match n.kind? with
  | some .forLoop => .forBody n.id
  | some .whileLoop => .whileBody n.id
  | _ => .ifBody n.id

/-- Whether a block is a counting loop that would stand still. -/
def Node.hasZeroStep (n : Node) : Bool :=
  match n.kind?.bind fun k => headerOf? k n.params with
  | some (.forLoop _ _ _ step) => step = 0
  | _ => false

namespace Blueprint

/-- The way to build the bodies of a container where `room` containers may stand inside each
other; none if there is no room. -/
def inner? (b : Blueprint) : (room : Nat) → Option ChainBuilder
  | 0 => none
  | room + 1 => some (b.build room)

theorem build_eq (b : Blueprint) (room : Nat) (chain : Chain) (start : Option String) (w : Walk) :
    b.build room chain start w =
      b.chainFrom (b.inner? room) chain (b.nodes.length + 1) [] start w := by
  cases room <;> rfl

/-- The state of a walk after a block is claimed and what there is to say about it is said. -/
def meet (b : Blueprint) (room : Nat) (n : Node) (w : Walk) : Walk :=
  let w := w.claim n.id
  let w := if n.kind?.isNone then w.warn (.unknownBlock n.id) else w
  let w := if n.isContainer then b.checkBody (b.inner? room) n w else w
  if n.hasZeroStep then w.warn (.zeroStep n.title) else w

/-- Where the body of a block starts, if there is room for it. -/
def bodyWithin? (b : Blueprint) (room : Nat) (n : Node) : Option String :=
  if room = 0 then none else b.bodyStart? n

/-- Where the second body of a block starts, if there is room for it. -/
def otherwiseWithin? (b : Blueprint) (room : Nat) (n : Node) : Option String :=
  if room = 0 then none else b.otherwiseStart? n

end Blueprint

section Fields

variable (w : Walk)

@[simp] theorem Walk.claim_claimed (id : String) : (w.claim id).claimed = w.claimed ++ [id] := rfl

@[simp] theorem Walk.claim_faults (id : String) : (w.claim id).faults = w.faults := rfl

@[simp] theorem Walk.fault_claimed (f : Fault) : (w.fault f).claimed = w.claimed := rfl

@[simp] theorem Walk.fault_faults (f : Fault) : (w.fault f).faults = w.faults ++ [f] := rfl

@[simp] theorem Walk.warn_claimed (x : Warning) : (w.warn x).claimed = w.claimed := rfl

@[simp] theorem Walk.warn_faults (x : Warning) : (w.warn x).faults = w.faults := rfl

@[simp] theorem Walk.claim_warnings (id : String) : (w.claim id).warnings = w.warnings := rfl

@[simp] theorem Walk.fault_warnings (f : Fault) : (w.fault f).warnings = w.warnings := rfl

@[simp] theorem Walk.warn_warnings (x : Warning) : (w.warn x).warnings = w.warnings ++ [x] := rfl

@[simp] theorem Walk.emptyBody_warnings (t : String) : (w.emptyBody t).warnings = w.warnings := by
  unfold Walk.emptyBody
  split <;> rfl

@[simp] theorem Walk.emptyBody_claimed (t : String) : (w.emptyBody t).claimed = w.claimed := by
  unfold Walk.emptyBody
  split <;> rfl

@[simp] theorem Walk.emptyBody_faults (t : String) : (w.emptyBody t).faults = w.faults := by
  unfold Walk.emptyBody
  split <;> rfl

end Fields

namespace Blueprint

theorem inner?_isNone (b : Blueprint) (room : Nat) : (b.inner? room).isNone = decide (room = 0) := by
  cases room <;> rfl

theorem checkBody_claimed (b : Blueprint) (inner : Option ChainBuilder) (n : Node) (w : Walk) :
    (b.checkBody inner n w).claimed = w.claimed := by
  unfold checkBody
  split_ifs <;> simp

theorem checkBody_faults (b : Blueprint) (inner : Option ChainBuilder) (n : Node) (w : Walk) :
    (b.checkBody inner n w).faults =
      w.faults ++ if inner.isNone then [.tooDeep n.id] else [] := by
  unfold checkBody
  split_ifs <;> simp

@[simp] theorem meet_claimed (b : Blueprint) (room : Nat) (n : Node) (w : Walk) :
    (b.meet room n w).claimed = w.claimed ++ [n.id] := by
  unfold meet
  dsimp only
  split_ifs <;> simp [checkBody_claimed]

theorem checkBody_warnings (b : Blueprint) (inner : Option ChainBuilder) (n : Node) (w : Walk) :
    (b.checkBody inner n w).warnings = w.warnings := by
  unfold checkBody
  split_ifs <;> simp

/-- Meeting a block warns of a missing kind and of a loop that would stand still. -/
theorem mem_meet_warnings {b : Blueprint} {room : Nat} {n : Node} {w : Walk} {x : Warning}
    (hx : x ∈ (b.meet room n w).warnings) :
    x ∈ w.warnings ∨ (∃ id, x = .unknownBlock id) ∨ ∃ title, x = .zeroStep title := by
  unfold meet at hx
  dsimp only at hx
  split_ifs at hx
  all_goals simp only [checkBody_warnings, Walk.warn_warnings, Walk.claim_warnings,
    List.mem_append, List.mem_singleton] at hx
  all_goals grind

/-- Meeting a block is a fault only if it is a container for which there is no room. -/
theorem meet_faults (b : Blueprint) (room : Nat) (n : Node) (w : Walk) :
    (b.meet room n w).faults =
      w.faults ++ if n.isContainer ∧ room = 0 then [.tooDeep n.id] else [] := by
  unfold meet
  dsimp only
  split_ifs <;> simp_all [checkBody_faults, inner?_isNone]

/-- Where no fault says otherwise, there was room for the bodies of a block. -/
theorem hasRoom_of_not_mem {b : Blueprint} {room : Nat} {n : Node} {w : Walk}
    (h : Fault.tooDeep n.id ∉ (b.meet room n w).faults) : ¬ (n.isContainer ∧ room = 0) := by
  intro hdeep
  rw [meet_faults, if_pos hdeep] at h
  exact h List.mem_concat_self

end Blueprint

namespace Blueprint

variable {b : Blueprint} {n : Node} {room : Nat}

/-- Where there is room for a block's bodies, they are walked from their starts. -/
theorem bodyWithin?_eq (h : ¬ (n.isContainer ∧ room = 0)) :
    b.bodyWithin? room n = b.bodyStart? n := by
  unfold bodyWithin?
  split
  · have hc : n.isContainer = false := by simp_all
    rw [bodyStart?_eq_none hc]
  · rfl

theorem otherwiseWithin?_eq (h : ¬ (n.isContainer ∧ room = 0)) :
    b.otherwiseWithin? room n = b.otherwiseStart? n := by
  unfold otherwiseWithin?
  split
  · have hc : n.isContainer = false := by simp_all
    rw [otherwiseStart?_eq_none hc]
  · rfl

end Blueprint

/-! ### The rules -/

/-- `Walks b room chain visited start w ss w'`: in the state `w`, the part of the chain from `start`
on yields the statements `ss` and leaves the state `w'`, where the chain has met `visited` before and
`room` containers may stand inside each other. -/
inductive Walks (b : Blueprint) :
    Nat → Chain → List String → Option String → Walk → List Statement → Walk → Prop
  | done {room : Nat} {chain : Chain} {visited : List String} {w : Walk} :
      Walks b room chain visited none w [] w
  | cycle {room : Nat} {chain : Chain} {visited : List String} {id : String} {w : Walk} :
      id ∈ visited →
      Walks b room chain visited (some id) w [] (w.fault (.cycle chain id))
  | silent {room : Nat} {chain : Chain} {visited : List String} {id : String} {node : Node}
      {w w' : Walk} {ss : List Statement} :
      id ∉ visited → nodeById? b.nodes id = some node → node.isSilent = true →
      Walks b room chain (id :: visited) (b.target? id .next) w ss w' →
      Walks b room chain visited (some id) w ss w'
  | shared {room : Nat} {chain : Chain} {visited : List String} {id : String} {node : Node}
      {w : Walk} :
      id ∉ visited → nodeById? b.nodes id = some node → node.isSilent = false →
      id ∈ w.claimed →
      Walks b room chain visited (some id) w [] (w.fault (.shared id))
  | block {room : Nat} {chain : Chain} {visited : List String} {id : String} {node : Node}
      {w w₁ w₂ w₃ : Walk} {body otherwise rest : List Statement} {s : Statement} :
      id ∉ visited → nodeById? b.nodes id = some node → node.isSilent = false →
      id ∉ w.claimed →
      Walks b (room - 1) node.bodyChain [] (b.bodyWithin? room node) (b.meet room node w) body w₁ →
      Walks b (room - 1) (.ifElse node.id) [] (b.otherwiseWithin? room node) w₁ otherwise w₂ →
      node.statement? body otherwise = some s →
      Walks b room chain (id :: visited) (b.target? id .next) w₂ rest w₃ →
      Walks b room chain visited (some id) w (s :: rest) w₃

/-! ### The walk of a program follows the rules -/

/-- The header of a container tells its kind. -/
theorem headerOf?_cases {k : Kind} {ps : Fields} {h : Header} (hh : headerOf? k ps = some h) :
    (∃ c, h = .branch c ∧ (k = .ifThen ∨ k = .ifElse)) ∨
      (∃ name start stop step, h = .forLoop name start stop step ∧ k = .forLoop) ∨
      ∃ c, h = .whileLoop c ∧ k = .whileLoop := by
  cases k with
  | ifThen | ifElse =>
      simp only [headerOf?, Option.pure_def, Option.bind_eq_bind, Option.bind_eq_some_iff,
        Option.some.injEq] at hh
      obtain ⟨c, _, rfl⟩ := hh
      exact Or.inl ⟨c, rfl, by simp⟩
  | forLoop =>
      simp only [headerOf?, Option.pure_def, Option.bind_eq_bind, Option.bind_eq_some_iff,
        Option.some.injEq] at hh
      obtain ⟨name, _, start, _, stop, _, step, _, rfl⟩ := hh
      exact Or.inr (Or.inl ⟨name, start, stop, step, rfl, rfl⟩)
  | whileLoop =>
      simp only [headerOf?, Option.pure_def, Option.bind_eq_bind, Option.bind_eq_some_iff,
        Option.some.injEq] at hh
      obtain ⟨c, _, rfl⟩ := hh
      exact Or.inr (Or.inr ⟨c, rfl, rfl⟩)
  | _ => simp [headerOf?] at hh

theorem isContainer_of_headerOf? {k : Kind} {ps : Fields} {h : Header}
    (hh : headerOf? k ps = some h) : k.isContainer = true := by
  obtain ⟨_, _, rfl | rfl⟩ | ⟨_, _, _, _, _, rfl⟩ | ⟨_, _, rfl⟩ := headerOf?_cases hh <;> rfl

/-- A way to build bodies follows the rules. -/
def InnerWalks (b : Blueprint) (room : Nat) : Prop :=
  ∀ r, room = r + 1 → ∀ chain start w, (∀ id, start = some id → (nodeById? b.nodes id).isSome) →
    Walks b r chain [] start w (b.build r chain start w).1 (b.build r chain start w).2

section Statement

variable {b : Blueprint} {room : Nat} {node : Node}

/-- Building a body that there is a slot for follows the rules. -/
theorem bodyOf_walks (hb : b.Closed) (hin : InnerWalks b room) (chain : Chain) (id : String)
    (slot : Slot) (w : Walk) :
    Walks b (room - 1) chain [] (if room = 0 then none else b.target? id slot) w
      (b.bodyOf (b.inner? room) chain id slot w).1
      (b.bodyOf (b.inner? room) chain id slot w).2 := by
  cases room with
  | zero => exact Walks.done
  | succ r => exact hin r rfl chain _ w fun _ h => hb h

/-- The statement of a container, with the walks of its bodies. -/
theorem container_walks (hb : b.Closed) (hin : InnerWalks b room) {k : Kind} {h : Header}
    (hk : node.kind? = some k) (hh : headerOf? k node.params = some h) (w : Walk) :
    ∃ body w₁ otherwise,
      Walks b (room - 1) node.bodyChain [] (b.bodyWithin? room node) (b.meet room node w) body w₁ ∧
      Walks b (room - 1) (.ifElse node.id) [] (b.otherwiseWithin? room node) w₁ otherwise
        (b.container (b.inner? room) node h (w.claim node.id)).2 ∧
      (b.container (b.inner? room) node h (w.claim node.id)).1 = h.statement body otherwise := by
  have hcon : node.isContainer = true := by
    simp [Node.isContainer, hk, isContainer_of_headerOf? hh]
  have hmeet : b.meet room node w =
      match h with
      | .forLoop _ _ _ step =>
        if step = 0 then
          (b.checkBody (b.inner? room) node (w.claim node.id)).warn (.zeroStep node.title)
        else b.checkBody (b.inner? room) node (w.claim node.id)
      | _ => b.checkBody (b.inner? room) node (w.claim node.id) := by
    cases h <;> simp [Blueprint.meet, hcon, Node.hasZeroStep, hk, hh]
  have hbody : b.bodyWithin? room node = if room = 0 then none else b.target? node.id .body := by
    rw [Blueprint.bodyWithin?, Blueprint.bodyStart?, if_pos hcon]
  -- only a branch has a second body
  have hloop (hk : node.isBranch = false) : b.otherwiseWithin? room node = none := by
    simp [Blueprint.otherwiseWithin?, Blueprint.otherwiseStart?, hk]
  rw [hmeet, hbody]
  obtain ⟨c, rfl, hkc⟩ | ⟨name, start, stop, step, rfl, rfl⟩ | ⟨c, rfl, rfl⟩ := headerOf?_cases hh
  · have hchain : node.bodyChain = .ifBody node.id := by
      rcases hkc with rfl | rfl <;> simp [Node.bodyChain, hk]
    have hbranch : node.isBranch = true := by
      rcases hkc with rfl | rfl <;> simp [Node.isBranch, hk, Kind.isBranch]
    rw [hchain, Blueprint.otherwiseWithin?, Blueprint.otherwiseStart?, if_pos hbranch]
    exact ⟨_, _, _, bodyOf_walks hb hin _ _ _ _, bodyOf_walks hb hin _ _ _ _, rfl⟩
  · have hchain : node.bodyChain = .forBody node.id := by simp [Node.bodyChain, hk]
    rw [hchain, hloop (by simp [Node.isBranch, hk, Kind.isBranch])]
    exact ⟨_, _, _, bodyOf_walks hb hin _ _ _ _, Walks.done, rfl⟩
  · have hchain : node.bodyChain = .whileBody node.id := by simp [Node.bodyChain, hk]
    rw [hchain, hloop (by simp [Node.isBranch, hk, Kind.isBranch])]
    exact ⟨_, _, _, bodyOf_walks hb hin _ _ _ _, Walks.done, rfl⟩

/-- The statement of a block, with the walks of its bodies. -/
theorem statement_walks (hb : b.Closed) (hin : InnerWalks b room) (hs : node.isSilent = false)
    (w : Walk) :
    ∃ body w₁ otherwise s,
      Walks b (room - 1) node.bodyChain [] (b.bodyWithin? room node) (b.meet room node w) body w₁ ∧
      Walks b (room - 1) (.ifElse node.id) [] (b.otherwiseWithin? room node) w₁ otherwise
        (b.statement (b.inner? room) node (w.claim node.id)).2 ∧
      node.statement? body otherwise = some s ∧
      (b.statement (b.inner? room) node (w.claim node.id)).1 = some s := by
  -- a block that is no container has no bodies to walk
  have hleaf (hcon : node.isContainer = false) :
      b.bodyWithin? room node = none ∧ b.otherwiseWithin? room node = none := by
    simp [Blueprint.bodyWithin?, Blueprint.otherwiseWithin?, Blueprint.bodyStart?_eq_none hcon,
      Blueprint.otherwiseStart?_eq_none hcon]
  cases hk : node.kind? with
  | none =>
      have hcon : node.isContainer = false := by simp [Node.isContainer, hk]
      have hzero : node.hasZeroStep = false := by simp [Node.hasZeroStep, hk]
      rw [(hleaf hcon).1, (hleaf hcon).2]
      refine ⟨[], _, [], .action (.unknown (node.blockType.getD "")), Walks.done, ?_, ?_, ?_⟩
      · simpa [Blueprint.meet, Blueprint.statement, hk, hcon, hzero] using Walks.done
      · simp [Node.statement?, hk]
      · simp [Blueprint.statement, hk]
  | some k =>
      have hks : k.isSilent = false := by simpa [Node.isSilent, hk] using hs
      cases hkc : k.isContainer with
      | true =>
          obtain ⟨h, hh⟩ := Option.isSome_iff_exists.1 (headerOf?_isSome hkc node.params)
          obtain ⟨body, w₁, otherwise, hbody, hother, heq⟩ := container_walks hb hin hk hh w
          refine ⟨body, w₁, otherwise, h.statement body otherwise, hbody, ?_, ?_, ?_⟩
          · simpa [Blueprint.statement, hk, hkc, hh] using hother
          · simp [Node.statement?, hk, hks, hkc, hh]
          · simp [Blueprint.statement, hk, hkc, hh, heq]
      | false =>
          have hcon : node.isContainer = false := by simp [Node.isContainer, hk, hkc]
          have hzero : node.hasZeroStep = false := by
            cases hh : headerOf? k node.params with
            | none => simp [Node.hasZeroStep, hk, hh]
            | some h =>
                rw [isContainer_of_headerOf? hh] at hkc
                simp at hkc
          obtain ⟨a, ha⟩ := Option.isSome_iff_exists.1 (actionOf?_isSome hks hkc node.params)
          rw [(hleaf hcon).1, (hleaf hcon).2]
          refine ⟨[], _, [], .action a, Walks.done, ?_, ?_, ?_⟩
          · simpa [Blueprint.meet, Blueprint.statement, hk, hkc, hcon, hzero] using Walks.done
          · simp [Node.statement?, hk, hks, hkc, ha]
          · simp [Blueprint.statement, hk, hkc, ha]

end Statement

/-- The part of a chain from a block on follows the rules. -/
theorem Blueprint.chainFrom_walks {b : Blueprint} (hb : b.Closed) {room : Nat}
    (hin : InnerWalks b room) (chain : Chain) (fuel : Nat) :
    ∀ (visited : List String) (start : Option String) (w : Walk),
      Fuelled b.nodes visited fuel → (∀ id, start = some id → (nodeById? b.nodes id).isSome) →
      Walks b room chain visited start w
        (b.chainFrom (b.inner? room) chain fuel visited start w).1
        (b.chainFrom (b.inner? room) chain fuel visited start w).2 := by
  induction fuel with
  | zero =>
      intro visited start w hfuel _
      exact absurd hfuel.pos (Nat.lt_irrefl 0)
  | succ fuel ih =>
      intro visited start w hfuel hstart
      cases start with
      | none => exact Walks.done
      | some id =>
          by_cases hv : id ∈ visited
          · rw [chainFrom, if_pos hv]
            exact Walks.cycle hv
          · obtain ⟨node, hn⟩ := Option.isSome_iff_exists.1 (hstart id rfl)
            have hid : node.id = id := nodeById?_id hn
            -- the chain after this block, in any state
            have hrest (w : Walk) := ih (id :: visited) (b.target? id .next) w
              (hfuel.visit hv (hstart id rfl)) (fun _ h => hb h)
            rw [chainFrom, if_neg hv, hn]
            dsimp only
            by_cases hs : node.isSilent = true
            · rw [if_pos (by simpa [Node.isSilent] using hs)]
              exact Walks.silent hv hn hs (hrest w)
            · rw [if_neg (by simpa [Node.isSilent] using hs)]
              rw [Bool.not_eq_true] at hs
              by_cases hc : id ∈ w.claimed
              · rw [if_pos hc]
                exact Walks.shared hv hn hs hc
              · rw [if_neg hc]
                subst hid
                obtain ⟨body, w₁, otherwise, s, hbody, hother, hs', heq⟩ :=
                  statement_walks hb hin hs w
                simp only [heq]
                exact Walks.block hv hn hs hc hbody hother hs' (hrest _)

/-- **The program's walk follows the rules.** -/
theorem Blueprint.build_walks {b : Blueprint} (hb : b.Closed) (room : Nat) (chain : Chain)
    (start : Option String) (w : Walk)
    (hstart : ∀ id, start = some id → (nodeById? b.nodes id).isSome) :
    Walks b room chain [] start w (b.build room chain start w).1
      (b.build room chain start w).2 := by
  induction room generalizing chain start w with
  | zero =>
      rw [build_eq]
      refine chainFrom_walks hb ?_ chain _ [] start w (Fuelled.start _) hstart
      intro r hr
      omega
  | succ room ih =>
      rw [build_eq]
      refine chainFrom_walks hb ?_ chain _ [] start w (Fuelled.start _) hstart
      intro r hr chain start w hstart
      obtain rfl : room = r := by omega
      exact ih chain start w hstart

/-! ### What every walk keeps -/

namespace Walks

variable {b : Blueprint} {room : Nat} {chain : Chain} {visited : List String}
  {start : Option String} {w w' : Walk} {ss : List Statement}

/-- A walk only adds to what is claimed. -/
theorem claimed_prefix (h : Walks b room chain visited start w ss w') :
    w.claimed <+: w'.claimed := by
  induction h with
  | done => exact List.prefix_rfl
  | cycle _ => exact List.prefix_rfl
  | silent _ _ _ _ ih => exact ih
  | shared _ _ _ _ => exact List.prefix_rfl
  | block _ _ _ _ _ _ _ _ ihbody ihother ihrest =>
      rw [Blueprint.meet_claimed] at ihbody
      exact (((List.prefix_append _ _).trans ihbody).trans ihother).trans ihrest

/-- A walk only adds to what is reported. -/
theorem faults_prefix (h : Walks b room chain visited start w ss w') :
    w.faults <+: w'.faults := by
  induction h with
  | done => exact List.prefix_rfl
  | cycle _ => exact List.prefix_append _ _
  | silent _ _ _ _ ih => exact ih
  | shared _ _ _ _ => exact List.prefix_append _ _
  | block _ _ _ _ _ _ _ _ ihbody ihother ihrest =>
      rw [Blueprint.meet_faults] at ihbody
      exact (((List.prefix_append _ _).trans ihbody).trans ihother).trans ihrest

/-- No block is claimed twice. -/
theorem nodup (h : Walks b room chain visited start w ss w') (hd : w.claimed.Nodup) :
    w'.claimed.Nodup := by
  induction h with
  | done => exact hd
  | cycle _ => exact hd
  | silent _ _ _ _ ih => exact ih hd
  | shared _ _ _ _ => exact hd
  | block _ hn _ hc _ _ _ _ ihbody ihother ihrest =>
      refine ihrest (ihother (ihbody ?_))
      rw [Blueprint.meet_claimed, nodeById?_id hn]
      exact List.nodup_append.2 ⟨hd, by simp, by
        rintro x hx y hy rfl
        rw [List.mem_singleton] at hy
        exact hc (hy ▸ hx)⟩

/-- A walk warns of blocks without a kind and of loops that would stand still. -/
theorem mem_warnings (h : Walks b room chain visited start w ss w') {x : Warning}
    (hx : x ∈ w'.warnings) :
    x ∈ w.warnings ∨ (∃ id, x = .unknownBlock id) ∨ ∃ title, x = .zeroStep title := by
  induction h with
  | done => exact Or.inl hx
  | cycle _ => exact Or.inl hx
  | silent _ _ _ _ ih => exact ih hx
  | shared _ _ _ _ => exact Or.inl hx
  | block _ _ _ _ _ _ _ _ ihbody ihother ihrest =>
      rcases ihrest hx with hx | hx
      · rcases ihother hx with hx | hx
        · rcases ihbody hx with hx | hx
          · exact Blueprint.mem_meet_warnings hx
          · exact Or.inr hx
        · exact Or.inr hx
      · exact Or.inr hx

end Walks

/-! ### The two walks of a graph -/

namespace Graph

/-- Where the chain of the first root of a kind starts. -/
def start? (g : Graph) (k : Kind) : Option String :=
  g.blueprint.start? (g.root? k)

theorem walkSetup_walks (g : Graph) :
    Walks g.blueprint maxNesting .setup [] (g.start? .setup) g.firstWalk g.walkSetup.1
      g.walkSetup.2 :=
  Blueprint.build_walks g.blueprint_closed _ _ _ _ fun _ h => g.blueprint_closed.start? h

theorem walkLoop_walks (g : Graph) :
    Walks g.blueprint maxNesting .loop [] (g.start? .loop) g.walkSetup.2 g.walkLoop.1
      g.walkLoop.2 :=
  Blueprint.build_walks g.blueprint_closed _ _ _ _ fun _ h => g.blueprint_closed.start? h

end Graph

end BlockSketch
