/-
**The claimed blocks are the reachable ones.**

A chain that a walk follows may be cut short: it comes back to itself, or it meets a block that
another chain has claimed, be that one finished or not.  No block is lost by this.  Whatever follows a
claimed block is claimed by the walk that claimed it, so that in the end the claimed blocks are closed
under the slots that a walk follows; only the bodies of containers that are nested too deep are left
out.

Silent blocks are passed and never claimed.  The proof therefore looks from each block for the first
statement at or after it (`BlockSketch.Lands`): of a claimed block, the first statements along all its
slots are claimed as well.

Main definitions:

* `BlockSketch.Blueprint.Leads`, `BlockSketch.Reaches` — one step along a slot, and reachability;
* `BlockSketch.Blueprint.Yields` — the id of a block that yields a statement;
* `BlockSketch.Lands` — the first statement at or after a block;
* `BlockSketch.Graph.setupClaims`, `BlockSketch.Graph.loopClaims` — what the two walks claim.

Main results:

* `BlockSketch.Walks.reaches` — what a walk claims is reachable;
* `BlockSketch.Walks.settled` — what follows a claimed block is claimed;
* `BlockSketch.Warning.eq_of_message_eq` — messages that start with a title are like no others;
* `BlockSketch.Graph.claims_eq_reachable` — **no block is lost or misreported**.
-/

import BlockSketch.Proofs.Walks
import Mathlib.Logic.Relation
import Mathlib.Data.List.Count
import Mathlib.Data.List.Nodup

set_option relaxedAutoImplicit false
set_option autoImplicit false

namespace BlockSketch

/-! ### Reachability -/

namespace Blueprint

/-- One step from a block: along its next slot, into its body or into its second body. -/
inductive Leads (b : Blueprint) : String → String → Prop
  | next {x y : String} {n : Node} :
      nodeById? b.nodes x = some n → b.target? x .next = some y → Leads b x y
  | body {x y : String} {n : Node} :
      nodeById? b.nodes x = some n → b.bodyStart? n = some y → Leads b x y
  | otherwise {x y : String} {n : Node} :
      nodeById? b.nodes x = some n → b.otherwiseStart? n = some y → Leads b x y

/-- The id of a block that yields a statement: no root, no declaration and no end block. -/
def Yields (b : Blueprint) (id : String) : Prop :=
  ∃ n, nodeById? b.nodes id = some n ∧ n.isSilent = false

end Blueprint

/-- A block can be reached from a start. -/
def Reaches (b : Blueprint) (start : Option String) (id : String) : Prop :=
  ∃ x, start = some x ∧ Relation.ReflTransGen b.Leads x id

theorem Reaches.refl {b : Blueprint} (id : String) : Reaches b (some id) id :=
  ⟨id, rfl, Relation.ReflTransGen.refl⟩

/-- What can be reached from where the slots of a block lead can be reached from the block. -/
theorem Reaches.head {b : Blueprint} {x id : String} {start : Option String}
    (hx : ∀ y, start = some y → b.Leads x y) (h : Reaches b start id) : Reaches b (some x) id := by
  obtain ⟨y, hy, h⟩ := h
  exact ⟨x, rfl, Relation.ReflTransGen.head (hx y hy) h⟩

namespace Blueprint

variable {b : Blueprint} {n : Node} {room : Nat} {x y : String}

theorem bodyStart?_of_within (h : b.bodyWithin? room n = some y) : b.bodyStart? n = some y := by
  unfold bodyWithin? at h
  split at h
  · simp at h
  · exact h

theorem otherwiseStart?_of_within (h : b.otherwiseWithin? room n = some y) :
    b.otherwiseStart? n = some y := by
  unfold otherwiseWithin? at h
  split at h
  · simp at h
  · exact h

end Blueprint

theorem Blueprint.isSilent_of_bodyStart? (b : Blueprint) {n : Node} {y : String}
    (h : b.bodyStart? n = some y) : n.isSilent = false := by
  cases hs : n.isSilent with
  | false => rfl
  | true => simp [bodyStart?_eq_none (Node.isContainer_of_isSilent hs)] at h

theorem Blueprint.isSilent_of_otherwiseStart? (b : Blueprint) {n : Node} {y : String}
    (h : b.otherwiseStart? n = some y) : n.isSilent = false := by
  cases hs : n.isSilent with
  | false => rfl
  | true => simp [otherwiseStart?_eq_none (Node.isContainer_of_isSilent hs)] at h

/-- **What a walk claims is reachable**, and yields a statement. -/
theorem Walks.reaches {b : Blueprint} {room : Nat} {chain : Chain} {visited : List String}
    {start : Option String} {w w' : Walk} {ss : List Statement}
    (h : Walks b room chain visited start w ss w') {x : String} (hx : x ∈ w'.claimed) :
    x ∈ w.claimed ∨ (Reaches b start x ∧ b.Yields x) := by
  induction h with
  | done => exact Or.inl hx
  | cycle _ => exact Or.inl hx
  | silent _ hn _ _ ih =>
      rcases ih hx with h | ⟨hr, hy⟩
      · exact Or.inl h
      · exact Or.inr ⟨hr.head fun _ => Blueprint.Leads.next hn, hy⟩
  | shared _ _ _ _ => exact Or.inl hx
  | block _ hn hs _ _ _ _ _ ihbody ihother ihrest =>
      rcases ihrest hx with hx | ⟨hr, hy⟩
      · rcases ihother hx with hx | ⟨hr, hy⟩
        · rcases ihbody hx with hx | ⟨hr, hy⟩
          · rw [Blueprint.meet_claimed, nodeById?_id hn, List.mem_append, List.mem_singleton] at hx
            rcases hx with hx | rfl
            · exact Or.inl hx
            · exact Or.inr ⟨Reaches.refl x, _, hn, hs⟩
          · exact Or.inr ⟨hr.head fun _ h =>
              Blueprint.Leads.body hn (Blueprint.bodyStart?_of_within h), hy⟩
        · exact Or.inr ⟨hr.head fun _ h =>
            Blueprint.Leads.otherwise hn (Blueprint.otherwiseStart?_of_within h), hy⟩
      · exact Or.inr ⟨hr.head fun _ => Blueprint.Leads.next hn, hy⟩

/-! ### The first statement at or after a block -/

/-- `Lands b n start s`: the chain from `start` passes `n` silent blocks and comes to `s`, which
yields a statement. -/
inductive Lands (b : Blueprint) : Nat → Option String → String → Prop
  | here {id : String} {node : Node} :
      nodeById? b.nodes id = some node → node.isSilent = false → Lands b 0 (some id) id
  | pass {n : Nat} {id s : String} {node : Node} :
      nodeById? b.nodes id = some node → node.isSilent = true →
      Lands b n (b.target? id .next) s → Lands b (n + 1) (some id) s

section Lands

variable {b : Blueprint} {n : Nat} {id s : String} {node : Node}

/-- A chain that starts with a statement lands there. -/
theorem Lands.eq_of_yields (h : Lands b n (some id) s) (hn : nodeById? b.nodes id = some node)
    (hs : node.isSilent = false) : s = id := by
  cases h with
  | here _ _ => rfl
  | pass hn' hs' _ =>
      obtain rfl := Option.some.inj (hn.symm.trans hn')
      rw [hs] at hs'
      simp at hs'

/-- A chain that starts with a silent block lands where the rest of it does. -/
theorem Lands.of_silent (h : Lands b n (some id) s) (hn : nodeById? b.nodes id = some node)
    (hs : node.isSilent = true) : ∃ m, m < n ∧ Lands b m (b.target? id .next) s := by
  cases h with
  | here hn' hs' =>
      obtain rfl := Option.some.inj (hn.symm.trans hn')
      rw [hs] at hs'
      simp at hs'
  | pass _ _ h => exact ⟨_, Nat.lt_succ_self _, h⟩

end Lands

/-- The first statement of a chain is among the given blocks. -/
def Settled (b : Blueprint) (claimed : List String) (start : Option String) : Prop :=
  ∀ n s, Lands b n start s → s ∈ claimed

/-- The first statements along the slots of a block are among the given blocks. -/
structure SlotsSettled (b : Blueprint) (claimed : List String) (id : String) : Prop where
  next : Settled b claimed (b.target? id .next)
  body : ∀ n, nodeById? b.nodes id = some n → Settled b claimed (b.bodyStart? n)
  otherwise : ∀ n, nodeById? b.nodes id = some n → Settled b claimed (b.otherwiseStart? n)

theorem Settled.mono {b : Blueprint} {claimed claimed' : List String} {start : Option String}
    (h : Settled b claimed start) (hp : claimed <+: claimed') : Settled b claimed' start :=
  fun n s hl => hp.subset (h n s hl)

theorem SlotsSettled.mono {b : Blueprint} {claimed claimed' : List String} {id : String}
    (h : SlotsSettled b claimed id) (hp : claimed <+: claimed') : SlotsSettled b claimed' id :=
  ⟨h.next.mono hp, fun n hn => (h.body n hn).mono hp, fun n hn => (h.otherwise n hn).mono hp⟩

theorem SlotsSettled.of_node {b : Blueprint} {claimed : List String} {id : String} {node : Node}
    (hn : nodeById? b.nodes id = some node) (hnext : Settled b claimed (b.target? id .next))
    (hbody : Settled b claimed (b.bodyStart? node))
    (hother : Settled b claimed (b.otherwiseStart? node)) : SlotsSettled b claimed id := by
  have hnode {n : Node} (hn' : nodeById? b.nodes id = some n) : n = node :=
    Option.some.inj (hn'.symm.trans hn)
  exact ⟨hnext, fun n hn' => hnode hn' ▸ hbody, fun n hn' => hnode hn' ▸ hother⟩

/-- A set of blocks that is closed under slots holds every statement that can be reached from a
start whose first statement it holds. -/
theorem Reaches.mem_of_settled {b : Blueprint} {claimed : List String} {start : Option String}
    {id : String} (h : Reaches b start id) (hid : b.Yields id) (hstart : Settled b claimed start)
    (hslots : ∀ x ∈ claimed, SlotsSettled b claimed x) : id ∈ claimed := by
  obtain ⟨x, rfl, h⟩ := h
  have hsettled : Settled b claimed (some id) := by
    clear hid
    induction h with
    | refl => exact hstart
    | @tail y z _ hyz ih =>
        intro n s hl
        -- a container yields a statement, so it is among the blocks itself
        have hmem {node : Node} (hn : nodeById? b.nodes y = some node)
            (hs : node.isSilent = false) : y ∈ claimed := ih _ _ (Lands.here hn hs)
        cases hyz with
        | @next node hn hnext =>
            rw [← hnext] at hl
            cases hs : node.isSilent with
            | true => exact ih _ _ (Lands.pass hn hs hl)
            | false => exact (hslots y (hmem hn hs)).next _ _ hl
        | @body node hn hbody =>
            rw [← hbody] at hl
            exact (hslots y (hmem hn (b.isSilent_of_bodyStart? hbody))).body node hn _ _ hl
        | @otherwise node hn hother =>
            rw [← hother] at hl
            exact (hslots y (hmem hn (b.isSilent_of_otherwiseStart? hother))).otherwise node hn _ _ hl
  obtain ⟨node, hn, hs⟩ := hid
  exact hsettled 0 id (Lands.here hn hs)

/-! ### Walks settle what they claim -/

/-- What the blocks met before land on is claimed, or it is what the chain is about to land on after
fewer silent blocks. -/
def Passed (b : Blueprint) (visited claimed : List String) (start : Option String) : Prop :=
  ∀ v ∈ visited, ∀ n s, Lands b n (some v) s → s ∈ claimed ∨ ∃ m, m < n ∧ Lands b m start s

/-- A chain that is back at a block lands on what is claimed: on its way round it would pass ever
fewer silent blocks. -/
theorem Passed.settled {b : Blueprint} {visited claimed : List String} {id : String}
    (h : Passed b visited claimed (some id)) (hv : id ∈ visited) :
    Settled b claimed (some id) := by
  intro n
  induction n using Nat.strongRecOn with
  | ind n ih =>
      intro s hl
      rcases h id hv n s hl with hs | ⟨m, hm, hl'⟩
      · exact hs
      · exact ih m hm s hl'

theorem Passed.silent {b : Blueprint} {visited claimed : List String} {id : String} {node : Node}
    (h : Passed b visited claimed (some id)) (hn : nodeById? b.nodes id = some node)
    (hs : node.isSilent = true) :
    Passed b (id :: visited) claimed (b.target? id .next) := by
  intro v hv n s hl
  rcases List.mem_cons.1 hv with rfl | hv
  · exact Or.inr (hl.of_silent hn hs)
  · rcases h v hv n s hl with hs' | ⟨m, hm, hl'⟩
    · exact Or.inl hs'
    · obtain ⟨k, hk, hl''⟩ := hl'.of_silent hn hs
      exact Or.inr ⟨k, Nat.lt_trans hk hm, hl''⟩

theorem Passed.block {b : Blueprint} {visited claimed claimed' : List String} {id : String}
    {node : Node} (h : Passed b visited claimed (some id))
    (hn : nodeById? b.nodes id = some node) (hs : node.isSilent = false)
    (hsub : claimed ⊆ claimed') (hid : id ∈ claimed') :
    Passed b (id :: visited) claimed' (b.target? id .next) := by
  intro v hv n s hl
  rcases List.mem_cons.1 hv with rfl | hv
  · exact Or.inl (hl.eq_of_yields hn hs ▸ hid)
  · rcases h v hv n s hl with hs' | ⟨m, _, hl'⟩
    · exact Or.inl (hsub hs')
    · exact Or.inl (hl'.eq_of_yields hn hs ▸ hid)

/-- **What follows a claimed block is claimed**: after a walk in which no container was nested too
deep, the first statement of the chain is claimed, and so are those along the slots of each block
that the walk has claimed. -/
theorem Walks.settled {b : Blueprint} {room : Nat} {chain : Chain} {visited : List String}
    {start : Option String} {w w' : Walk} {ss : List Statement}
    (h : Walks b room chain visited start w ss w') (hdeep : ∀ id, Fault.tooDeep id ∉ w'.faults)
    (hpassed : Passed b visited w.claimed start) :
    Settled b w'.claimed start ∧
      ∀ x ∈ w'.claimed, x ∈ w.claimed ∨ SlotsSettled b w'.claimed x := by
  induction h with
  | done =>
      refine ⟨?_, fun x hx => Or.inl hx⟩
      intro n s hl
      cases hl
  | cycle hv => exact ⟨hpassed.settled hv, fun x hx => Or.inl hx⟩
  | silent _ hn hs _ ih =>
      obtain ⟨hnext, hslots⟩ := ih hdeep (hpassed.silent hn hs)
      refine ⟨?_, hslots⟩
      intro n s hl
      obtain ⟨m, _, hl'⟩ := hl.of_silent hn hs
      exact hnext m s hl'
  | shared _ hn hs hc =>
      refine ⟨?_, fun x hx => Or.inl hx⟩
      intro n s hl
      exact hl.eq_of_yields hn hs ▸ hc
  | @block room _ visited id node w w₁ w₂ w₃ _ _ _ _ _ hn hs _ hbody hother _ hrest ihbody ihother
      ihrest =>
      have hp₁ := hbody.claimed_prefix
      have hp₂ := hother.claimed_prefix
      have hp₃ := hrest.claimed_prefix
      have hdeep₂ : ∀ id, Fault.tooDeep id ∉ w₂.faults := fun id h =>
        hdeep id (hrest.faults_prefix.subset h)
      have hdeep₁ : ∀ id, Fault.tooDeep id ∉ w₁.faults := fun id h =>
        hdeep₂ id (hother.faults_prefix.subset h)
      have hroom : ¬ (node.isContainer ∧ room = 0) :=
        Blueprint.hasRoom_of_not_mem fun h => hdeep₁ node.id (hbody.faults_prefix.subset h)
      have hid : id ∈ (b.meet room node w).claimed := by
        rw [Blueprint.meet_claimed, nodeById?_id hn]
        exact List.mem_concat_self
      have hw : w.claimed ⊆ w₂.claimed := by
        rw [Blueprint.meet_claimed] at hp₁
        exact (((List.prefix_append _ _).trans hp₁).trans hp₂).subset
      -- each part settles its own start; what is settled stays so while more is claimed
      obtain ⟨hsb, hslotsb⟩ := ihbody hdeep₁ (by simp [Passed])
      obtain ⟨hso, hslotso⟩ := ihother hdeep₂ (by simp [Passed])
      obtain ⟨hsr, hslotsr⟩ :=
        ihrest hdeep (hpassed.block hn hs hw ((hp₁.trans hp₂).subset hid))
      rw [Blueprint.bodyWithin?_eq hroom] at hsb
      rw [Blueprint.otherwiseWithin?_eq hroom] at hso
      constructor
      · intro n s hl
        rw [hl.eq_of_yields hn hs]
        exact ((hp₁.trans hp₂).trans hp₃).subset hid
      · -- from the last part back to the first, and to the block itself
        intro x hx
        rcases hslotsr x hx with hx | hx
        · rcases hslotso x hx with hx | hx
          · rcases hslotsb x hx with hx | hx
            · rw [Blueprint.meet_claimed, nodeById?_id hn, List.mem_append, List.mem_singleton] at hx
              rcases hx with hx | rfl
              · exact Or.inl hx
              · exact Or.inr (.of_node hn hsr (hsb.mono (hp₂.trans hp₃)) (hso.mono hp₃))
            · exact Or.inr (hx.mono (hp₂.trans hp₃))
          · exact Or.inr (hx.mono hp₃)
        · exact Or.inr hx

/-! ### The two walks of a graph -/

namespace Graph

/-- The blocks that the walk of setup claims, in order. -/
def setupClaims (g : Graph) : List String :=
  g.walkSetup.2.claimed

/-- The blocks that the walk of loop claims, in order. -/
def loopClaims (g : Graph) : List String :=
  g.walkLoop.2.claimed.drop g.walkSetup.2.claimed.length

theorem walkLoop_claimed (g : Graph) : g.walkLoop.2.claimed = g.setupClaims ++ g.loopClaims :=
  (List.prefix_iff_eq_append.1 g.walkLoop_walks.claimed_prefix).symm

/-- What the walk of setup claims is what can be reached from its start. -/
theorem mem_setupClaims {g : Graph} (hdeep : ∀ id, Fault.tooDeep id ∉ g.walkLoop.2.faults)
    (id : String) :
    id ∈ g.setupClaims ↔ Reaches g.blueprint (g.start? .setup) id ∧ g.blueprint.Yields id := by
  have hdeep' : ∀ id, Fault.tooDeep id ∉ g.walkSetup.2.faults := fun id h =>
    hdeep id (g.walkLoop_walks.faults_prefix.subset h)
  obtain ⟨hstart, hslots⟩ := g.walkSetup_walks.settled hdeep' (by simp [Passed])
  constructor
  · intro h
    exact (g.walkSetup_walks.reaches h).resolve_left (by simp [firstWalk])
  · rintro ⟨hr, hy⟩
    refine hr.mem_of_settled hy hstart fun x hx => ?_
    exact (hslots x hx).resolve_left (by simp [firstWalk])

/-- What the walk of loop claims is what can be reached from its start and not from that of
setup. -/
theorem mem_loopClaims {g : Graph} (hdeep : ∀ id, Fault.tooDeep id ∉ g.walkLoop.2.faults)
    (id : String) :
    id ∈ g.loopClaims ↔ (Reaches g.blueprint (g.start? .loop) id ∧ g.blueprint.Yields id) ∧
      ¬ Reaches g.blueprint (g.start? .setup) id := by
  have hdeep' : ∀ id, Fault.tooDeep id ∉ g.walkSetup.2.faults := fun id h =>
    hdeep id (g.walkLoop_walks.faults_prefix.subset h)
  have hclaimed := g.walkLoop_claimed
  obtain ⟨-, hslots⟩ := g.walkSetup_walks.settled hdeep' (by simp [Passed])
  obtain ⟨hstart', hslots'⟩ := g.walkLoop_walks.settled hdeep (by simp [Passed])
  constructor
  · intro h
    have hd : (g.setupClaims ++ g.loopClaims).Nodup := by
      rw [← hclaimed]
      exact g.walkLoop_walks.nodup (g.walkSetup_walks.nodup List.nodup_nil)
    have hsetup : id ∉ g.setupClaims := fun hs => (List.nodup_append.1 hd).2.2 _ hs _ h rfl
    have hloop : id ∈ g.walkLoop.2.claimed := by
      rw [hclaimed]
      exact List.mem_append_right _ h
    obtain ⟨hr, hy⟩ := (g.walkLoop_walks.reaches hloop).resolve_left hsetup
    exact ⟨⟨hr, hy⟩, fun hr' => hsetup ((mem_setupClaims hdeep id).2 ⟨hr', hy⟩)⟩
  · rintro ⟨⟨hr, hy⟩, hnot⟩
    -- what was claimed before the walk of loop is closed by itself
    have hmem : id ∈ g.walkLoop.2.claimed := by
      refine hr.mem_of_settled hy hstart' fun x hx => ?_
      rcases hslots' x hx with hx | hx
      · exact ((hslots x hx).resolve_left (by simp [firstWalk])).mono
          g.walkLoop_walks.claimed_prefix
      · exact hx
    rw [hclaimed] at hmem
    rcases List.mem_append.1 hmem with hs | hl
    · exact absurd ((mem_setupClaims hdeep id).1 hs).1 hnot
    · exact hl

end Graph

/-! ### Lists without repeats -/

theorem mem_distinct {α : Type} [DecidableEq α] {x : α} {xs : List α} :
    x ∈ distinct xs ↔ x ∈ xs := by
  induction xs with
  | nil => simp [distinct]
  | cons y xs ih =>
      simp only [distinct, List.mem_cons, List.mem_filter, ih, decide_eq_true_eq]
      by_cases h : x = y <;> simp [h]

theorem nodup_distinct {α : Type} [DecidableEq α] (xs : List α) : (distinct xs).Nodup := by
  induction xs with
  | nil => exact List.nodup_nil
  | cons y xs ih =>
      rw [distinct, List.nodup_cons]
      exact ⟨by simp, ih.filter _⟩

/-! ### Messages of warnings -/

namespace Warning

/-- The first character of the message of a warning: a quote if it starts with a title or a name. -/
def initial : Warning → Char
  | .missingSetup => 'M'
  | .unknownBlock _ => 'U'
  | .pinConflict _ _ => 'P'
  | _ => '"'

/-- The last characters of the message of a warning, backwards. -/
def ending : Warning → List Char
  | .zeroStep _ => ['.', '1']
  | .emptyBody _ => ['.', 'd']
  | .unconnected _ => ['.', ')']
  | .servoConflict _ => ['.', 'n']
  | x => x.message.toList.reverse.take 2

theorem head?_message (x : Warning) : x.message.toList.head? = some x.initial := by
  cases x with
  | missingSetup => rfl
  | _ =>
      unfold message
      simp only [String.toList_append, List.append_assoc]
      rfl

theorem take_reverse_message (x : Warning) : x.message.toList.reverse.take 2 = x.ending := by
  cases x with
  | missingSetup | unknownBlock | pinConflict => rfl
  | _ =>
      unfold message
      rw [String.toList_append, List.reverse_append]
      rfl

/-- Warnings with the same message start with the same character. -/
theorem initial_eq_of_message_eq {x y : Warning} (h : x.message = y.message) :
    x.initial = y.initial := by
  rw [← Option.some.injEq, ← head?_message, h, head?_message]

theorem quoted_inj {s t rest : String} (h : "\"" ++ s ++ rest = "\"" ++ t ++ rest) : s = t :=
  (String.append_right_inj _).1 ((String.append_left_inj _).1 h)

/-- A message that starts with a title or a name is like no others. -/
theorem eq_of_message_eq {x y : Warning} (hy : y.initial = '"') (h : x.message = y.message) :
    x = y := by
  have hx : x.initial = '"' := (initial_eq_of_message_eq h).trans hy
  have hending : x.ending = y.ending := by
    rw [← take_reverse_message, h, take_reverse_message]
  -- the first character leaves the kinds that start with a title, and the last ones tell them apart
  cases y with
  | missingSetup | unknownBlock | pinConflict => simp [initial] at hy
  | zeroStep =>
      cases x with
      | zeroStep => exact congrArg zeroStep (quoted_inj h)
      | _ => simp [initial, ending] at hx hending
  | emptyBody =>
      cases x with
      | emptyBody => exact congrArg emptyBody (quoted_inj h)
      | _ => simp [initial, ending] at hx hending
  | unconnected =>
      cases x with
      | unconnected => exact congrArg unconnected (quoted_inj h)
      | _ => simp [initial, ending] at hx hending
  | servoConflict =>
      cases x with
      | servoConflict => exact congrArg servoConflict (quoted_inj h)
      | _ => simp [initial, ending] at hx hending

/-- Counting messages is counting warnings, if no other warning has the message. -/
theorem count_message {x : Warning} (hx : ∀ y : Warning, y.message = x.message → y = x)
    (ws : List Warning) : (ws.map message).count x.message = ws.count x := by
  rw [List.count, List.count, List.countP_map]
  refine List.countP_congr fun y _ => ?_
  simp only [Function.comp_apply, beq_iff_eq]
  exact ⟨hx y, fun h => by rw [h]⟩

end Warning

/-! ### Unconnected blocks -/

namespace Graph

/-- The walks warn of a missing root, of blocks without a kind and of loops that would stand still. -/
theorem mem_walkLoop_warnings {g : Graph} {x : Warning} (h : x ∈ g.walkLoop.2.warnings) :
    x = .missingSetup ∨ (∃ id, x = .unknownBlock id) ∨ ∃ title, x = .zeroStep title := by
  rcases g.walkLoop_walks.mem_warnings h with h | h
  · rcases g.walkSetup_walks.mem_warnings h with h | h
    · left
      unfold firstWalk at h
      dsimp only at h
      split at h
      · exact List.mem_singleton.1 h
      · cases h
    · exact Or.inr h
  · exact Or.inr h

theorem unconnected_not_mem_warnings (g : Graph) (t : String) :
    Warning.unconnected t ∉ g.walkLoop.2.warnings := by
  intro h
  rcases mem_walkLoop_warnings h with h | ⟨_, h⟩ | ⟨_, h⟩ <;> cases h

/-- Each title of an unconnected block is reported once, and no other. -/
theorem count_unconnected (g : Graph) (t : String) :
    (g.build.warnings.map Warning.message).count (Warning.unconnected t).message =
      if t ∈ g.unconnected g.walkLoop.2.claimed then 1 else 0 := by
  -- only one part of the warnings is about such blocks
  have hother {α : Type} {f : α → Warning} (xs : List α) (hf : ∀ x, f x ≠ .unconnected t) :
      (xs.map f).count (.unconnected t) = 0 := by
    rw [List.count_eq_zero, List.mem_map]
    rintro ⟨x, -, hx⟩
    exact hf x hx
  have hd : (g.unconnected g.walkLoop.2.claimed).Nodup := nodup_distinct _
  rw [Warning.count_message fun y => Warning.eq_of_message_eq rfl]
  simp only [build, List.count_append]
  rw [List.count_eq_zero.2 (g.unconnected_not_mem_warnings t), hother _ (by simp),
    List.count_map_of_injective _ _ (fun _ _ => Warning.unconnected.inj), hother _ (by simp),
    hother _ (by simp), hd.count]
  simp

theorem mem_unconnected {g : Graph} {claimed : List String} {t : String} :
    t ∈ g.unconnected claimed ↔
      ∃ n ∈ g.nodes, n.title = t ∧ ¬ n.kind?.any (fun k => k.isRoot || k.isDeclaration) ∧
        n.id ∉ claimed := by
  simp only [unconnected, mem_distinct, List.mem_map, List.mem_filter, Bool.and_eq_true,
    decide_eq_true_eq, Bool.not_eq_true']
  constructor
  · rintro ⟨n, ⟨hn, hk, hc⟩, ht⟩
    exact ⟨n, hn, ht, by simp [hk], hc⟩
  · rintro ⟨n, hn, ht, hk, hc⟩
    exact ⟨n, ⟨hn, by simpa using hk, hc⟩, ht⟩

/-- **No block is lost or misreported.**  Unless a container is nested too deep, the walks of setup
and loop claim what can be reached from their starts, whatever cuts them short, and each title of a
block that neither of them claims is reported once. -/
theorem claims_eq_reachable (g : Graph) (hdeep : ∀ id, Fault.tooDeep id ∉ g.build.faults) :
    (∀ id, id ∈ g.setupClaims ↔
      Reaches g.blueprint (g.start? .setup) id ∧ g.blueprint.Yields id) ∧
    (∀ id, id ∈ g.loopClaims ↔
      (Reaches g.blueprint (g.start? .loop) id ∧ g.blueprint.Yields id) ∧
        ¬ Reaches g.blueprint (g.start? .setup) id) ∧
    ∀ t, (g.build.warnings.map Warning.message).count
        ("\"" ++ t ++ "\" is not connected to setup() or loop().") =
      if ∃ n ∈ g.nodes, n.title = t ∧ ¬ n.kind?.any (fun k => k.isRoot || k.isDeclaration) ∧
        n.id ∉ g.setupClaims ++ g.loopClaims then 1 else 0 := by
  refine ⟨mem_setupClaims hdeep, mem_loopClaims hdeep, fun t => ?_⟩
  rw [← walkLoop_claimed]
  exact (g.count_unconnected t).trans (if_congr mem_unconnected rfl rfl)

/-- A graph with a chain that comes back to itself, a block that a body and loop share, and a block
without a link. -/
def tangled : Graph where
  nodes :=
    [Node.create .setup "s" .null .null, Node.create .loop "l" .null .null,
     Node.create .whileLoop "a" .null .null, Node.create .delay "b" .null .null,
     Node.create .comment "c" .null .null, Node.create .delay "lost" .null .null (some "Pause")]
  edges :=
    [Edge.typed "s" "a" .body, Edge.typed "a" "b" .body, Edge.typed "b" "a" .next,
     Edge.typed "a" "c" .next, Edge.typed "c" "c" .next, Edge.typed "l" "b" .body]

/-- Faults cut three chains short, and still all but one block are claimed. -/
theorem tangled_claims :
    tangled.build.faults = [.shared "a", .cycle .setup "c", .shared "b"] ∧
      "c" ∈ tangled.setupClaims ∧
      (tangled.build.warnings.map Warning.message).count
        ("\"" ++ "Pause" ++ "\" is not connected to setup() or loop().") = 1 := by
  have hfaults : tangled.build.faults = [.shared "a", .cycle .setup "c", .shared "b"] := by
    decide +kernel
  have hclaims := claims_eq_reachable tangled (by simp [hfaults])
  refine ⟨hfaults, (hclaims.1 "c").2 ⟨⟨"a", by decide +kernel, ?_⟩, ?_⟩, ?_⟩
  · exact Relation.ReflTransGen.single (Blueprint.Leads.next rfl (by decide +kernel))
  · exact ⟨_, rfl, by decide +kernel⟩
  · rw [hclaims.2.2 "Pause"]
    exact if_pos (by decide +kernel)

end Graph

end BlockSketch
