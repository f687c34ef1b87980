/-
**The cap on nesting.**

A container with a hundred others around it keeps no body.  This module says what that comes to in the
program: how deep containers stand there, which blocks are reported as too deep, and which of them are
reported as having no body.

A walk is told how much *room* is left for containers, and gives each body a little less.  One may also
think of a counter that belongs to the state of the walk, is raised before the bodies of a container and
lowered after them.  Whatever cuts the walks of the bodies short, the counter is back where it was, and
what it leaves is the room.

The blocks that a walk claims are listed with the number of containers around them.  From this list
follow all three, the statements, the reports and the warnings of a walk.

Main definitions:

* `BlockSketch.placedAll`, `BlockSketch.Program.places` — statements with the number of containers
  around them;
* `BlockSketch.CountedWalks` — the rules of the walk, with a counter;
* `BlockSketch.Surveys` — what a walk reports of the blocks that it claims;
* `BlockSketch.Graph.visits` — the claimed blocks, each with its statement and how deep it stands.

Main results:

* `BlockSketch.countedWalks_iff_walks` — the counter comes back to where it was, and the walk is the
  one with the room that it leaves;
* `BlockSketch.Walks.exists_visits` — the blocks of a walk, its statements and its reports;
* `BlockSketch.Graph.build_caps_nesting` — **no container stands too deep, and those that stand as deep
  as they may are empty and reported once**.
-/

import BlockSketch.Proofs.SlotTargets
import BlockSketch.Proofs.Twins

set_option relaxedAutoImplicit false
set_option autoImplicit false

namespace BlockSketch

/-! ### Statements in their places -/

mutual

/-- A statement and each one inside it, with the number of containers around it. -/
def Statement.placed (depth : Nat) : Statement → List (Nat × Statement)
  | .action a => [(depth, .action a)]
  | .branch c body otherwise =>
    (depth, .branch c body otherwise) :: (placedAll (depth + 1) body ++ placedAll (depth + 1) otherwise)
  | .forLoop name start stop step body =>
    (depth, .forLoop name start stop step body) :: placedAll (depth + 1) body
  | .whileLoop c body => (depth, .whileLoop c body) :: placedAll (depth + 1) body

/-- The statements of a list and those inside them, with the number of containers around them. -/
def placedAll (depth : Nat) : List Statement → List (Nat × Statement)
  | [] => []
  | s :: ss => s.placed depth ++ placedAll depth ss

end

theorem Statement.placed_eq (depth : Nat) (s : Statement) :
    s.placed depth =
      (depth, s) :: (placedAll (depth + 1) s.body ++ placedAll (depth + 1) s.otherwise) := by
  cases s <;> simp [placed, body, otherwise, placedAll]

mutual

/-- The places of a statement are those of the statement and of all inside it. -/
theorem Statement.placed_map_snd (depth : Nat) (s : Statement) :
    (s.placed depth).map Prod.snd = s.flatten := by
  cases s with
  | action a => rfl
  | branch c body otherwise =>
      rw [Statement.placed, Statement.flatten, List.map_cons, List.map_append, placedAll_map_snd,
        placedAll_map_snd]
  | forLoop name start stop step body =>
      rw [Statement.placed, Statement.flatten, List.map_cons, placedAll_map_snd]
  | whileLoop c body => rw [Statement.placed, Statement.flatten, List.map_cons, placedAll_map_snd]

theorem placedAll_map_snd (depth : Nat) (ss : List Statement) :
    (placedAll depth ss).map Prod.snd = flattenAll ss := by
  cases ss with
  | nil => rfl
  | cons s ss =>
      rw [placedAll, flattenAll, List.map_append, s.placed_map_snd, placedAll_map_snd]

end

/-- Every statement of a program, with the number of containers around it. -/
def Program.places (p : Program) : List (Nat × Statement) :=
  placedAll 0 p.setup ++ placedAll 0 p.loop

theorem Program.places_map_snd (p : Program) : p.places.map Prod.snd = p.statements := by
  rw [places, List.map_append, placedAll_map_snd, placedAll_map_snd]
  rfl

/-! ### A counter -/

/-- `CountedWalks b chain visited start depth w ss depth' w'`: the rules of the walk with a counter that
stands at `depth` before and at `depth'` after it.  The counter is raised before the bodies of a
container and lowered after them, and a container has bodies only if it is below its bound. -/
inductive CountedWalks (b : Blueprint) :
    Chain → List String → Option String → Nat → Walk → List Statement → Nat → Walk → Prop
  | done {chain : Chain} {visited : List String} {depth : Nat} {w : Walk} :
      CountedWalks b chain visited none depth w [] depth w
  | cycle {chain : Chain} {visited : List String} {id : String} {depth : Nat} {w : Walk} :
      id ∈ visited →
      CountedWalks b chain visited (some id) depth w [] depth (w.fault (.cycle chain id))
  | silent {chain : Chain} {visited : List String} {id : String} {node : Node} {depth depth' : Nat}
      {w w' : Walk} {ss : List Statement} :
      id ∉ visited → nodeById? b.nodes id = some node → node.isSilent = true →
      CountedWalks b chain (id :: visited) (b.target? id .next) depth w ss depth' w' →
      CountedWalks b chain visited (some id) depth w ss depth' w'
  | shared {chain : Chain} {visited : List String} {id : String} {node : Node} {depth : Nat}
      {w : Walk} :
      id ∉ visited → nodeById? b.nodes id = some node → node.isSilent = false →
      id ∈ w.claimed →
      CountedWalks b chain visited (some id) depth w [] depth (w.fault (.shared id))
  | action {chain : Chain} {visited : List String} {id : String} {node : Node} {depth depth' : Nat}
      {w w' : Walk} {rest : List Statement} {s : Statement} :
      id ∉ visited → nodeById? b.nodes id = some node → node.isSilent = false →
      id ∉ w.claimed → node.isContainer = false → node.statement? [] [] = some s →
      CountedWalks b chain (id :: visited) (b.target? id .next) depth
        (b.meet (maxNesting - depth) node w) rest depth' w' →
      CountedWalks b chain visited (some id) depth w (s :: rest) depth' w'
  | container {chain : Chain} {visited : List String} {id : String} {node : Node}
      {depth d₁ d₂ d₃ : Nat} {w w₁ w₂ w₃ : Walk} {body otherwise rest : List Statement}
      {s : Statement} :
      id ∉ visited → nodeById? b.nodes id = some node → node.isSilent = false →
      id ∉ w.claimed → node.isContainer = true →
      CountedWalks b node.bodyChain [] (b.bodyWithin? (maxNesting - depth) node) (depth + 1)
        (b.meet (maxNesting - depth) node w) body d₁ w₁ →
      CountedWalks b (.ifElse node.id) [] (b.otherwiseWithin? (maxNesting - depth) node) d₁ w₁
        otherwise d₂ w₂ →
      node.statement? body otherwise = some s →
      CountedWalks b chain (id :: visited) (b.target? id .next) (d₂ - 1) w₂ rest d₃ w₃ →
      CountedWalks b chain visited (some id) depth w (s :: rest) d₃ w₃

section Counter

variable {b : Blueprint} {chain : Chain} {visited : List String} {start : Option String}
  {w w' : Walk} {ss : List Statement} {depth depth' : Nat}

/-- A chain without a start is walked in no time. -/
theorem Walks.eq_of_none {room : Nat} (h : Walks b room chain visited none w ss w') :
    ss = [] ∧ w' = w := by
  cases h
  exact ⟨rfl, rfl⟩

/-- A walk has the outcome that it has and no other. -/
theorem Walks.iff {room : Nat} (h : Walks b room chain visited start w ss w') {ts : List Statement}
    {v : Walk} : Walks b room chain visited start w ts v ↔ ts = ss ∧ v = w' := by
  constructor
  · intro h'
    exact h'.unique h
  · rintro ⟨rfl, rfl⟩
    exact h

/-- A block that is no container has no body to walk. -/
theorem Blueprint.within?_eq_none {n : Node} (h : n.isContainer = false) (room : Nat) :
    b.bodyWithin? room n = none ∧ b.otherwiseWithin? room n = none := by
  rw [bodyWithin?, otherwiseWithin?, bodyStart?_eq_none h, otherwiseStart?_eq_none h, ite_self]
  exact ⟨rfl, rfl⟩

/-- Where there is no room, no body is walked. -/
theorem Blueprint.within?_zero (n : Node) :
    b.bodyWithin? 0 n = none ∧ b.otherwiseWithin? 0 n = none :=
  ⟨if_pos rfl, if_pos rfl⟩

/-- A walk can be counted, and its counter is back where it was. -/
theorem Walks.counted {room : Nat} (h : Walks b room chain visited start w ss w') {depth : Nat}
    (hroom : room = maxNesting - depth) :
    CountedWalks b chain visited start depth w ss depth w' := by
  induction h generalizing depth with
  | done => exact .done
  | cycle hv => exact .cycle hv
  | silent hv hn hs _ ih => exact .silent hv hn hs (ih hroom)
  | shared hv hn hs hc => exact .shared hv hn hs hc
  | @block room _ _ id node _ _ _ _ _ _ _ _ hv hn hs hc hbody hother hst _ ihbody ihother ihrest =>
      subst hroom
      cases hcon : node.isContainer with
      | true =>
          have hinner : maxNesting - depth - 1 = maxNesting - (depth + 1) := by omega
          exact .container hv hn hs hc hcon (ihbody hinner) (ihother hinner) hst (ihrest rfl)
      | false =>
          obtain ⟨hb, ho⟩ := Blueprint.within?_eq_none (b := b) hcon (maxNesting - depth)
          rw [hb] at hbody
          rw [ho] at hother
          obtain ⟨rfl, rfl⟩ := hbody.eq_of_none
          obtain ⟨rfl, rfl⟩ := hother.eq_of_none
          exact .action hv hn hs hc hcon hst (ihrest rfl)

/-- A counted walk is one with the room that the counter leaves, and the counter is back where it was. -/
theorem CountedWalks.walks (h : CountedWalks b chain visited start depth w ss depth' w') :
    depth' = depth ∧ Walks b (maxNesting - depth) chain visited start w ss w' := by
  induction h with
  | done => exact ⟨rfl, .done⟩
  | cycle hv => exact ⟨rfl, .cycle hv⟩
  | silent hv hn hs _ ih => exact ⟨ih.1, .silent hv hn hs ih.2⟩
  | shared hv hn hs hc => exact ⟨rfl, .shared hv hn hs hc⟩
  | @action _ _ id node depth _ w _ _ s hv hn hs hc hcon hst _ ih =>
      obtain ⟨hb, ho⟩ := Blueprint.within?_eq_none (b := b) hcon (maxNesting - depth)
      exact ⟨ih.1, .block hv hn hs hc (by rw [hb]; exact .done) (by rw [ho]; exact .done) hst ih.2⟩
  | @container _ _ id node depth d₁ d₂ d₃ _ _ _ _ _ _ _ s hv hn hs hc _ _ _ hst _ ihbody ihother
      ihrest =>
      obtain ⟨rfl, hbody⟩ := ihbody
      obtain ⟨rfl, hother⟩ := ihother
      have hinner : maxNesting - (depth + 1) = maxNesting - depth - 1 := by omega
      rw [hinner] at hbody hother
      rw [Nat.add_sub_cancel] at ihrest
      exact ⟨ihrest.1, .block hv hn hs hc hbody hother hst ihrest.2⟩

/-- **The counter comes back to where it was, and the walk is the one with the room that it leaves.** -/
theorem countedWalks_iff_walks :
    CountedWalks b chain visited start depth w ss depth' w' ↔
      depth' = depth ∧ Walks b (maxNesting - depth) chain visited start w ss w' := by
  constructor
  · exact CountedWalks.walks
  · rintro ⟨rfl, h⟩
    exact h.counted rfl

end Counter

/-! ### Claimed blocks and what is reported of them -/

/-- Whether a block with so many containers around it is a container that is nested too deep. -/
def Node.isCutAt (depth : Nat) (n : Node) : Bool :=
  n.isContainer && depth == maxNesting

/-- Whether a block with so many containers around it is a container that could have a body and has
none. -/
def Blueprint.lacksBodyAt (b : Blueprint) (depth : Nat) (n : Node) : Bool :=
  n.isContainer && decide (depth < maxNesting) && (b.target? n.id .body).isNone

/-- The block that a fault reports as nested too deep. -/
def Fault.tooDeep? : Fault → Option String
  | .tooDeep id => some id
  | _ => none

/-- Between two states a walk has claimed the given blocks, each with so many containers around it; it
has reported those that are nested too deep, and has kept the titles of those without a body. -/
structure Surveys (b : Blueprint) (w : Walk) (vs : List (Nat × Node)) (w' : Walk) : Prop where
  claimed : w'.claimed = w.claimed ++ vs.map fun v => v.2.id
  faults : w'.faults.filterMap Fault.tooDeep? =
    w.faults.filterMap Fault.tooDeep? ++ (vs.filter fun v => v.2.isCutAt v.1).map fun v => v.2.id
  emptyBodies : ∀ t, t ∈ w'.emptyBodies ↔
    t ∈ w.emptyBodies ∨ ∃ v ∈ vs, b.lacksBodyAt v.1 v.2 = true ∧ v.2.title = t
  nodup : w.emptyBodies.Nodup → w'.emptyBodies.Nodup

theorem Walk.mem_emptyBody {w : Walk} {title t : String} :
    t ∈ (w.emptyBody title).emptyBodies ↔ t ∈ w.emptyBodies ∨ title = t := by
  unfold emptyBody
  split <;> rename_i h
  · exact ⟨Or.inl, fun ht => ht.elim id fun ht => ht ▸ h⟩
  · simp [eq_comm]

theorem Walk.nodup_emptyBody {w : Walk} (h : w.emptyBodies.Nodup) (title : String) :
    (w.emptyBody title).emptyBodies.Nodup := by
  unfold emptyBody
  split <;> rename_i hmem
  · exact h
  · rw [← List.concat_eq_append]
    exact h.concat hmem

/-- Meeting a container without a body keeps its title, if there is room for a body. -/
theorem Blueprint.meet_emptyBodies (b : Blueprint) (room : Nat) (n : Node) (w : Walk) :
    (b.meet room n w).emptyBodies =
      if n.isContainer = true ∧ room ≠ 0 ∧ (b.target? n.id .body).isNone = true then
        (w.emptyBody n.title).emptyBodies
      else w.emptyBodies := by
  have hclaim (v : Walk) (hv : v.emptyBodies = w.emptyBodies) :
      (v.emptyBody n.title).emptyBodies = (w.emptyBody n.title).emptyBodies := by
    unfold Walk.emptyBody
    rw [hv]
    split <;> simp [hv]
  unfold meet checkBody
  rw [inner?_isNone]
  dsimp only
  by_cases hc : n.isContainer = true
  · by_cases hroom : room = 0
    · simp only [hc, hroom, decide_true, if_true, ne_eq, not_true, false_and, and_false, if_false]
      split_ifs <;> rfl
    · simp only [hc, hroom, decide_false, Bool.false_eq_true, if_true, if_false, ne_eq,
        not_false_eq_true, true_and]
      split_ifs <;> first | rfl | exact hclaim _ rfl
  · simp only [hc, Bool.false_eq_true, if_false, false_and]
    split_ifs <;> rfl

namespace Surveys

variable {b : Blueprint} {w w₁ w₂ : Walk} {vs us : List (Nat × Node)}

theorem refl (b : Blueprint) (w : Walk) : Surveys b w [] w :=
  ⟨by simp, by simp, by simp, id⟩

theorem trans (h : Surveys b w vs w₁) (h' : Surveys b w₁ us w₂) : Surveys b w (vs ++ us) w₂ where
  claimed := by rw [h'.claimed, h.claimed, List.map_append, List.append_assoc]
  faults := by
    rw [h'.faults, h.faults, List.filter_append, List.map_append, List.append_assoc]
  emptyBodies t := by
    rw [h'.emptyBodies, h.emptyBodies, or_assoc]
    simp only [List.mem_append, or_and_right, exists_or]
  nodup hd := h'.nodup (h.nodup hd)

/-- Any other fault leaves all this as it is. -/
theorem fault (b : Blueprint) (w : Walk) {f : Fault} (hf : f.tooDeep? = none) :
    Surveys b w [] (w.fault f) where
  claimed := by simp
  faults := by simp [hf]
  emptyBodies := by simp [Walk.fault]
  nodup := id

/-- Meeting a block where the counter leaves so much room. -/
theorem meet {depth room : Nat} (hroom : depth + room = maxNesting) (n : Node) (w : Walk) :
    Surveys b w [(depth, n)] (b.meet room n w) := by
  have hcut : depth = maxNesting ↔ room = 0 := by omega
  have hlt : depth < maxNesting ↔ room ≠ 0 := by omega
  constructor
  · exact b.meet_claimed room n w
  · rw [b.meet_faults, List.filterMap_append]
    by_cases hc : n.isContainer = true ∧ room = 0
    · simp [hc.1, hc.2, Node.isCutAt, hcut, Fault.tooDeep?]
    · have hcut' : n.isCutAt depth = false := by
        rw [Node.isCutAt, ← Bool.not_eq_true, Bool.and_eq_true, beq_iff_eq, hcut]
        exact hc
      simp [hc, hcut']
  · intro t
    rw [b.meet_emptyBodies]
    have hlacks : b.lacksBodyAt depth n = true ↔
        n.isContainer = true ∧ room ≠ 0 ∧ (b.target? n.id .body).isNone = true := by
      rw [Blueprint.lacksBodyAt, Bool.and_eq_true, Bool.and_eq_true, decide_eq_true_eq, hlt, and_assoc]
    split <;> rename_i h
    · simp [Walk.mem_emptyBody, hlacks.2 h]
    · simp [mt hlacks.1 h]
  · intro hd
    rw [b.meet_emptyBodies]
    split
    · exact Walk.nodup_emptyBody hd _
    · exact hd

end Surveys

/-! ### The blocks of a walk -/

/-- A block with so many containers around it has become the statement at a place: it is as deep as the
block, it is what the block renders as, and at the cap it is empty. -/
structure Settles (b : Blueprint) (v : Nat × Node) (p : Nat × Statement) : Prop where
  block : nodeById? b.nodes v.2.id = some v.2
  yields : v.2.isSilent = false
  renders : v.2.RendersAs p.2
  depth : p.1 = v.1
  container : p.2.isContainer = v.2.isContainer
  le : p.1 ≤ maxNesting
  cut : p.1 = maxNesting → p.2.body = [] ∧ p.2.otherwise = []

namespace Settles

variable {b : Blueprint} {v : Nat × Node} {p : Nat × Statement}

/-- Whether a block is nested too deep can be seen at its place. -/
theorem isCutAt_iff (h : Settles b v p) :
    v.2.isCutAt v.1 = true ↔ p.2.isContainer = true ∧ p.1 = maxNesting := by
  rw [Node.isCutAt, Bool.and_eq_true, beq_iff_eq, h.container, h.depth]

/-- So can whether it could have a body and has none. -/
theorem lacksBodyAt_iff (h : Settles b v p) : b.lacksBodyAt v.1 v.2 = true ↔
    p.2.isContainer = true ∧ p.1 < maxNesting ∧ b.target? v.2.id .body = none := by
  rw [Blueprint.lacksBodyAt, Bool.and_eq_true, Bool.and_eq_true, decide_eq_true_eq,
    Option.isNone_iff_eq_none, h.container, h.depth, and_assoc]

end Settles

/-- **The blocks of a walk, its statements and its reports**: each block that the walk claims becomes a
statement as deep as the block stands, and the reports are about these blocks. -/
theorem Walks.exists_visits {b : Blueprint} {room : Nat} {chain : Chain} {visited : List String}
    {start : Option String} {w w' : Walk} {ss : List Statement}
    (h : Walks b room chain visited start w ss w') {depth : Nat} (hroom : depth + room = maxNesting) :
    ∃ vs, Surveys b w vs w' ∧ List.Forall₂ (Settles b) vs (placedAll depth ss) := by
  induction h generalizing depth with
  | done => exact ⟨[], .refl b _, .nil⟩
  | cycle _ => exact ⟨[], .fault b _ rfl, .nil⟩
  | silent _ _ _ _ ih => exact ih hroom
  | shared _ _ _ _ => exact ⟨[], .fault b _ rfl, .nil⟩
  | @block room _ _ id node w w₁ w₂ w₃ body otherwise rest s _ hn hs _ hbody hother hst _ ihbody
      ihother ihrest =>
      have hid : node.id = id := nodeById?_id hn
      have hb (hc : node.isContainer = false) : body = [] := by
        rw [(Blueprint.within?_eq_none hc room).1] at hbody
        exact hbody.eq_nil
      have ho (hc : node.isBranch = false) : otherwise = [] := by
        rw [Blueprint.otherwiseWithin?, Blueprint.otherwiseStart?, hc] at hother
        simp only [Bool.false_eq_true, if_false, ite_self] at hother
        exact hother.eq_nil
      obtain ⟨hcon, hsb, hso⟩ := Node.bodies_of_statement? hst hb ho
      -- at the cap there are no bodies, and below it they are one deeper
      obtain ⟨bs, os, hbs, hos, hpb, hpo, hcut⟩ : ∃ bs os,
          Surveys b (b.meet room node w) bs w₁ ∧ Surveys b w₁ os w₂ ∧
          List.Forall₂ (Settles b) bs (placedAll (depth + 1) body) ∧
          List.Forall₂ (Settles b) os (placedAll (depth + 1) otherwise) ∧
          (depth = maxNesting → body = [] ∧ otherwise = []) := by
        cases room with
        | zero =>
            rw [(Blueprint.within?_zero node).1] at hbody
            rw [(Blueprint.within?_zero node).2] at hother
            obtain ⟨rfl, rfl⟩ := hbody.eq_of_none
            obtain ⟨rfl, rfl⟩ := hother.eq_of_none
            exact ⟨[], [], .refl b _, .refl b _, .nil, .nil, fun _ => ⟨rfl, rfl⟩⟩
        | succ room =>
            have hroom' : depth + 1 + (room + 1 - 1) = maxNesting := by omega
            obtain ⟨bs, hbs, hpb⟩ := ihbody hroom'
            obtain ⟨os, hos, hpo⟩ := ihother hroom'
            exact ⟨bs, os, hbs, hos, hpb, hpo, fun hdepth => by omega⟩
      obtain ⟨rs, hrs, hpr⟩ := ihrest hroom
      refine ⟨(depth, node) :: (bs ++ os ++ rs), ?_, ?_⟩
      · exact (Surveys.meet hroom node w).trans ((hbs.trans hos).trans hrs)
      · rw [placedAll, s.placed_eq, hsb, hso, List.cons_append]
        refine .cons ⟨?_, hs, Node.rendersAs_of_statement? hst, rfl, hcon, ?_, ?_⟩ ?_
        · rw [hid]
          exact hn
        · exact Nat.le.intro hroom
        · rw [hsb, hso]
          exact hcut
        · exact List.rel_append (List.rel_append hpb hpo) hpr

/-! ### Reports and their messages -/

theorem Fault.eq_tooDeep_of_message {f : Fault} {id : String}
    (h : f.message = (Fault.tooDeep id).message) : f = .tooDeep id := by
  have hinitial : f.initial = 'N' := by
    have hhead := f.head?_message
    rw [h, head?_message] at hhead
    exact (Option.some.inj hhead).symm
  cases f with
  | tooDeep id' =>
      rw [(String.append_right_inj _).1 ((String.append_left_inj _).1 h)]
  | shared id' =>
      -- the second characters differ
      have hshared : (Fault.shared id').message.toList.take 2 = ['N', 'o'] := by
        unfold message
        simp only [String.toList_append, List.append_assoc]
        rfl
      have hdeep : (Fault.tooDeep id).message.toList.take 2 = ['N', 'e'] := by
        unfold message
        simp only [String.toList_append, List.append_assoc]
        rfl
      rw [h, hdeep] at hshared
      exact absurd hshared (by decide)
  | _ => simp [initial] at hinitial

/-- Counting messages about a block that is nested too deep is counting the block among those that are
reported so. -/
theorem Fault.count_tooDeep_message (fs : List Fault) (id : String) :
    (fs.map message).count (Fault.tooDeep id).message = (fs.filterMap tooDeep?).count id := by
  induction fs with
  | nil => rfl
  | cons f fs ih =>
      rw [List.map_cons, List.count_cons, ih, List.filterMap_cons]
      by_cases hf : f.message = (Fault.tooDeep id).message
      · obtain rfl := eq_tooDeep_of_message hf
        simp [tooDeep?]
      · cases f with
        | tooDeep id' =>
            have hne : id' ≠ id := fun heq => hf (by rw [heq])
            simp [tooDeep?, hf, hne]
        | _ => simp [tooDeep?, hf]

namespace Graph

variable (g : Graph)

/-- The claimed blocks, each with its statement and the number of containers around it. -/
def visits : List (String × Nat × Statement) :=
  (g.setupClaims ++ g.loopClaims).zip g.build.places

/-- What both walks together claim, build and report. -/
theorem exists_visits : ∃ vs, Surveys g.blueprint g.firstWalk vs g.walkLoop.2 ∧
    List.Forall₂ (Settles g.blueprint) vs g.build.places ∧
    g.setupClaims ++ g.loopClaims = vs.map fun v => v.2.id := by
  obtain ⟨ss, hss, hps⟩ := g.walkSetup_walks.exists_visits (Nat.zero_add maxNesting)
  obtain ⟨ls, hls, hpl⟩ := g.walkLoop_walks.exists_visits (Nat.zero_add maxNesting)
  have hsurvey := hss.trans hls
  refine ⟨ss ++ ls, hsurvey, List.rel_append hps hpl, ?_⟩
  rw [← walkLoop_claimed, hsurvey.claimed]
  rfl

theorem firstWalk_tooDeep : g.firstWalk.faults.filterMap Fault.tooDeep? = [] := by
  rw [List.filterMap_eq_nil_iff]
  intro f hf
  rw [firstWalk, List.mem_append] at hf
  rcases hf with hf | hf
  · obtain ⟨s, k, rfl⟩ := mem_slotTable_faults hf
    rfl
  · split at hf
    · rw [List.mem_singleton.1 hf]
      rfl
    · cases hf

/-- The message about a container without a body is as frequent as its title. -/
theorem count_emptyBody (t : String) :
    (g.build.warnings.map Warning.message).count (Warning.emptyBody t).message =
      g.walkLoop.2.emptyBodies.count t := by
  have hwalk : Warning.emptyBody t ∉ g.walkLoop.2.warnings := by
    intro h
    rcases mem_walkLoop_warnings h with h | ⟨_, h⟩ | ⟨_, h⟩ <;> cases h
  -- only one part of the warnings is about such containers
  have hother {α : Type} {f : α → Warning} (xs : List α) (hf : ∀ x, f x ≠ .emptyBody t) :
      (xs.map f).count (.emptyBody t) = 0 := by
    rw [List.count_eq_zero, List.mem_map]
    rintro ⟨x, -, hx⟩
    exact hf x hx
  rw [Warning.count_message fun y => Warning.eq_of_message_eq rfl]
  simp only [build, List.count_append]
  rw [List.count_eq_zero.2 hwalk, List.count_map_of_injective _ _ (fun _ _ => Warning.emptyBody.inj),
    hother _ (by simp), hother _ (by simp), hother _ (by simp)]
  simp

section Visits

variable {g} {vs : List (Nat × Node)}

/-- A property of claimed blocks and their statements, said of the blocks alone. -/
theorem exists_visit_iff (hsettles : List.Forall₂ (Settles g.blueprint) vs g.build.places)
    (hclaims : g.setupClaims ++ g.loopClaims = vs.map fun v => v.2.id)
    {P : String × Nat × Statement → Prop} {Q : Nat × Node → Prop}
    (hPQ : ∀ v p, Settles g.blueprint v p → (P (v.2.id, p) ↔ Q v)) :
    (∃ v ∈ g.visits, P v) ↔ ∃ v ∈ vs, Q v := by
  rw [visits, hclaims]
  clear hclaims
  generalize g.build.places = ps at hsettles
  induction hsettles with
  | nil => simp
  | cons h _ ih =>
      rw [List.map_cons, List.zip_cons_cons, List.exists_mem_cons_iff, List.exists_mem_cons_iff, ih,
        hPQ _ _ h]

/-- The blocks that are reported as nested too deep are those that are cut off, each once. -/
theorem count_tooDeep (hsurvey : Surveys g.blueprint g.firstWalk vs g.walkLoop.2)
    (hclaims : g.setupClaims ++ g.loopClaims = vs.map fun v => v.2.id) (id : String) :
    (g.build.faults.map Fault.message).count (Fault.tooDeep id).message =
      if ∃ v ∈ vs, v.2.id = id ∧ v.2.isCutAt v.1 = true then 1 else 0 := by
  have hfaults : g.build.faults.filterMap Fault.tooDeep? =
      (vs.filter fun v => v.2.isCutAt v.1).map fun v => v.2.id := by
    have h := hsurvey.faults
    rwa [g.firstWalk_tooDeep, List.nil_append] at h
  have hd : ((vs.filter fun v => v.2.isCutAt v.1).map fun v => v.2.id).Nodup := by
    refine List.Nodup.sublist (List.filter_sublist.map _) ?_
    rw [← hclaims]
    rw [← walkLoop_claimed]
    exact g.walkLoop_walks.nodup (g.walkSetup_walks.nodup List.nodup_nil)
  rw [Fault.count_tooDeep_message, hfaults, hd.count]
  refine if_congr ?_ rfl rfl
  simp only [List.mem_map, List.mem_filter]
  constructor
  · rintro ⟨v, ⟨hv, hcut⟩, hid⟩
    exact ⟨v, hv, hid, hcut⟩
  · rintro ⟨v, hv, hid, hcut⟩
    exact ⟨v, ⟨hv, hcut⟩, hid⟩

/-- The titles that are reported as having no body are those of the containers that lack one, each
once. -/
theorem count_missingBody (hsurvey : Surveys g.blueprint g.firstWalk vs g.walkLoop.2) (t : String) :
    (g.build.warnings.map Warning.message).count (Warning.emptyBody t).message =
      if ∃ v ∈ vs, g.blueprint.lacksBodyAt v.1 v.2 = true ∧ v.2.title = t then 1 else 0 := by
  have hd : g.walkLoop.2.emptyBodies.Nodup := hsurvey.nodup List.nodup_nil
  have hmem := hsurvey.emptyBodies t
  rw [show g.firstWalk.emptyBodies = [] from rfl] at hmem
  rw [g.count_emptyBody, hd.count]
  exact if_congr (hmem.trans (by simp)) rfl rfl

end Visits

/-- **No container stands too deep, and those that stand as deep as they may are empty and reported
once.**  The claimed blocks are, in order, those of the statements.  Each container has at most a hundred
others around it; if it has so many, its bodies are empty and its block is reported, once and no other
block.  Titles are reported as having no body for containers with fewer around them only.  A counter of
the containers around is back at zero after the walk of each root. -/
theorem build_caps_nesting :
    g.build.places.map Prod.snd = g.build.statements ∧
    List.Forall₂ (fun id p => ∃ n, nodeById? g.nodes id = some n ∧ n.isSilent = false ∧
      n.RendersAs p.2) (g.setupClaims ++ g.loopClaims) g.build.places ∧
    (∀ p ∈ g.build.places, p.2.isContainer = true →
      p.1 ≤ 100 ∧ (p.1 = 100 → p.2.body = [] ∧ p.2.otherwise = [])) ∧
    (∀ id, (g.build.faults.map Fault.message).count
        ("Nesting deeper than 100 at node " ++ id ++ ".") =
      if ∃ v ∈ g.visits, v.1 = id ∧ v.2.2.isContainer = true ∧ v.2.1 = 100 then 1 else 0) ∧
    (∀ t, (g.build.warnings.map Warning.message).count
        ("\"" ++ t ++ "\" has no body connected.") =
      if ∃ v ∈ g.visits, v.2.2.isContainer = true ∧ v.2.1 < 100 ∧
        g.blueprint.target? v.1 .body = none ∧
        (nodeById? g.nodes v.1).map Node.title = some t then 1 else 0) ∧
    (∀ ss depth w, CountedWalks g.blueprint .setup [] (g.start? .setup) 0 g.firstWalk ss depth w ↔
      depth = 0 ∧ ss = g.build.setup ∧ w = g.walkSetup.2) ∧
    ∀ ss depth w, CountedWalks g.blueprint .loop [] (g.start? .loop) 0 g.walkSetup.2 ss depth w ↔
      depth = 0 ∧ ss = g.build.loop ∧ w = g.walkLoop.2 := by
  obtain ⟨vs, hsurvey, hsettles, hclaims⟩ := g.exists_visits
  refine ⟨g.build.places_map_snd, ?_, ?_, fun id => ?_, fun t => ?_, fun ss depth w => ?_,
    fun ss depth w => ?_⟩
  · rw [hclaims, List.forall₂_map_left_iff]
    exact hsettles.imp fun v p h => ⟨v.2, h.block, h.yields, h.renders⟩
  · intro p hp _
    obtain ⟨v, -, h⟩ := exists_of_forall₂_of_mem hsettles hp
    exact ⟨h.le, h.cut⟩
  · refine (count_tooDeep hsurvey hclaims id).trans (if_congr ?_ rfl rfl)
    refine (exists_visit_iff hsettles hclaims fun v p h => ?_).symm
    exact and_congr_right fun _ => h.isCutAt_iff.symm
  · refine (count_missingBody hsurvey t).trans (if_congr ?_ rfl rfl)
    refine (exists_visit_iff hsettles hclaims fun v p h => ?_).symm
    have htitle : nodeById? g.nodes v.2.id = some v.2 := h.block
    rw [h.lacksBodyAt_iff, htitle, Option.map_some, Option.some.injEq, and_assoc, and_assoc]
    exact Iff.rfl
  · rw [countedWalks_iff_walks, Nat.sub_zero]
    exact and_congr_right fun _ => g.walkSetup_walks.iff
  · rw [countedWalks_iff_walks, Nat.sub_zero]
    exact and_congr_right fun _ => g.walkLoop_walks.iff

end Graph

end BlockSketch
