/-
**Twin blueprints are walked in step.**

Two blocks are *twins* under a renaming of ids if their ids correspond, their tags are the same and
their parameters have the same values.  Labels, the order of parameters, and what only the editor
reads may differ.  Blueprints are twins if each block has a twin at the new id, and each slot leads to
the new id of what it led to.

A walk compares ids and does nothing else with them.  So it is repeated on the twin, rule by rule: it
yields the same statements, and it claims and reports the same under the new ids.  Only warnings may
differ, since they name blocks by their labels.

Main definitions:

* `BlockSketch.Node.IsTwin`, `BlockSketch.Blueprint.IsTwin` — twins under a renaming;
* `BlockSketch.Walk.IsTwin` — two walks have claimed and reported the same;
* `BlockSketch.Program.code` — what the sketch of a program is written from.

Main results:

* `BlockSketch.Walks.unique` — a walk has one outcome;
* `BlockSketch.Walks.transfer` — **a walk is repeated on the twin**;
* `BlockSketch.Graph.bodies_of_isTwin` — graphs with twin blueprints have the same statements.
-/

import BlockSketch.Proofs.Totality

set_option relaxedAutoImplicit false
set_option autoImplicit false

namespace BlockSketch

/-! ### Renaming -/

/-- The chain under new ids. -/
def Chain.rename (f : String → String) : Chain → Chain
  | .setup => .setup
  | .loop => .loop
  | .ifBody id => .ifBody (f id)
  | .ifElse id => .ifElse (f id)
  | .forBody id => .forBody (f id)
  | .whileBody id => .whileBody (f id)

/-- The fault under new ids. -/
def Fault.rename (f : String → String) : Fault → Fault
  | .multipleOutputs source slot => .multipleOutputs (f source) slot
  | .missingLoop => .missingLoop
  | .cycle chain id => .cycle (chain.rename f) (f id)
  | .shared id => .shared (f id)
  | .tooDeep id => .tooDeep (f id)

@[simp] theorem Chain.rename_id (c : Chain) : c.rename id = c := by
  cases c <;> rfl

@[simp] theorem Fault.rename_id (x : Fault) : x.rename id = x := by
  cases x <;> simp [Fault.rename]

/-! ### Parameters by their values -/

section Params

variable {ps qs : Fields} (h : Fields.get? qs = Fields.get? ps) (k : Kind)
include h

theorem textParam?_congr : textParam? k qs = textParam? k ps := by
  funext key
  simp only [textParam?, Fields.text, h]

theorem expressionParam?_congr : expressionParam? k qs = expressionParam? k ps := by
  funext key
  simp only [expressionParam?, Fields.expression, h]

theorem numberParam?_congr : numberParam? k qs = numberParam? k ps := by
  funext key
  simp only [numberParam?, Fields.number, h]

theorem operandParam?_congr : operandParam? k qs = operandParam? k ps := by
  funext key
  rw [operandParam?, numberParam?_congr h, operandParam?]

/-- The action of a block depends on the values of its parameters only. -/
theorem actionOf?_congr : actionOf? k qs = actionOf? k ps := by
  simp only [actionOf?, textParam?_congr h, expressionParam?_congr h, operandParam?_congr h,
    notFalse, h]

/-- So does the header of a container. -/
theorem headerOf?_congr : headerOf? k qs = headerOf? k ps := by
  simp only [headerOf?, textParam?_congr h, numberParam?_congr h]

/-- So does the declaration of a variable block. -/
theorem declarationOf?_congr : declarationOf? qs = declarationOf? ps := by
  simp only [declarationOf?, trimmedParam?, Fields.text, Fields.expression, h]

/-- So does the mode that a block sets for a pin. -/
theorem pinModeOf?_congr : pinModeOf? qs = pinModeOf? ps := by
  have hmode : Fields.text qs "mode" "INPUT" = Fields.text ps "mode" "INPUT" := by
    simp only [Fields.text, h]
  rw [pinModeOf?, h, hmode, pinModeOf?]

end Params

/-! ### Twin blocks -/

/-- Two blocks that differ in nothing but their ids and what a program does not depend on. -/
structure Node.IsTwin (f : String → String) (n m : Node) : Prop where
  id : m.id = f n.id
  blockType : m.blockType = n.blockType
  params : ∀ key, Fields.get? m.params key = Fields.get? n.params key

namespace Node.IsTwin

variable {f : String → String} {n m : Node} (h : n.IsTwin f m)
include h

theorem get?_eq : Fields.get? m.params = Fields.get? n.params :=
  funext h.params

theorem kind?_eq : m.kind? = n.kind? := by
  rw [kind?, h.blockType, kind?]

theorem isSilent_eq : m.isSilent = n.isSilent := by
  rw [isSilent, h.kind?_eq, isSilent]

theorem isContainer_eq : m.isContainer = n.isContainer := by
  rw [isContainer, h.kind?_eq, isContainer]

theorem isBranch_eq : m.isBranch = n.isBranch := by
  rw [isBranch, h.kind?_eq, isBranch]

theorem hasKind_eq (k : Kind) : m.hasKind k = n.hasKind k := by
  rw [hasKind, h.kind?_eq, hasKind]

theorem isRoot_eq : m.isRoot = n.isRoot := by
  rw [Node.isRoot, h.kind?_eq, Node.isRoot]

theorem isEnd_eq : m.isEnd = n.isEnd :=
  h.hasKind_eq .endBlock

theorem statement?_eq : m.statement? = n.statement? := by
  funext body otherwise
  simp only [statement?, h.kind?_eq, h.blockType, headerOf?_congr h.get?_eq,
    actionOf?_congr h.get?_eq]

theorem bodyChain_eq : m.bodyChain = n.bodyChain.rename f := by
  rw [bodyChain, h.kind?_eq, h.id, bodyChain]
  split <;> rfl

end Node.IsTwin

/-! ### Twin blueprints -/

/-- Blocks and slots correspond. -/
structure Blueprint.IsTwin (f : String → String) (b c : Blueprint) : Prop where
  block : ∀ id n, nodeById? b.nodes id = some n →
    ∃ m, nodeById? c.nodes (f id) = some m ∧ n.IsTwin f m
  target : ∀ id k, c.target? (f id) k = (b.target? id k).map f

namespace Blueprint.IsTwin

variable {f : String → String} {b c : Blueprint} {n m : Node} (hb : b.IsTwin f c)
  (hn : n.IsTwin f m) (room : Nat)
include hb hn

theorem bodyWithin?_eq : c.bodyWithin? room m = (b.bodyWithin? room n).map f := by
  rw [bodyWithin?, bodyStart?, hn.isContainer_eq, hn.id, hb.target, bodyWithin?, bodyStart?]
  split_ifs <;> rfl

theorem otherwiseWithin?_eq : c.otherwiseWithin? room m = (b.otherwiseWithin? room n).map f := by
  rw [otherwiseWithin?, otherwiseStart?, hn.isBranch_eq, hn.id, hb.target, otherwiseWithin?,
    otherwiseStart?]
  split_ifs <;> rfl

end Blueprint.IsTwin

/-! ### Twin walks -/

/-- The second walk has claimed the same as the first under the new ids, and what it has reported
since the given faults is the same. -/
structure Walk.IsTwin (f : String → String) (before before' : List Fault) (w v : Walk) : Prop where
  claimed : v.claimed = w.claimed.map f
  faults : ∃ xs, w.faults = before ++ xs ∧ v.faults = before' ++ xs.map (Fault.rename f)

namespace Walk.IsTwin

variable {f : String → String} {before before' : List Fault} {w v : Walk}
  (h : w.IsTwin f before before' v)
include h

theorem mem_claimed_iff (hf : Function.Injective f) {id : String} :
    f id ∈ v.claimed ↔ id ∈ w.claimed := by
  rw [h.claimed, List.mem_map_of_injective hf]

/-- Reporting the same leaves twins. -/
theorem of_faults {w' v' : Walk} (ids : List String) {xs : List Fault}
    (hw : w'.claimed = w.claimed ++ ids ∧ w'.faults = w.faults ++ xs)
    (hv : v'.claimed = v.claimed ++ ids.map f ∧ v'.faults = v.faults ++ xs.map (Fault.rename f)) :
    w'.IsTwin f before before' v' := by
  obtain ⟨ys, hys, hys'⟩ := h.faults
  refine ⟨?_, ys ++ xs, ?_, ?_⟩
  · rw [hv.1, hw.1, h.claimed, List.map_append]
  · rw [hw.2, hys, List.append_assoc]
  · rw [hv.2, hys', List.map_append, List.append_assoc]

theorem fault (x : Fault) : (w.fault x).IsTwin f before before' (v.fault (x.rename f)) :=
  h.of_faults [] ⟨by simp, rfl⟩ ⟨by simp, rfl⟩

theorem meet {b c : Blueprint} {n m : Node} (hn : n.IsTwin f m) (room : Nat) :
    (b.meet room n w).IsTwin f before before' (c.meet room m v) := by
  refine h.of_faults [n.id] ⟨b.meet_claimed room n w, b.meet_faults room n w⟩ ⟨?_, ?_⟩
  · rw [c.meet_claimed, hn.id, List.map_singleton]
  · rw [c.meet_faults, hn.isContainer_eq, hn.id]
    split_ifs <;> rfl

end Walk.IsTwin

namespace Walks

variable {b : Blueprint} {room : Nat} {chain : Chain} {visited : List String}
  {start : Option String} {w w' : Walk} {ss : List Statement}

/-- A walk has one outcome. -/
theorem unique (h : Walks b room chain visited start w ss w') {ts : List Statement} {v : Walk}
    (h' : Walks b room chain visited start w ts v) : ss = ts ∧ w' = v := by
  induction h generalizing ts v with
  | done =>
      cases h'
      exact ⟨rfl, rfl⟩
  | cycle hv =>
      cases h' with
      | cycle _ => exact ⟨rfl, rfl⟩
      | silent hv' _ _ _ => exact absurd hv hv'
      | shared hv' _ _ _ => exact absurd hv hv'
      | block hv' _ _ _ _ _ _ _ => exact absurd hv hv'
  | silent hv hn hs _ ih =>
      cases h' with
      | cycle hv' => exact absurd hv' hv
      | silent _ _ _ hrest => exact ih hrest
      | shared _ hn' hs' _ => simp_all
      | block _ hn' hs' _ _ _ _ _ => simp_all
  | shared hv hn hs hc =>
      cases h' with
      | cycle hv' => exact absurd hv' hv
      | silent _ hn' hs' _ => simp_all
      | shared _ _ _ _ => exact ⟨rfl, rfl⟩
      | block _ _ _ hc' _ _ _ _ => exact absurd hc hc'
  | block hv hn hs hc _ _ hst _ ihbody ihother ihrest =>
      cases h' with
      | cycle hv' => exact absurd hv' hv
      | silent _ hn' hs' _ => simp_all
      | shared _ _ _ hc' => exact absurd hc' hc
      | block _ hn' _ _ hbody hother hst' hrest =>
          obtain rfl := Option.some.inj (hn.symm.trans hn')
          obtain ⟨rfl, rfl⟩ := ihbody hbody
          obtain ⟨rfl, rfl⟩ := ihother hother
          obtain ⟨rfl, rfl⟩ := ihrest hrest
          obtain rfl := Option.some.inj (hst.symm.trans hst')
          exact ⟨rfl, rfl⟩

/-- **A walk is repeated on the twin.** -/
theorem transfer {f : String → String} (hf : Function.Injective f) {c : Blueprint}
    (hb : b.IsTwin f c) {before before' : List Fault}
    (h : Walks b room chain visited start w ss w') {v : Walk} (hw : w.IsTwin f before before' v) :
    ∃ v', Walks c room (chain.rename f) (visited.map f) (start.map f) v ss v' ∧
      w'.IsTwin f before before' v' := by
  have hmem {id : String} {visited : List String} : f id ∈ visited.map f ↔ id ∈ visited :=
    List.mem_map_of_injective hf
  induction h generalizing v with
  | done => exact ⟨v, .done, hw⟩
  | cycle hv => exact ⟨_, .cycle (hmem.2 hv), hw.fault _⟩
  | silent hv hn hs _ ih =>
      obtain ⟨m, hm, htwin⟩ := hb.block _ _ hn
      obtain ⟨v', hrest, hv'⟩ := ih hw
      rw [← hb.target] at hrest
      exact ⟨v', .silent (mt hmem.1 hv) hm (htwin.isSilent_eq.trans hs) hrest, hv'⟩
  | shared hv hn hs hc =>
      obtain ⟨m, hm, htwin⟩ := hb.block _ _ hn
      exact ⟨_, .shared (mt hmem.1 hv) hm (htwin.isSilent_eq.trans hs)
        ((hw.mem_claimed_iff hf).2 hc), hw.fault _⟩
  | @block room _ _ id node _ _ _ _ _ _ _ _ hv hn hs hc _ _ hst _ ihbody ihother ihrest =>
      obtain ⟨m, hm, htwin⟩ := hb.block _ _ hn
      -- the bodies and the rest of the chain, one after the other
      obtain ⟨v₁, hbody, hv₁⟩ := ihbody (hw.meet (c := c) htwin room)
      obtain ⟨v₂, hother, hv₂⟩ := ihother hv₁
      obtain ⟨v₃, hrest, hv₃⟩ := ihrest hv₂
      have hchain : Chain.ifElse m.id = (Chain.ifElse node.id).rename f := by
        rw [htwin.id, Chain.rename]
      rw [← hb.bodyWithin?_eq htwin, ← htwin.bodyChain_eq] at hbody
      rw [← hb.otherwiseWithin?_eq htwin, ← hchain] at hother
      rw [← hb.target] at hrest
      refine ⟨v₃, .block (mt hmem.1 hv) hm (htwin.isSilent_eq.trans hs)
        (mt (hw.mem_claimed_iff hf).1 hc) hbody hother ?_ hrest, hv₃⟩
      rw [htwin.statement?_eq]
      exact hst

end Walks

/-! ### Programs -/

/-- The program without what was found on the way. -/
def Program.code (p : Program) : Program :=
  { p with faults := [], warnings := [] }

/-- A sketch shows nothing of what was found on the way. -/
theorem Program.sketch_eq_of_code_eq {p q : Program} (h : p.code = q.code) :
    p.sketch = q.sketch := by
  have hcode (p : Program) : p.code.sketch = p.sketch := rfl
  rw [← hcode, h, hcode]

namespace Graph

variable {g h : Graph}

/-- Graphs with the same statements and tables have the same code. -/
theorem code_build_eq (hsetup : h.build.setup = g.build.setup)
    (hloop : h.build.loop = g.build.loop) (hglobals : globalTable h.nodes = globalTable g.nodes)
    (hpins : pinTable h.nodes = pinTable g.nodes) : h.build.code = g.build.code := by
  have hsetup' : h.walkSetup.1 = g.walkSetup.1 := hsetup
  have hloop' : h.walkLoop.1 = g.walkLoop.1 := hloop
  simp only [build, Program.code, hsetup', hloop', hglobals, hpins]

/-- The sketches of two graphs can be written, and are one if they are equal. -/
theorem exists_sketch_iff :
    (∃ s, g.build.sketch? = .ok s ∧ h.build.sketch? = .ok s) ↔
      h.build.sketch = g.build.sketch := by
  rw [g.isFinite_build.sketch?_eq, h.isFinite_build.sketch?_eq]
  constructor
  · rintro ⟨s, hs, hs'⟩
    exact Except.ok.inj (hs'.trans hs.symm)
  · exact fun heq => ⟨_, rfl, congrArg Except.ok heq⟩

/-- Graphs with the same code have one sketch. -/
theorem exists_sketch_of_code_eq (hcode : h.build.code = g.build.code) :
    ∃ s, g.build.sketch? = .ok s ∧ h.build.sketch? = .ok s :=
  exists_sketch_iff.2 (Program.sketch_eq_of_code_eq hcode)

/-- Graphs with twin blueprints whose chains start at the same blocks have the same statements, and
their walks report the same. -/
theorem bodies_of_isTwin {f : String → String} (hf : Function.Injective f)
    (hb : g.blueprint.IsTwin f h.blueprint) (hsetup : h.start? .setup = (g.start? .setup).map f)
    (hloop : h.start? .loop = (g.start? .loop).map f) :
    h.build.setup = g.build.setup ∧ h.build.loop = g.build.loop ∧
      ∃ xs, g.build.faults = g.firstWalk.faults ++ xs ∧
        h.build.faults = h.firstWalk.faults ++ xs.map (Fault.rename f) := by
  have hfirst : g.firstWalk.IsTwin f g.firstWalk.faults h.firstWalk.faults h.firstWalk :=
    ⟨rfl, [], by simp, by simp⟩
  obtain ⟨v, hwalk, hv⟩ := g.walkSetup_walks.transfer hf hb hfirst
  rw [← hsetup] at hwalk
  obtain ⟨hss, rfl⟩ := hwalk.unique h.walkSetup_walks
  obtain ⟨v', hwalk', hv'⟩ := g.walkLoop_walks.transfer hf hb hv
  rw [← hloop] at hwalk'
  obtain ⟨hls, rfl⟩ := hwalk'.unique h.walkLoop_walks
  exact ⟨hss.symm, hls.symm, hv'.faults⟩

/-- Twins under the same ids report the same on their walks. -/
theorem bodies_of_isTwin_id (hb : g.blueprint.IsTwin id h.blueprint)
    (hsetup : h.start? .setup = g.start? .setup) (hloop : h.start? .loop = g.start? .loop) :
    h.build.setup = g.build.setup ∧ h.build.loop = g.build.loop ∧
      ∃ xs, g.build.faults = g.firstWalk.faults ++ xs ∧
        h.build.faults = h.firstWalk.faults ++ xs := by
  rw [← Option.map_id_apply (x := g.start? .setup)] at hsetup
  rw [← Option.map_id_apply (x := g.start? .loop)] at hloop
  obtain ⟨hs, hl, xs, hg, hh⟩ := bodies_of_isTwin Function.injective_id hb hsetup hloop
  rw [funext Fault.rename_id, List.map_id'] at hh
  exact ⟨hs, hl, xs, hg, hh⟩

end Graph

end BlockSketch
