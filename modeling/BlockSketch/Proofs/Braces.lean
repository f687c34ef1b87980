/-
**Braces of blocks that are not recognised.**

A sketch may hold blocks that an import does not know.  Their headers are dropped like any other line
that shows nothing, and so should be the braces that close them.  But a brace does not say what it
closes: the import gives it to the container that was opened last, if one is open.  At the top level no
container is open, and the brace is dropped.  Inside a container the brace of an unknown block closes
that container, and all that follows in the text stands outside of it in the graph.

Lines that are well bracketed form a forest, in which it is plain what every brace closes and which
containers are around a line.  Beside it stands the list of what the lines do, from which both the
forest's own account and that of the import can be read off.  The import is right about its braces
exactly if no unknown block stands inside of a container.  It is right about what encloses each line even
if there are such blocks, as long as nothing that it knows follows one of them before the outermost
container around it is closed.

Main definitions:

* `BlockSketch.LineForest` — lines that are well bracketed;
* `BlockSketch.LineForest.blocks` — the block that each line should become;
* `BlockSketch.LineForest.scopes`, `BlockSketch.chainScopes` — the containers around each line that is
  recognised, and those around each block of a chain;
* `BlockSketch.LineForest.isSeparate`, `BlockSketch.LineForest.isLegible` — when braces and enclosures
  are found again.

Main results:

* `BlockSketch.importLines_of_reads` — what the lines become, by what each of them does;
* `BlockSketch.LineForest.imported_eq_blocks_iff` — braces are found again exactly if unknown blocks and
  containers are apart;
* `BlockSketch.chainScopes_eq_iff` — enclosures agree as long as nothing follows a stray brace;
* `BlockSketch.importSketch_encloses_iff` — **which sketches keep their braces, and which of them their
  enclosures**.
-/

import BlockSketch.Proofs.ImportOrder
import Mathlib.Data.List.ReduceOption

set_option relaxedAutoImplicit false
set_option autoImplicit false

namespace BlockSketch

/-! ### Lines that are well bracketed -/

/-- The block that a line shows. -/
def shownBlock? (line : List Char) : Option BlockEntry := do
  let found ← recognise line
  let params ← found.params.toOption
  return (found.kind, params)

/-- A line that neither opens nor closes anything: it shows a block that is no container, and no number
in it is too long, or it shows nothing and does not end in an opening brace. -/
structure IsPlainLine (line : List Char) : Prop where
  ne_brace : line ≠ ['\x7d']
  shown : ∀ found ∈ recognise line, found.kind.isContainer = false ∧ found.params.isOk = true
  unmatched : recognise line = none → line.getLast? ≠ some '\x7b'

/-- A line that ends in an opening brace and shows a container or nothing. -/
structure IsHeaderLine (line : List Char) : Prop where
  opens : line.getLast? = some '\x7b'
  shown : ∀ found ∈ recognise line, found.kind.isContainer = true ∧ found.params.isOk = true

instance (line : List Char) : Decidable (IsPlainLine line) :=
  decidable_of_iff (line ≠ ['\x7d'] ∧
      (∀ found ∈ recognise line, found.kind.isContainer = false ∧ found.params.isOk = true) ∧
      (recognise line = none → line.getLast? ≠ some '\x7b'))
    ⟨fun h => ⟨h.1, h.2.1, h.2.2⟩, fun h => ⟨h.ne_brace, h.shown, h.unmatched⟩⟩

instance (line : List Char) : Decidable (IsHeaderLine line) :=
  decidable_of_iff (line.getLast? = some '\x7b' ∧
      ∀ found ∈ recognise line, found.kind.isContainer = true ∧ found.params.isOk = true)
    ⟨fun h => ⟨h.1, h.2⟩, fun h => ⟨h.opens, h.shown⟩⟩

/-- Lines that are well bracketed. -/
inductive LineForest
  | done
  | statement (line : List Char) (h : IsPlainLine line) (rest : LineForest)
  | block (header : List Char) (h : IsHeaderLine header) (body rest : LineForest)

/-- What a line does: nothing, or it shows a block, or it is a brace, which closes a container or an
unknown block. -/
inductive LineEffect
  | idle
  | block (e : BlockEntry)
  | close (container : Bool)

/-- What a line without a lone brace does. -/
def lineEffect (line : List Char) : LineEffect :=
  (shownBlock? line).elim .idle .block

/-- The block that a line should become. -/
def LineEffect.due? : LineEffect → Option BlockEntry
  | .idle => none
  | .block e => some e
  | .close container => if container then some (.endBlock, []) else none

namespace LineForest

/-- The lines of a forest. -/
def lines : LineForest → List (List Char)
  | done => []
  | statement line _ rest => line :: rest.lines
  | block header _ body rest => header :: (body.lines ++ ['\x7d'] :: rest.lines)

/-- What its lines do. -/
def effects : LineForest → List LineEffect
  | done => []
  | statement line _ rest => lineEffect line :: rest.effects
  | block header _ body rest =>
    lineEffect header :: (body.effects ++ .close (shownBlock? header).isSome :: rest.effects)

/-- The block that each line should become, where a brace becomes an end block exactly if it closes a
container. -/
def blocks (t : LineForest) : List (Option BlockEntry) :=
  t.effects.map LineEffect.due?

/-- The number of lines that show a block. -/
def shownCount : LineForest → Nat
  | done => 0
  | statement line _ rest => (shownBlock? line).toList.length + rest.shownCount
  | block header _ body rest =>
    (shownBlock? header).toList.length + body.shownCount + rest.shownCount

/-- For each line that shows a block the containers around it, from the inside out, each known by the
number of such lines before it. -/
def scopes : (count : Nat) → (around : List Nat) → LineForest → List (List Nat)
  | _, _, done => []
  | count, around, statement line _ rest =>
    match shownBlock? line with
    | none => rest.scopes count around
    | some _ => around :: rest.scopes (count + 1) around
  | count, around, block header _ body rest =>
    match shownBlock? header with
    | none => body.scopes count around ++ rest.scopes (count + body.shownCount) around
    | some _ =>
      around :: (body.scopes (count + 1) (count :: around) ++
        rest.scopes (count + 1 + body.shownCount) around)

/-- Whether every header shows a container. -/
def isKnown : LineForest → Bool
  | done => true
  | statement _ _ rest => rest.isKnown
  | block header _ body rest => (shownBlock? header).isSome && body.isKnown && rest.isKnown

/-- Whether no unknown block stands inside of a container. -/
def isSeparate : LineForest → Bool
  | done => true
  | statement _ _ rest => rest.isSeparate
  | block header _ body rest =>
    (if (shownBlock? header).isSome then body.isKnown else body.isSeparate) && rest.isSeparate

end LineForest

/-- Whether no block is shown between the brace of an unknown block inside of containers and the end of
the outermost of them.  So many containers are open, and `astray` tells whether there was such a
brace. -/
def staysLegible : (depth : Nat) → (astray : Bool) → List LineEffect → Bool
  | _, _, [] => true
  | depth, astray, .idle :: rs => staysLegible depth astray rs
  | depth, astray, .block e :: rs =>
    !astray && staysLegible (if e.1.isContainer then depth + 1 else depth) astray rs
  | depth, astray, .close true :: rs => staysLegible (depth - 1) (astray && depth - 1 != 0) rs
  | depth, astray, .close false :: rs => staysLegible depth (astray || depth != 0) rs

/-- Whether nothing that is recognised follows the brace of an unknown block in the same outermost
container. -/
def LineForest.isLegible (t : LineForest) : Bool :=
  staysLegible 0 false t.effects

/-- For each block of a chain, end blocks apart, the containers around it, where an end block closes the
one that was opened last. -/
def chainScopes : (count : Nat) → (around : List Nat) → List Node → List (List Nat)
  | _, _, [] => []
  | count, around, n :: ns =>
    if n.isEnd then chainScopes count around.tail ns
    else around :: chainScopes (count + 1) (if n.isContainer then count :: around else around) ns

/-! ### What the lines become -/

/-- The number of open containers after a line, as the import counts them. -/
def LineEffect.after (depth : Nat) : LineEffect → Nat
  | .idle => depth
  | .block e => if e.1.isContainer then depth + 1 else depth
  | .close _ => depth - 1

/-- The block that a line becomes. -/
def LineEffect.made? (depth : Nat) : LineEffect → Option BlockEntry
  | .idle => none
  | .block e => some e
  | .close _ => if depth = 0 then none else some (.endBlock, [])

/-- The block that each line becomes. -/
def imported : (depth : Nat) → List LineEffect → List (Option BlockEntry)
  | _, [] => []
  | depth, r :: rs => r.made? depth :: imported (r.after depth) rs

/-- A line does what its effect says. -/
inductive Reads : List Char → LineEffect → Prop
  | idle {line : List Char} : recognise line = none → line ≠ ['\x7d'] → Reads line .idle
  | block {line : List Char} {found : Found} {params : Fields} :
      recognise line = some found → found.params = .ok params →
      Reads line (.block (found.kind, params))
  | close (container : Bool) : Reads ['\x7d'] (.close container)

section Effects

variable {ls : List (List Char)} {rs : List LineEffect}

theorem length_imported (depth : Nat) (rs : List LineEffect) :
    (imported depth rs).length = rs.length := by
  induction rs generalizing depth with
  | nil => rfl
  | cons r rs ih => rw [imported, List.length_cons, ih, List.length_cons]

theorem imported_append (depth : Nat) (rs rs' : List LineEffect) :
    imported depth (rs ++ rs') =
      imported depth rs ++ imported (rs.foldl LineEffect.after depth) rs' := by
  induction rs generalizing depth with
  | nil => rfl
  | cons r rs ih => rw [List.cons_append, imported, ih, imported, List.foldl_cons, List.cons_append]

theorem imported_take (depth : Nat) (rs : List LineEffect) (i : Nat) :
    imported depth (rs.take i) = (imported depth rs).take i := by
  induction rs generalizing depth i with
  | nil => rw [List.take_nil, imported, List.take_nil]
  | cons r rs ih =>
      cases i with
      | zero => rfl
      | succ i => rw [List.take_succ_cons, imported, ih, imported, List.take_succ_cons]

/-- **What the lines become, by what each of them does.** -/
theorem importLines_of_reads (h : List.Forall₂ Reads ls rs) (depth : Nat) :
    importLines depth ls = .ok (imported depth rs).reduceOption := by
  induction h generalizing depth with
  | nil => rfl
  | cons hr _ ih =>
      rw [importLines, imported]
      cases hr with
      | idle hnone hne =>
          rw [hnone]
          dsimp only
          rw [if_neg fun h => hne h.1, LineEffect.made?, List.reduceOption_cons_of_none]
          exact ih _
      | @block _ found params hsome hparams =>
          rw [hsome]
          dsimp only
          rw [hparams, LineEffect.made?, List.reduceOption_cons_of_some]
          simp only [LineEffect.after]
          rw [ih]
          rfl
      | close container =>
          rw [recognise_eq_none (by decide)]
          dsimp only
          by_cases hdepth : depth = 0
          · subst hdepth
            rw [if_neg fun h => h.2 rfl, LineEffect.made?, if_pos rfl, List.reduceOption_cons_of_none]
            exact ih _
          · rw [if_pos ⟨rfl, hdepth⟩, LineEffect.made?, if_neg hdepth,
              List.reduceOption_cons_of_some, ih]
            rfl

/-- What is told apart from line to line is told apart altogether. -/
theorem forall_reduceOption_take_iff {α : Type} {xs ys : List (Option α)}
    (hlength : xs.length = ys.length) :
    (∀ i, (xs.take i).reduceOption = (ys.take i).reduceOption) ↔ xs = ys := by
  refine ⟨fun h => ?_, fun h i => by rw [h]⟩
  induction xs generalizing ys with
  | nil => exact (List.length_eq_zero_iff.1 hlength.symm).symm
  | cons x xs ih =>
      cases ys with
      | nil => cases hlength
      | cons y ys =>
          have hxy : x = y := by
            have hfirst : [x].reduceOption = [y].reduceOption := h 1
            rw [List.reduceOption_singleton, List.reduceOption_singleton] at hfirst
            rw [← Option.head?_toList (o := x), hfirst, Option.head?_toList]
          subst hxy
          congr 1
          refine ih (Nat.succ.inj hlength) fun i => ?_
          have hi := h (i + 1)
          cases x <;> simpa using hi

end Effects

/-! ### Forests and what their lines do -/

theorem reads_lineEffect {line : List Char} (hne : line ≠ ['\x7d'])
    (hok : ∀ found ∈ recognise line, found.params.isOk = true) : Reads line (lineEffect line) := by
  unfold lineEffect shownBlock?
  cases hr : recognise line with
  | none => exact .idle hr hne
  | some found =>
      have hok := hok found hr
      cases hparams : found.params with
      | error e =>
          rw [hparams] at hok
          cases hok
      | ok params =>
          rw [Option.bind_eq_bind, Option.bind_some, hparams]
          exact .block hr hparams

theorem IsHeaderLine.ne_brace {line : List Char} (h : IsHeaderLine line) : line ≠ ['\x7d'] := by
  rintro rfl
  exact absurd h.opens (by decide)

theorem exists_of_shownBlock? {line : List Char} {e : BlockEntry} (h : shownBlock? line = some e) :
    ∃ found, recognise line = some found ∧ found.kind = e.1 := by
  simp only [shownBlock?, Option.bind_eq_bind, Option.bind_eq_some_iff] at h
  obtain ⟨found, hr, params, -, he⟩ := h
  exact ⟨found, hr, by rw [← Option.some.inj he]⟩

/-- A plain line shows no container. -/
theorem IsPlainLine.isContainer_eq_false {line : List Char} {e : BlockEntry} (h : IsPlainLine line)
    (he : shownBlock? line = some e) : e.1.isContainer = false := by
  obtain ⟨found, hr, hkind⟩ := exists_of_shownBlock? he
  exact hkind ▸ (h.shown found hr).1

/-- A header shows nothing else. -/
theorem IsHeaderLine.isContainer_eq_true {line : List Char} {e : BlockEntry} (h : IsHeaderLine line)
    (he : shownBlock? line = some e) : e.1.isContainer = true := by
  obtain ⟨found, hr, hkind⟩ := exists_of_shownBlock? he
  exact hkind ▸ (h.shown found hr).1

namespace LineForest

theorem reads (t : LineForest) : List.Forall₂ Reads t.lines t.effects := by
  induction t with
  | done => exact .nil
  | statement line h rest ih =>
      exact .cons (reads_lineEffect h.ne_brace fun found hr => (h.shown found hr).2) ih
  | block header h body rest ihbody ihrest =>
      exact .cons (reads_lineEffect h.ne_brace fun found hr => (h.shown found hr).2)
        (List.rel_append ihbody (.cons (.close _) ihrest))

end LineForest

/-! ### Braces -/

/-- Only braces are taken for something else. -/
theorem made?_lineEffect (line : List Char) (depth : Nat) :
    (lineEffect line).made? depth = (lineEffect line).due? := by
  unfold lineEffect
  cases shownBlock? line <;> rfl

theorem IsPlainLine.after_eq {line : List Char} (h : IsPlainLine line) (depth : Nat) :
    (lineEffect line).after depth = depth := by
  unfold lineEffect
  cases he : shownBlock? line with
  | none => rfl
  | some e => exact if_neg (by rw [h.isContainer_eq_false he]; exact Bool.false_ne_true)

theorem IsHeaderLine.after_of_isSome {line : List Char} (h : IsHeaderLine line)
    (hshown : (shownBlock? line).isSome = true) (depth : Nat) :
    (lineEffect line).after depth = depth + 1 := by
  obtain ⟨e, he⟩ := Option.isSome_iff_exists.1 hshown
  rw [lineEffect, he]
  exact if_pos (h.isContainer_eq_true he)

theorem after_of_isNone {line : List Char} (hshown : (shownBlock? line).isSome = false) (depth : Nat) :
    (lineEffect line).after depth = depth := by
  have hnone : shownBlock? line = none := by rwa [← Option.not_isSome_iff_eq_none, Bool.not_eq_true]
  rw [lineEffect, hnone]
  rfl

theorem append_cons_inj_iff {α : Type} {xs ys us vs : List α} {u v : α}
    (hlength : xs.length = ys.length) :
    xs ++ u :: us = ys ++ v :: vs ↔ xs = ys ∧ u = v ∧ us = vs := by
  constructor
  · intro h
    obtain ⟨rfl, hrest⟩ := List.append_inj h hlength
    exact ⟨rfl, List.cons.inj hrest⟩
  · rintro ⟨rfl, rfl, rfl⟩
    rfl

namespace LineForest

section Braces

variable {line : List Char} {body rest : LineForest}

/-- A plain line is read as it should. -/
theorem imported_statement_iff (h : IsPlainLine line) (depth : Nat) :
    imported depth (statement line h rest).effects = (statement line h rest).blocks ↔
      imported depth rest.effects = rest.blocks := by
  rw [blocks, effects, imported, List.map_cons, made?_lineEffect, h.after_eq, List.cons_inj_right,
    blocks]

/-- A block is read as it should exactly if its body, its brace and the rest are. -/
theorem imported_block_iff (h : IsHeaderLine line) {depth inner after : Nat}
    (hinner : (lineEffect line).after depth = inner)
    (hafter : body.effects.foldl LineEffect.after inner = after) :
    imported depth (block line h body rest).effects = (block line h body rest).blocks ↔
      imported inner body.effects = body.blocks ∧ ((shownBlock? line).isSome = true ↔ after ≠ 0) ∧
        imported (after - 1) rest.effects = rest.blocks := by
  have hbrace : (LineEffect.close (shownBlock? line).isSome).made? after =
      (LineEffect.close (shownBlock? line).isSome).due? ↔
        ((shownBlock? line).isSome = true ↔ after ≠ 0) := by
    rw [LineEffect.made?, LineEffect.due?]
    by_cases hzero : after = 0 <;> cases (shownBlock? line).isSome <;> simp [hzero]
  rw [blocks, effects, imported, List.map_cons, made?_lineEffect, hinner,
    List.cons_inj_right, imported_append, hafter, imported, List.map_append, List.map_cons,
    append_cons_inj_iff (by rw [length_imported, List.length_map]), hbrace]
  exact Iff.rfl

theorem foldl_after_block (h : IsHeaderLine line) {depth inner after : Nat}
    (hinner : (lineEffect line).after depth = inner)
    (hafter : body.effects.foldl LineEffect.after inner = after) :
    (block line h body rest).effects.foldl LineEffect.after depth =
      rest.effects.foldl LineEffect.after (after - 1) := by
  rw [effects, List.foldl_cons, hinner, List.foldl_append, hafter, List.foldl_cons, LineEffect.after]

end Braces

/-- Where every header is known, all lines are read as they should, at any depth. -/
theorem imported_of_isKnown {t : LineForest} (hknown : t.isKnown = true) (depth : Nat) :
    imported depth t.effects = t.blocks ∧ t.effects.foldl LineEffect.after depth = depth := by
  induction t generalizing depth with
  | done => exact ⟨rfl, rfl⟩
  | statement line h rest ih =>
      obtain ⟨hrest, hafter⟩ := ih hknown depth
      refine ⟨(imported_statement_iff h depth).2 hrest, ?_⟩
      rw [effects, List.foldl_cons, h.after_eq, hafter]
  | block header h body rest ihbody ihrest =>
      simp only [isKnown, Bool.and_eq_true] at hknown
      obtain ⟨⟨hshown, hbody⟩, hrest⟩ := hknown
      obtain ⟨hbody, hafter⟩ := ihbody hbody (depth + 1)
      obtain ⟨hrest, hafter'⟩ := ihrest hrest depth
      have hinner := h.after_of_isSome hshown depth
      refine ⟨(imported_block_iff h hinner hafter).2 ⟨hbody, by simp [hshown], hrest⟩, ?_⟩
      rw [foldl_after_block h hinner hafter, Nat.add_sub_cancel, hafter']

/-- Inside of containers the lines are read as they should only if every header is known. -/
theorem isKnown_of_imported {t : LineForest} {depth : Nat}
    (himported : imported (depth + 1) t.effects = t.blocks) : t.isKnown = true := by
  induction t generalizing depth with
  | done => rfl
  | statement line h rest ih => exact ih ((imported_statement_iff h _).1 himported)
  | block header h body rest ihbody ihrest =>
      cases hshown : (shownBlock? header).isSome with
      | true =>
          have hinner := h.after_of_isSome hshown (depth + 1)
          have hbody := ihbody ((imported_block_iff h hinner rfl).1 himported).1
          have hafter := (imported_of_isKnown hbody (depth + 1 + 1)).2
          have hrest := ihrest ((imported_block_iff h hinner hafter).1 himported).2.2
          rw [isKnown, hshown, hbody, hrest]
          rfl
      | false =>
          -- the brace of the unknown block is taken for that of a container
          have hinner := after_of_isNone hshown (depth + 1)
          have hbody := ihbody ((imported_block_iff h hinner rfl).1 himported).1
          have hafter := (imported_of_isKnown hbody (depth + 1)).2
          have hbrace := ((imported_block_iff h hinner hafter).1 himported).2.1
          rw [hshown] at hbrace
          exact absurd (hbrace.2 (Nat.succ_ne_zero depth)) Bool.false_ne_true

/-- At the top level it is enough that no unknown block stands inside of a container. -/
theorem imported_of_isSeparate {t : LineForest} (hseparate : t.isSeparate = true) :
    imported 0 t.effects = t.blocks ∧ t.effects.foldl LineEffect.after 0 = 0 := by
  induction t with
  | done => exact ⟨rfl, rfl⟩
  | statement line h rest ih =>
      obtain ⟨hrest, hafter⟩ := ih hseparate
      refine ⟨(imported_statement_iff h 0).2 hrest, ?_⟩
      rw [effects, List.foldl_cons, h.after_eq, hafter]
  | block header h body rest ihbody ihrest =>
      rw [isSeparate, Bool.and_eq_true] at hseparate
      obtain ⟨hbody, hrest⟩ := hseparate
      obtain ⟨hrest, hafter'⟩ := ihrest hrest
      cases hshown : (shownBlock? header).isSome with
      | true =>
          rw [hshown, if_pos rfl] at hbody
          have hinner := h.after_of_isSome hshown 0
          obtain ⟨hbody, hafter⟩ := imported_of_isKnown hbody 1
          refine ⟨(imported_block_iff h hinner hafter).2 ⟨hbody, by simp [hshown], hrest⟩, ?_⟩
          rw [foldl_after_block h hinner hafter, hafter']
      | false =>
          rw [hshown, if_neg Bool.false_ne_true] at hbody
          have hinner := after_of_isNone hshown 0
          obtain ⟨hbody, hafter⟩ := ihbody hbody
          refine ⟨(imported_block_iff h hinner hafter).2 ⟨hbody, by simp [hshown], hrest⟩, ?_⟩
          rw [foldl_after_block h hinner hafter, hafter']

/-- **Braces are found again exactly if unknown blocks and containers are apart.** -/
theorem imported_eq_blocks_iff (t : LineForest) :
    imported 0 t.effects = t.blocks ↔ t.isSeparate = true := by
  refine ⟨fun himported => ?_, fun h => (imported_of_isSeparate h).1⟩
  induction t with
  | done => rfl
  | statement line h rest ih => exact ih ((imported_statement_iff h 0).1 himported)
  | block header h body rest ihbody ihrest =>
      rw [isSeparate, Bool.and_eq_true]
      cases hshown : (shownBlock? header).isSome with
      | true =>
          have hinner := h.after_of_isSome hshown 0
          have hbody := isKnown_of_imported ((imported_block_iff h hinner rfl).1 himported).1
          have hafter := (imported_of_isKnown hbody 1).2
          exact ⟨hbody, ihrest ((imported_block_iff h hinner hafter).1 himported).2.2⟩
      | false =>
          have hinner := after_of_isNone hshown 0
          have hbody := ihbody ((imported_block_iff h hinner rfl).1 himported).1
          have hafter := (imported_of_isSeparate hbody).2
          exact ⟨hbody, ihrest ((imported_block_iff h hinner hafter).1 himported).2.2⟩

end LineForest

/-! ### Enclosures -/

/-- For each line that shows a block the containers around it, by what the lines do. -/
def effectScopes : (count : Nat) → (around : List Nat) → List LineEffect → List (List Nat)
  | _, _, [] => []
  | count, around, .idle :: rs => effectScopes count around rs
  | count, around, .block e :: rs =>
    around :: effectScopes (count + 1) (if e.1.isContainer then count :: around else around) rs
  | count, around, .close container :: rs =>
    effectScopes count (if container then around.tail else around) rs

/-- A forest leaves the containers around it as they are. -/
theorem LineForest.effectScopes_append (t : LineForest) (count : Nat) (around : List Nat)
    (rs : List LineEffect) :
    effectScopes count around (t.effects ++ rs) =
      t.scopes count around ++ effectScopes (count + t.shownCount) around rs := by
  induction t generalizing count around rs with
  | done => rfl
  | statement line h rest ih =>
      rw [effects, scopes, shownCount, lineEffect, List.cons_append]
      cases he : shownBlock? line with
      | none => simp [effectScopes, ih]
      | some e =>
          simp [effectScopes, ih, h.isContainer_eq_false he, Nat.add_assoc]
  | block header h body rest ihbody ihrest =>
      rw [effects, scopes, shownCount, lineEffect, List.cons_append, List.append_assoc, List.cons_append]
      cases he : shownBlock? header with
      | none => simp [effectScopes, ihbody, ihrest, Nat.add_assoc]
      | some e =>
          simp [effectScopes, ihbody, ihrest, h.isContainer_eq_true he, Nat.add_assoc]

/-- How the containers that the import holds open compare to those that are: until a brace went astray
they are the same, and then they are fewer. -/
def Tracks (astray : Bool) (held around : List Nat) : Prop :=
  if astray then held.length < around.length else held = around

section Tracks

variable {astray : Bool} {held around : List Nat}

/-- The brace of a container; when it closes the outermost one, no container is open any more. -/
theorem Tracks.close (h : Tracks astray held around) :
    Tracks (astray && around.tail.length != 0) held.tail around.tail := by
  rw [List.length_tail]
  cases astray with
  | false => exact congrArg List.tail h
  | true =>
      have hlt : held.length < around.length := h
      by_cases hlast : around.length - 1 = 0
      · have hheld : held = [] := List.length_eq_zero_iff.1 (by omega)
        have haround : around.tail = [] := List.length_eq_zero_iff.1 (by rw [List.length_tail, hlast])
        simp [Tracks, hlast, hheld, haround]
      · simp only [Tracks, Bool.true_and, bne_iff_ne, ne_eq, hlast, not_false_eq_true, if_true,
          List.length_tail]
        omega

/-- The brace of an unknown block goes astray if a container is open. -/
theorem Tracks.stray (h : Tracks astray held around) :
    Tracks (astray || around.length != 0) held.tail around := by
  by_cases hnone : around = []
  · subst hnone
    cases astray with
    | false =>
        obtain rfl : held = [] := h
        rfl
    | true => exact absurd h (Nat.not_lt_zero _)
  · have hpos : around.length ≠ 0 := fun h => hnone (List.length_eq_zero_iff.1 h)
    have hle : held.length ≤ around.length := by
      cases astray with
      | false => exact (congrArg List.length h).le
      | true => exact Nat.le_of_lt h
    simp only [Tracks, bne_iff_ne, ne_eq, hpos, not_false_eq_true, if_true,
      List.length_tail, Bool.or_eq_true, or_true]
    omega

end Tracks

/-- A brace closes the container that was opened last, if there is one. -/
theorem chainScopes_close (count place : Nat) (held : List Nat) (container : Bool)
    (rs : List LineEffect) : ∃ place',
    chainScopes count held
        (chainNodes place (imported held.length (.close container :: rs)).reduceOption) =
      chainScopes count held.tail
        (chainNodes place' (imported held.tail.length rs).reduceOption) := by
  cases held with
  | nil => exact ⟨place, rfl⟩
  | cons c held => exact ⟨place + 1, rfl⟩

/-- **Enclosures agree as long as nothing follows a stray brace.** -/
theorem chainScopes_eq_iff {ls : List (List Char)} {rs : List LineEffect}
    (h : List.Forall₂ Reads ls rs) {astray : Bool} {held around : List Nat}
    (htracks : Tracks astray held around) (count place : Nat) :
    chainScopes count held (chainNodes place (imported held.length rs).reduceOption) =
      effectScopes count around rs ↔ staysLegible around.length astray rs = true := by
  induction h generalizing astray held around count place with
  | nil => exact ⟨fun _ => rfl, fun _ => rfl⟩
  | cons hr _ ih =>
      cases hr with
      | idle _ _ => exact ih htracks count place
      | @block _ found params hr _ =>
          have hend := isEnd_chainNode (e := (found.kind, params)) (recognise_isSilent hr) place
          rw [imported, LineEffect.made?, List.reduceOption_cons_of_some, chainNodes_cons, chainScopes,
            if_neg (by rw [hend]; exact Bool.false_ne_true), isContainer_chainNode, effectScopes,
            staysLegible, LineEffect.after]
          cases astray with
          | false =>
              obtain rfl : held = around := htracks
              have hlength : (if found.kind.isContainer then held.length + 1 else held.length) =
                  (if found.kind.isContainer then count :: held else held).length := by
                split <;> rfl
              rw [List.cons_inj_right, hlength]
              have hsame : Tracks false (if found.kind.isContainer then count :: held else held)
                  (if found.kind.isContainer then count :: held else held) := rfl
              exact ih hsame (count + 1) (place + 1)
          | true =>
              have hne : held ≠ around := fun heq => (Nat.ne_of_lt htracks) (congrArg List.length heq)
              simp [hne]
      | close container =>
          obtain ⟨place', hclose⟩ := chainScopes_close count place held container _
          rw [hclose]
          cases container with
          | true =>
              rw [effectScopes, if_pos rfl, staysLegible, ← List.length_tail]
              exact ih htracks.close count place'
          | false => exact ih htracks.stray count place'

/-- **Which sketches keep their braces, and which of them their enclosures.**  Let the lines in the loop
function of a sketch be well bracketed.  The graph of the sketch is one chain, whose blocks, end blocks
apart, are those that the lines show.  After every number of lines the blocks so far are those that they
should be, with an end block for the braces of containers only, exactly if no unknown block stands inside
of a container.  Around each block of the chain are the containers that are around its line exactly if
nothing that is recognised follows the brace of an unknown block in the same outermost container. -/
theorem importSketch_encloses_iff {text : String} {body : List Char} {t : LineForest}
    (hbody : loopBody? text.toList = some body) (hlines : bodyLines body = t.lines) :
    ∃ g ns, importSketch text = .ok g ∧ g.IsPlainChain ns ∧
      List.Forall₂ Node.IsShownIn (ns.filter fun n => !n.isEnd) (shownLines text) ∧
      ((∀ i, importLines 0 (t.lines.take i) = .ok (t.blocks.take i).reduceOption) ↔
        t.isSeparate = true) ∧
      (chainScopes 0 [] ns = t.scopes 0 [] ↔ t.isLegible = true) := by
  have hreads := t.reads
  have himport : importLines 0 t.lines = .ok (imported 0 t.effects).reduceOption :=
    importLines_of_reads hreads 0
  have hsketch : importSketch text = .ok (linearGraph (imported 0 t.effects).reduceOption) := by
    rw [importSketch, hbody]
    dsimp only
    rw [hlines, himport]
    rfl
  have hshown : shownLines text = t.lines.filter fun line => (recognise line).isSome := by
    rw [shownLines, hbody, Option.map_some, Option.getD_some, hlines]
  refine ⟨_, _, hsketch, isPlainChain_linearGraph _, ?_, ?_, ?_⟩
  · rw [hshown]
    exact (imports_of_importLines himport).forall₂_isShownIn 1
  · rw [← t.imported_eq_blocks_iff, ← forall_reduceOption_take_iff
      (by rw [length_imported, LineForest.blocks, List.length_map])]
    refine forall_congr' fun i => ?_
    rw [importLines_of_reads (List.forall₂_take i hreads) 0, imported_take, Except.ok.injEq]
  · have hscopes : effectScopes 0 [] t.effects = t.scopes 0 [] := by
      simpa [effectScopes] using t.effectScopes_append 0 [] []
    rw [← hscopes]
    exact chainScopes_eq_iff hreads (show Tracks false [] [] from rfl) 0 1

/-- A loop inside of an unknown block, and an unknown block at the end of a branch. -/
def menu : LineForest :=
  .block "switch (mode) \x7b".toList (by decide +kernel)
    (.block "while (a) \x7b".toList (by decide +kernel)
      (.statement "delay(3);".toList (by decide +kernel) .done) .done)
    (.block "if (b) \x7b".toList (by decide +kernel)
      (.statement "delay(5);".toList (by decide +kernel)
        (.block "do \x7b".toList (by decide +kernel)
          (.statement "x = 1;".toList (by decide +kernel) .done) .done))
      (.statement "delay(7);".toList (by decide +kernel) .done))

def menuSketch : String :=
  "void loop() \x7b\n  switch (mode) \x7b\n    while (a) \x7b\n      delay(3);\n    \x7d\n  \x7d\n" ++
    "  if (b) \x7b\n    delay(5);\n    do \x7b\n      x = 1;\n    \x7d\n  \x7d\n  delay(7);\n\x7d\n"

/-- The branch is closed too early, which changes the enclosure of nothing. -/
theorem menuSketch_encloses : ∃ body g ns, loopBody? menuSketch.toList = some body ∧
    bodyLines body = menu.lines ∧ importSketch menuSketch = .ok g ∧ g.IsPlainChain ns ∧
    ¬ (∀ i, importLines 0 (menu.lines.take i) = .ok (menu.blocks.take i).reduceOption) ∧
    chainScopes 0 [] ns = menu.scopes 0 [] ∧ menu.scopes 0 [] = [[], [0], [], [2], []] := by
  have hlines : (loopBody? menuSketch.toList).map bodyLines = some menu.lines := by decide +kernel
  obtain ⟨body, hbody, hlines⟩ := Option.map_eq_some_iff.1 hlines
  obtain ⟨g, ns, hg, hchain, -, hbraces, hscopes⟩ := importSketch_encloses_iff hbody hlines
  refine ⟨body, g, ns, hbody, hlines, hg, hchain, ?_, hscopes.2 (by decide +kernel), by decide +kernel⟩
  rw [hbraces]
  decide +kernel

/-- An unknown block inside of a loop, before the last statement of the loop. -/
def switched : LineForest :=
  .block "while (a) \x7b".toList (by decide +kernel)
    (.block "switch (m) \x7b".toList (by decide +kernel) .done
      (.statement "delay(3);".toList (by decide +kernel) .done)) .done

def switchedSketch : String :=
  "void loop() \x7b\n  while (a) \x7b\n    switch (m) \x7b\n    \x7d\n    delay(3);\n  \x7d\n\x7d\n"

/-- The brace of the unknown block closes the loop, and the statement after it is no longer enclosed. -/
theorem switchedSketch_leaks :
    (loopBody? switchedSketch.toList).map bodyLines = some switched.lines ∧
    switched.blocks.map (Option.map Prod.fst) =
      [some .whileLoop, none, none, some .delay, some .endBlock] ∧
    (importLines 0 switched.lines).toOption.map (List.map Prod.fst) =
      some [.whileLoop, .endBlock, .delay] ∧
    switched.scopes 0 [] = [[], [0]] ∧
    (importSketch switchedSketch).toOption.map (fun g => chainScopes 0 [] (g.nodes.drop 2)) =
      some [[], []] := by
  decide +kernel

end BlockSketch
