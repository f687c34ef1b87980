/-
**Reading blocks by their braces.**

A sketch is read line by line, with a stack of the blocks that are open.  A line that ends in an opening
brace opens a block, a closing brace alone in its line closes the last one, and `else` between two
braces goes on to its second branch.  Everything else is a line of the block.

Lines lay out trees if they are read as these trees wherever the reader is: the blocks that are open
stay open, and what has been read so far stays in front.  Each line is then indented to the depth that
the braces before it give, which is never below the depth at which the lines start.  Lines that lay out
trees can be put one after the other, and between the braces of a block.

Main definitions:

* `BlockSketch.CodeTree` — lines with blocks in blocks;
* `BlockSketch.Reader`, `BlockSketch.readTrees` — reading lines with a stack of open blocks;
* `BlockSketch.lineDepths`, `BlockSketch.StandsAt` — the depths of lines, counted by their braces, and
  lines that are indented to a depth;
* `BlockSketch.Leads`, `BlockSketch.LaysOut` — lines lead from one reader to another, or are read as
  trees wherever the reader is, and are indented accordingly.

Main results:

* `BlockSketch.LaysOut.append` — lines that lay out trees, one after the other;
* `BlockSketch.LaysOut.block`, `BlockSketch.LaysOut.choice` — the same inside a block with one branch,
  and with two;
* `BlockSketch.LaysOut.readTrees_eq` — lines that lay out trees are read as these from the start.
-/

import BlockSketch.Proofs.Remarks

set_option relaxedAutoImplicit false
set_option autoImplicit false

namespace BlockSketch

/-! ### Texts without braces -/

/-- A text without line feeds and braces. -/
def Unbraced (s : String) : Prop :=
  ∀ c ∈ s.toList, c ∉ ['\n', '\x7b', '\x7d']

instance (s : String) : Decidable (Unbraced s) :=
  List.decidableBAll _ s.toList

theorem unbraced_append {s t : String} : Unbraced (s ++ t) ↔ Unbraced s ∧ Unbraced t := by
  unfold Unbraced
  rw [String.toList_append, List.forall_mem_append]

theorem unbraced_indent (depth : Nat) : Unbraced (indent depth) := by
  intro c hc
  rw [toList_indent] at hc
  rw [List.eq_of_mem_replicate hc]
  decide

/-! ### Reading lines -/

/-- What a line does to the blocks that are open. -/
inductive LineRole where
  | plain
  | opening
  | switching
  | closing
  deriving DecidableEq

/-- The role of a line, by its braces. -/
def lineRole (l : String) : LineRole :=
  let t := l.toList.dropWhile (· == ' ')
  if t = ['\x7d'] then .closing
  else if t = "\x7d else \x7b".toList then .switching
  else if l.toList.getLast? = some '\x7b' then .opening
  else .plain

/-- Lines with blocks in blocks.  A block has a header and one or two branches. -/
inductive CodeTree where
  | line (text : String)
  | block (header : String) (body : List CodeTree)
  | choice (header : String) (body otherwise : List CodeTree)

/-- A block that is open: what was read before it, and its first branch if the second is being read. -/
structure OpenBlock where
  header : String
  before : List CodeTree
  first : Option (List CodeTree) := none

/-- The block, closed after the given trees. -/
def OpenBlock.close (b : OpenBlock) (trees : List CodeTree) : CodeTree :=
  match b.first with
  | none => .block b.header trees
  | some first => .choice b.header first trees

/-- A reader: the blocks that are open, the last one first, and what has been read of it. -/
structure Reader where
  blocks : List OpenBlock := []
  trees : List CodeTree := []

namespace Reader

/-- Reads a line.  This fails if there is no block to be closed, or none with one branch to be
continued. -/
def step (r : Reader) (l : String) : Option Reader :=
  match lineRole l, r.blocks with
  | .plain, _ => some { r with trees := r.trees ++ [.line l] }
  | .opening, bs => some { blocks := ⟨l, r.trees, none⟩ :: bs, trees := [] }
  | .switching, ⟨header, before, none⟩ :: bs =>
    some { blocks := ⟨header, before, some r.trees⟩ :: bs, trees := [] }
  | .closing, b :: bs => some { blocks := bs, trees := b.before ++ [b.close r.trees] }
  | _, _ => none

/-- Reads lines. -/
def run (r : Reader) (ls : List String) : Option Reader :=
  ls.foldlM step r

end Reader

/-- Reads lines from the start, with all blocks closed at the end. -/
def readTrees (ls : List String) : Option (List CodeTree) :=
  (({} : Reader).run ls).bind fun r => if r.blocks.isEmpty then some r.trees else none

/-- The depth of a line: one less than before it, if it closes a block or a branch. -/
def depthAt (depth : Int) (l : String) : Int :=
  if lineRole l = .closing ∨ lineRole l = .switching then depth - 1 else depth

/-- The depth after a line: one more than its own, if it opens a block or a branch. -/
def depthPast (depth : Int) (l : String) : Int :=
  if lineRole l = .opening ∨ lineRole l = .switching then depthAt depth l + 1 else depthAt depth l

/-- The depths of lines, counted by their braces. -/
def lineDepths (depth : Int) : List String → List Int
  | [] => []
  | l :: ls => depthAt depth l :: lineDepths (depthPast depth l) ls

/-! ### Roles of lines -/

section Roles

variable {l m : String} (depth : Nat)

/-- A line without closing braces has its role from its last character. -/
theorem lineRole_of_not_mem (h : '\x7d' ∉ l.toList) :
    lineRole l = if l.toList.getLast? = some '\x7b' then .opening else .plain := by
  have hdrop : '\x7d' ∉ l.toList.dropWhile (· == ' ') := fun hmem =>
    h ((List.dropWhile_sublist _).subset hmem)
  unfold lineRole
  dsimp only
  rw [if_neg (fun heq => hdrop (by rw [heq]; decide)), if_neg (fun heq => hdrop (by rw [heq]; decide))]

theorem Unbraced.not_mem (h : Unbraced l) {c : Char} (hc : c ∈ ['\n', '\x7b', '\x7d']) :
    c ∉ l.toList :=
  fun hmem => h c hmem hc

theorem newline_not_mem_indent (h : '\n' ∉ l.toList) : '\n' ∉ (indent depth ++ l).toList := by
  rw [String.toList_append, List.mem_append, not_or]
  exact ⟨(unbraced_indent depth).not_mem (by decide), h⟩

theorem Unbraced.lineRole_eq (h : Unbraced l) : lineRole l = .plain := by
  rw [lineRole_of_not_mem (h.not_mem (by decide)), if_neg]
  intro hlast
  exact h.not_mem (by decide) (List.mem_of_getLast? hlast)

theorem lineRole_opening (h : Unbraced m) : lineRole (m ++ "\x7b") = .opening := by
  have hmem : '\x7d' ∉ (m ++ "\x7b").toList := by
    rw [String.toList_append, List.mem_append, not_or]
    exact ⟨h.not_mem (by decide), by decide⟩
  rw [lineRole_of_not_mem hmem, if_pos]
  rw [String.toList_append, List.getLast?_append]
  rfl

theorem dropWhile_indent (t : String) : (indent depth ++ t).toList.dropWhile (· == ' ') =
    t.toList.dropWhile (· == ' ') := by
  rw [String.toList_append, toList_indent, List.dropWhile_append_of_pos (by simp)]

theorem lineRole_closing : lineRole (indent depth ++ "\x7d") = .closing := by
  unfold lineRole
  rw [dropWhile_indent]
  rfl

theorem lineRole_switching : lineRole (indent depth ++ "\x7d else \x7b") = .switching := by
  unfold lineRole
  rw [dropWhile_indent]
  rfl

end Roles

/-! ### Reading line after line -/

/-- The line is indented to a depth. -/
def StandsAt (depth : Int) (l : String) : Prop :=
  (indent depth.toNat).toList <+: l.toList

instance (depth : Int) (l : String) : Decidable (StandsAt depth l) :=
  List.instDecidableIsPrefixOfDecidableEq _ _

theorem standsAt_indent (depth : Nat) (t : String) : StandsAt depth (indent depth ++ t) := by
  rw [StandsAt, String.toList_append]
  exact List.prefix_append _ _

theorem StandsAt.mono {depth depth' : Int} {l : String} (h : StandsAt depth l) (hle : depth' ≤ depth) :
    StandsAt depth' l := by
  refine List.IsPrefix.trans ?_ h
  have hlength : 2 * depth.toNat = 2 * depth'.toNat + 2 * (depth.toNat - depth'.toNat) := by omega
  rw [toList_indent, toList_indent, hlength, List.replicate_add]
  exact List.prefix_append _ _

/-- The lines lead from one reader to another and from one depth to another.  Each of them is indented
to the depth that the braces give it, which is never below the floor, and has no line feed in it. -/
structure Leads (floor : Nat) (d : Nat) (r : Reader) (ls : List String) (d' : Nat) (r' : Reader) :
    Prop where
  run : r.run ls = some r'
  past : ls.foldl depthPast d = d'
  indented : List.Forall₂ (fun k l => (floor : Int) ≤ k ∧ StandsAt k l) (lineDepths d ls) ls
  unbroken : ∀ l ∈ ls, '\n' ∉ l.toList

theorem lineDepths_append (d : Int) (ls ls' : List String) :
    lineDepths d (ls ++ ls') = lineDepths d ls ++ lineDepths (ls.foldl depthPast d) ls' := by
  induction ls generalizing d with
  | nil => rfl
  | cons l ls ih => rw [List.cons_append, lineDepths, ih, lineDepths, List.cons_append, List.foldl_cons]

namespace Leads

variable {floor d d' d'' : Nat} {r r' r'' : Reader} {ls ls' : List String}

theorem refl (floor d : Nat) (r : Reader) : Leads floor d r [] d r where
  run := rfl
  past := rfl
  indented := .nil
  unbroken := by simp

theorem trans (h : Leads floor d r ls d' r') (h' : Leads floor d' r' ls' d'' r'') :
    Leads floor d r (ls ++ ls') d'' r'' where
  run := by
    have hrun : ls.foldlM Reader.step r = some r' := h.run
    rw [Reader.run, List.foldlM_append, hrun]
    exact h'.run
  past := by rw [List.foldl_append, h.past, h'.past]
  indented := by
    rw [lineDepths_append, h.past]
    exact List.rel_append h.indented h'.indented
  unbroken := List.forall_mem_append.2 ⟨h.unbroken, h'.unbroken⟩

/-- What is not below a floor is not below a lower one. -/
theorem mono (h : Leads floor d r ls d' r') {floor' : Nat} (hle : floor' ≤ floor) :
    Leads floor' d r ls d' r' where
  run := h.run
  past := h.past
  indented := by
    refine h.indented.imp fun k l hk => ⟨?_, hk.2⟩
    have hfloor := hk.1
    omega
  unbroken := h.unbroken

/-- What a single line does. -/
theorem single {l : String} (hstep : r.step l = some r') (hpast : depthPast d l = d')
    (hat : depthAt d l = floor) (hl : StandsAt floor l) (hbreak : '\n' ∉ l.toList) :
    Leads floor d r [l] d' r' where
  run := by
    rw [Reader.run, List.foldlM_cons, hstep]
    rfl
  past := hpast
  indented := by
    rw [lineDepths, hat]
    exact .cons ⟨Int.le_refl _, hl⟩ .nil
  unbroken := List.forall_mem_singleton.2 hbreak

/-- No line is indented less than the floor. -/
theorem standsAt (h : Leads floor d r ls d' r') : ∀ l ∈ ls, StandsAt floor l := by
  intro l hl
  obtain ⟨k, -, hk, hstands⟩ := exists_of_forall₂_of_mem h.indented hl
  exact hstands.mono hk

variable {bs : List OpenBlock} {trees : List CodeTree} (depth : Nat)

/-- A line without braces is added to what has been read. -/
theorem plain {l : String} (h : Unbraced l) (hl : StandsAt depth l) (r : Reader) :
    Leads depth depth r [l] depth { r with trees := r.trees ++ [.line l] } := by
  refine single ?_ ?_ ?_ hl (h.not_mem (by decide))
  · rw [Reader.step, h.lineRole_eq]
  · simp [depthPast, depthAt, h.lineRole_eq]
  · simp [depthAt, h.lineRole_eq]

/-- A header opens a block. -/
theorem opening {m : String} (h : Unbraced m) (r : Reader) :
    Leads depth depth r [indent depth ++ (m ++ "\x7b")] (depth + 1)
      { blocks := ⟨indent depth ++ (m ++ "\x7b"), r.trees, none⟩ :: r.blocks } := by
  have hrole : lineRole (indent depth ++ (m ++ "\x7b")) = .opening := by
    rw [← String.append_assoc]
    exact lineRole_opening (unbraced_append.2 ⟨unbraced_indent depth, h⟩)
  refine single ?_ ?_ ?_ (standsAt_indent depth _) ?_
  · rw [Reader.step, hrole]
  · simp [depthPast, depthAt, hrole]
  · simp [depthAt, hrole]
  · refine newline_not_mem_indent depth ?_
    rw [String.toList_append, List.mem_append, not_or]
    exact ⟨h.not_mem (by decide), by decide⟩

/-- The second branch of a block follows its first. -/
theorem switching (header : String) (before : List CodeTree) :
    Leads depth (depth + 1) ⟨⟨header, before, none⟩ :: bs, trees⟩
      [indent depth ++ "\x7d else \x7b"] (depth + 1) ⟨⟨header, before, some trees⟩ :: bs, []⟩ := by
  have hrole := lineRole_switching depth
  refine single ?_ ?_ ?_ (standsAt_indent depth _) ?_
  · rw [Reader.step, hrole]
  · simp [depthPast, depthAt, hrole]
  · simp [depthAt, hrole]
  · exact newline_not_mem_indent depth (by decide)

/-- The last block is closed. -/
theorem closing (b : OpenBlock) :
    Leads depth (depth + 1) ⟨b :: bs, trees⟩ [indent depth ++ "\x7d"] depth
      ⟨bs, b.before ++ [b.close trees]⟩ := by
  have hrole := lineRole_closing depth
  refine single ?_ ?_ ?_ (standsAt_indent depth _) ?_
  · rw [Reader.step, hrole]
  · simp [depthPast, depthAt, hrole]
  · simp [depthAt, hrole]
  · exact newline_not_mem_indent depth (by decide)

end Leads

/-! ### Lines that lay out trees -/

/-- The lines are read as the given trees, wherever the reader is. -/
def LaysOut (depth : Nat) (ls : List String) (trees : List CodeTree) : Prop :=
  ∀ r : Reader, Leads depth depth r ls depth { r with trees := r.trees ++ trees }

namespace LaysOut

variable {depth : Nat} {ls ls' : List String} {trees trees' : List CodeTree}

theorem nil (depth : Nat) : LaysOut depth [] [] := by
  intro r
  rw [List.append_nil]
  exact Leads.refl depth depth r

theorem append (h : LaysOut depth ls trees) (h' : LaysOut depth ls' trees') :
    LaysOut depth (ls ++ ls') (trees ++ trees') := by
  intro r
  have hboth := (h r).trans (h' _)
  rwa [List.append_assoc] at hboth

/-- Lines without braces lay out themselves. -/
theorem lines (h : ∀ l ∈ ls, Unbraced l ∧ StandsAt depth l) : LaysOut depth ls (ls.map .line) := by
  induction ls with
  | nil => exact nil depth
  | cons l ls ih =>
      obtain ⟨hl, hls⟩ := List.forall_mem_cons.1 h
      exact append (Leads.plain depth hl.1 hl.2) (ih hls)

/-- A branch of a block is read from its start. -/
theorem inside (h : LaysOut (depth + 1) ls trees) (bs : List OpenBlock) :
    Leads depth (depth + 1) ⟨bs, []⟩ ls (depth + 1) ⟨bs, trees⟩ :=
  (h ⟨bs, []⟩).mono (Nat.le_succ depth)

section Blocks

variable {m : String} (hm : Unbraced m)
include hm

theorem block (h : LaysOut (depth + 1) ls trees) :
    LaysOut depth ((indent depth ++ (m ++ "\x7b")) :: ls ++ [indent depth ++ "\x7d"])
      [.block (indent depth ++ (m ++ "\x7b")) trees] := by
  intro r
  exact ((Leads.opening depth hm r).trans (h.inside _)).trans (Leads.closing depth _)

theorem choice (h : LaysOut (depth + 1) ls trees) (h' : LaysOut (depth + 1) ls' trees') :
    LaysOut depth ((indent depth ++ (m ++ "\x7b")) :: ls ++
        (indent depth ++ "\x7d else \x7b") :: ls' ++ [indent depth ++ "\x7d"])
      [.choice (indent depth ++ (m ++ "\x7b")) trees trees'] := by
  intro r
  have hfirst := (Leads.opening depth hm r).trans (h.inside _)
  have hboth := hfirst.trans ((Leads.switching depth _ _).trans (h'.inside _))
  exact hboth.trans (Leads.closing depth _)

/-- A block at the margin. -/
theorem function (h : LaysOut 1 ls trees) :
    LaysOut 0 ((m ++ "\x7b") :: ls ++ ["\x7d"]) [.block (m ++ "\x7b") trees] := by
  have hmargin : ∀ t : String, indent 0 ++ t = t := fun t => String.empty_append
  have hblock : LaysOut 0 ((indent 0 ++ (m ++ "\x7b")) :: ls ++ [indent 0 ++ "\x7d"])
      [.block (indent 0 ++ (m ++ "\x7b")) trees] := h.block hm
  rwa [hmargin, hmargin] at hblock

end Blocks

/-- Lines that lay out trees are read as these from the start. -/
theorem readTrees_eq (h : LaysOut depth ls trees) : readTrees ls = some trees := by
  rw [readTrees, (h {}).run]
  rfl

end LaysOut

end BlockSketch
