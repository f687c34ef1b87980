/-
**The layout of sketches.**

Every line of a sketch but the headers of its two functions is plain, if the texts of the program are;
so the header of the loop function is found where it is written, and not before.  All lines of the body
of loop are indented, so that the body ends with the brace that is written for its end.

Main definitions:

* `BlockSketch.Statement.ownLines` — the lines of a statement, without those of its bodies and without
  indentation;
* `BlockSketch.Program.texts` — the texts of a program;
* `BlockSketch.unlines`, `BlockSketch.leading` — lines with line feeds after or before them.

Main results:

* `BlockSketch.mem_blockLines` — each line of statements is one of their own lines, indented;
* `BlockSketch.search_loopShape_line` — no loop function starts in a plain line;
* `BlockSketch.Program.loopBody?_sketch` — **the body of loop is found in a sketch**.
-/

import BlockSketch.Proofs.PlainText
import BlockSketch.Proofs.Sorting
import BlockSketch.Sketch.Import

set_option relaxedAutoImplicit false
set_option autoImplicit false

namespace BlockSketch

open BlockSketch.Text

/-! ### The lines of statements -/

/-- The lines of a statement, without those of its bodies and without indentation. -/
def Statement.ownLines : Statement → List String
  | .action a => [a.text]
  | .branch condition _ _ => ["if (" ++ condition ++ ") \x7b", "\x7d else \x7b", "\x7d"]
  | .forLoop name start stop step _ => [forHeader name start stop step, "\x7d"]
  | .whileLoop condition _ => ["while (" ++ condition ++ ") \x7b", "\x7d"]

/-- The line is one of the own lines of the statements, indented by at least so many levels. -/
def IsLineOf (ss : List Statement) (depth : Nat) (l : String) : Prop :=
  ∃ k, depth ≤ k ∧ ∃ s ∈ ss, ∃ t ∈ s.ownLines, l = indent k ++ t

theorem IsLineOf.mono {ss ss' : List Statement} {depth depth' : Nat} {l : String}
    (h : IsLineOf ss depth l) (hs : ∀ s ∈ ss, s ∈ ss') (hd : depth' ≤ depth) :
    IsLineOf ss' depth' l := by
  obtain ⟨k, hk, s, hmem, t, ht, hl⟩ := h
  exact ⟨k, Nat.le_trans hd hk, s, hs s hmem, t, ht, hl⟩

/-- A statement has its own lines. -/
theorem Statement.isLineOf_own {s : Statement} {t : String} (h : t ∈ s.ownLines) (depth : Nat) :
    IsLineOf s.flatten depth (indent depth ++ t) := by
  refine ⟨depth, Nat.le_refl _, s, ?_, t, h, rfl⟩
  cases s <;> simp [Statement.flatten]

mutual

theorem Statement.mem_lines {depth : Nat} {l : String} :
    (s : Statement) → l ∈ s.lines depth → IsLineOf s.flatten depth l
  | .action a, h => by
      rw [Statement.lines, List.mem_singleton] at h
      rw [h]
      exact Statement.isLineOf_own (by simp [Statement.ownLines]) depth
  | .branch condition body otherwise, h => by
      have hheader := Statement.isLineOf_own (s := .branch condition body otherwise)
        (t := "if (" ++ condition ++ ") \x7b") (by simp [Statement.ownLines]) depth
      simp only [Statement.lines, List.mem_append, List.mem_cons, List.not_mem_nil, or_false] at h
      rcases h with ((rfl | h) | h) | rfl
      · simpa only [String.append_assoc] using hheader
      · exact (mem_blockLines body h).mono (by simp +contextual [Statement.flatten])
          (Nat.le_succ depth)
      · split at h
        · simp at h
        · rcases List.mem_cons.1 h with rfl | h
          · exact Statement.isLineOf_own (by simp [Statement.ownLines]) depth
          · exact (mem_blockLines otherwise h).mono (by simp +contextual [Statement.flatten])
              (Nat.le_succ depth)
      · exact Statement.isLineOf_own (by simp [Statement.ownLines]) depth
  | .forLoop name start stop step body, h => by
      simp only [Statement.lines, List.mem_append, List.mem_cons, List.not_mem_nil, or_false] at h
      rcases h with (rfl | h) | rfl
      · exact Statement.isLineOf_own (by simp [Statement.ownLines]) depth
      · exact (mem_blockLines body h).mono (by simp +contextual [Statement.flatten])
          (Nat.le_succ depth)
      · exact Statement.isLineOf_own (by simp [Statement.ownLines]) depth
  | .whileLoop condition body, h => by
      have hheader := Statement.isLineOf_own (s := .whileLoop condition body)
        (t := "while (" ++ condition ++ ") \x7b") (by simp [Statement.ownLines]) depth
      simp only [Statement.lines, List.mem_append, List.mem_cons, List.not_mem_nil, or_false] at h
      rcases h with (rfl | h) | rfl
      · simpa only [String.append_assoc] using hheader
      · exact (mem_blockLines body h).mono (by simp +contextual [Statement.flatten])
          (Nat.le_succ depth)
      · exact Statement.isLineOf_own (by simp [Statement.ownLines]) depth

/-- Each line of statements is one of their own lines, indented. -/
theorem mem_blockLines {depth : Nat} {l : String} :
    (ss : List Statement) → l ∈ blockLines depth ss → IsLineOf (flattenAll ss) depth l
  | [], h => by simp [blockLines] at h
  | s :: ss, h => by
      rw [blockLines, List.mem_append] at h
      rcases h with h | h
      · exact (Statement.mem_lines s h).mono (by simp +contextual [flattenAll]) (Nat.le_refl _)
      · exact (mem_blockLines ss h).mono (by simp +contextual [flattenAll]) (Nat.le_refl _)

end

/-- The own lines of a statement are plain if its texts are. -/
theorem Statement.isPlain_ownLines {s : Statement} (h : ∀ t ∈ s.texts, IsPlain t) :
    ∀ l ∈ s.ownLines, IsPlain l := by
  cases s with
  | action a =>
      rw [Statement.ownLines, List.forall_mem_singleton]
      exact Action.isPlain_text h
  | branch condition body otherwise =>
      have hc : IsPlain condition := h condition (by simp [Statement.texts])
      simp only [Statement.ownLines, List.forall_mem_cons, List.not_mem_nil, false_imp_iff,
        implies_true, and_true]
      exact ⟨(hc.after (by decide)).before (by decide), by decide, by decide⟩
  | forLoop name start stop step body =>
      simp only [Statement.texts, List.forall_mem_cons, List.forall_mem_append] at h
      obtain ⟨hname, ⟨hstart, hstop⟩, hstep⟩ := h
      simp only [Statement.ownLines, List.forall_mem_cons, List.not_mem_nil, false_imp_iff,
        implies_true, and_true]
      refine ⟨?_, by decide⟩
      have h₁ := (hname.after (m := "for (int ") (by decide)).join (m := " = ") (by decide)
        (Operand.isPlain_render hstart)
      have h₂ := h₁.join (m := "; ") (by decide) hname
      have h₃ : IsPlain ("for (int " ++ name ++ " = " ++ start.render ++ "; " ++ name ++
          (if step.isNegative then " > " else " < ") ++ stop.render) := by
        split
        · exact h₂.join (by decide) (Operand.isPlain_render hstop)
        · exact h₂.join (by decide) (Operand.isPlain_render hstop)
      have h₄ := (h₃.join (m := "; ") (by decide) hname).join (m := " += ") (by decide)
        (Operand.isPlain_render hstep)
      exact h₄.before (by decide)
  | whileLoop condition body =>
      have hc : IsPlain condition := h condition (by simp [Statement.texts])
      simp only [Statement.ownLines, List.forall_mem_cons, List.not_mem_nil, false_imp_iff,
        implies_true, and_true]
      exact ⟨(hc.after (by decide)).before (by decide), by decide⟩

/-- Indentation does not matter for a line to be plain. -/
theorem isPlain_indent {s : String} (h : IsPlain s) (depth : Nat) : IsPlain (indent depth ++ s) := by
  have hblank : ∀ c ∈ (indent depth).toList, c = ' ' := by
    intro c hc
    rw [indent, String.toList_ofList] at hc
    exact List.eq_of_mem_replicate hc
  refine h.after ⟨Plain.of_breaks fun c hc => ?_, fun c hc => ?_⟩
  · rw [hblank c hc]
    decide
  · rw [hblank c (List.mem_of_getLast? hc)]
    decide

/-- The lines of statements are plain if their texts are. -/
theorem isPlain_blockLines {ss : List Statement}
    (h : ∀ s ∈ flattenAll ss, ∀ t ∈ s.texts, IsPlain t) (depth : Nat) :
    ∀ l ∈ blockLines depth ss, IsPlain l := by
  intro l hl
  obtain ⟨k, -, s, hs, t, ht, rfl⟩ := mem_blockLines ss hl
  exact isPlain_indent (Statement.isPlain_ownLines (h s hs) t ht) k

/-! ### The text of a sketch -/

/-- The lines, each with a line feed after it. -/
def unlines (ls : List String) : List Char :=
  ls.flatMap fun l => l.toList ++ ['\n']

/-- The lines, each with a line feed before it. -/
def leading (ls : List String) : List Char :=
  ls.flatMap fun l => '\n' :: l.toList

theorem unlines_cons (l : String) (ls : List String) :
    unlines (l :: ls) = l.toList ++ '\n' :: unlines ls := by
  simp [unlines]

theorem leading_cons (l : String) (ls : List String) :
    leading (l :: ls) = '\n' :: (l.toList ++ leading ls) := rfl

theorem unlines_append (ls ls' : List String) : unlines (ls ++ ls') = unlines ls ++ unlines ls' :=
  List.flatMap_append

theorem newline_unlines (ls : List String) (s : List Char) :
    '\n' :: (unlines ls ++ s) = leading ls ++ '\n' :: s := by
  induction ls with
  | nil => rfl
  | cons l ls ih =>
      rw [unlines_cons, leading_cons, List.append_assoc, List.cons_append, ih, List.cons_append,
        List.append_assoc]

/-- If the last line is empty, all others end with a line feed. -/
theorem toList_intercalate_lines (ls : List String) :
    ("\n".intercalate (ls ++ [""])).toList = unlines ls := by
  rw [String.toList_intercalate]
  induction ls with
  | nil => rfl
  | cons l ls ih =>
      rw [List.cons_append, List.map_cons, List.intercalate_cons_of_ne_nil (by simp), ih,
        unlines_cons]
      simp

/-! ### Finding the loop function -/

theorem loopShape_eq_some {s body : List Char} (h : loopShape s = some body) :
    ∃ r, s = "void".toList ++ r := by
  simp only [loopShape, Option.bind_eq_bind, Option.bind_eq_some_iff] at h
  obtain ⟨r, hr, -⟩ := h
  exact ⟨r, afterWord?_eq_some_iff.1 hr⟩

/-- A search goes on after a text if the shape is not recognised within it. -/
theorem search_append {α : Type} {shape : List Char → Option α} {s rest : List Char}
    (h : ∀ t, t ≠ [] → t <:+ s → shape (t ++ rest) = none) :
    search shape (s ++ rest) = search shape rest := by
  induction s with
  | nil => rfl
  | cons c s ih =>
      rw [List.cons_append, search, ← List.cons_append,
        h (c :: s) (by simp) (List.suffix_refl _)]
      exact ih fun t ht hs => h t ht (hs.trans (List.suffix_cons c s))

/-- No loop function starts in a plain line. -/
theorem search_loopShape_line {l : String} (h : IsPlain l) (rest : List Char) :
    search loopShape (l.toList ++ '\n' :: rest) = search loopShape rest := by
  rw [List.append_cons]
  refine search_append fun t ht hs => ?_
  cases hshape : loopShape (t ++ rest) with
  | none => rfl
  | some body =>
      obtain ⟨t, rfl, hsuffix⟩ := (List.suffix_concat_iff.1 hs).resolve_left ht
      obtain ⟨r, hr⟩ := loopShape_eq_some hshape
      -- the line feed is not part of the word, so the word would have to be in the line
      have hvoid : "void".toList <+: t := by
        rw [← List.append_cons, List.append_eq_append_iff] at hr
        rcases hr with ⟨u, hu, hr⟩ | ⟨u, hu, -⟩
        · cases u with
          | nil => exact ⟨[], by simpa using hu⟩
          | cons c u =>
              rw [List.cons_append, List.cons.injEq] at hr
              have hmem : '\n' ∈ "void".toList := by rw [hu, hr.1]; simp
              exact absurd hmem (by decide)
        · exact ⟨u, hu.symm⟩
      exact absurd (hvoid.isInfix.trans hsuffix.isInfix) h.2

/-- No loop function starts in the header of setup. -/
theorem search_loopShape_setup (rest : List Char) :
    search loopShape ("void setup() \x7b".toList ++ '\n' :: rest) = search loopShape rest := rfl

/-- A search goes on after such lines. -/
theorem search_loopShape_unlines {ls : List String}
    (h : ∀ l ∈ ls, IsPlain l ∨ l = "void setup() \x7b") (rest : List Char) :
    search loopShape (unlines ls ++ rest) = search loopShape rest := by
  induction ls with
  | nil => rfl
  | cons l ls ih =>
      obtain ⟨hl, hls⟩ := List.forall_mem_cons.1 h
      have hsearch := ih hls
      rw [unlines_cons, List.append_assoc, List.cons_append]
      rcases hl with hl | rfl
      · rw [search_loopShape_line hl, hsearch]
      · rw [search_loopShape_setup, hsearch]

theorem loopShape_loop (rest : List Char) :
    loopShape ("void loop() \x7b".toList ++ rest) = upToEnd? rest := rfl

/-! ### The body of the loop function -/

theorem upToEnd?_cons {c : Char} {s : List Char} (h : c = '\n' → s.head? ≠ some '\x7d') :
    upToEnd? (c :: s) = (upToEnd? s).map (c :: ·) := by
  rw [upToEnd?]
  rintro r hc rfl
  exact h hc rfl

/-- A text without line feeds belongs to the body. -/
theorem upToEnd?_append {s : List Char} (h : '\n' ∉ s) (rest : List Char) :
    upToEnd? (s ++ rest) = (upToEnd? rest).map (s ++ ·) := by
  induction s with
  | nil => simp
  | cons c s ih =>
      rw [List.mem_cons, not_or] at h
      rw [List.cons_append, upToEnd?_cons fun hc => absurd hc.symm h.1, ih h.2, Option.map_map]
      rfl

/-- The body ends with the first brace that is not indented. -/
theorem upToEnd?_leading {ls : List String}
    (h : ∀ l ∈ ls, '\n' ∉ l.toList ∧ l.toList.head? = some ' ') (rest : List Char) :
    upToEnd? (leading ls ++ '\n' :: '\x7d' :: rest) = some (leading ls) := by
  induction ls with
  | nil => rfl
  | cons l ls ih =>
      obtain ⟨⟨hl, hhead⟩, hls⟩ := List.forall_mem_cons.1 h
      have hindented (s : List Char) : (l.toList ++ s).head? ≠ some '\x7d' := by
        simp [List.head?_append, hhead]
      rw [leading_cons, List.cons_append, List.append_assoc, upToEnd?_cons fun _ => hindented _,
        upToEnd?_append hl, ih hls]
      rfl

theorem pieces_append {mark : Char} {s : List Char} (h : mark ∉ s) (rest : List Char) :
    pieces mark (s ++ mark :: rest) = s :: pieces mark rest := by
  induction s with
  | nil => simp [pieces]
  | cons c s ih =>
      rw [List.mem_cons, not_or] at h
      rw [List.cons_append, pieces, if_neg (Ne.symm h.1), ih h.2]

theorem pieces_of_not_mem {mark : Char} {s : List Char} (h : mark ∉ s) : pieces mark s = [s] := by
  induction s with
  | nil => rfl
  | cons c s ih =>
      rw [List.mem_cons, not_or] at h
      rw [pieces, if_neg (Ne.symm h.1), ih h.2]

/-- A body is cut into its lines, after an empty one. -/
theorem splitLines_leading {ls : List String} (h : ∀ l ∈ ls, '\n' ∉ l.toList) :
    splitLines (leading ls) = [] :: ls.map String.toList := by
  have hlines {s : List Char} (hs : '\n' ∉ s) (ls : List String)
      (h : ∀ l ∈ ls, '\n' ∉ l.toList) :
      pieces '\n' (s ++ leading ls) = s :: ls.map String.toList := by
    induction ls generalizing s with
    | nil => rw [leading, List.flatMap_nil, List.append_nil, pieces_of_not_mem hs]; rfl
    | cons l ls ih =>
        rw [List.forall_mem_cons] at h
        rw [leading_cons, pieces_append hs, ih h.1 h.2, List.map_cons]
  exact hlines List.not_mem_nil ls h

/-! ### Programs -/

/-- The texts of a program. -/
def Program.texts (p : Program) : List String :=
  p.statements.flatMap Statement.texts ++ p.servos ++
    p.globals.flatMap (fun d => [d.type, d.name, d.value]) ++
    p.pinModes.flatMap fun pm => pm.2 :: pm.1.texts

namespace Program

variable {p : Program}

/-- What holds of all texts of a program holds of those of its statements, declarations and pins. -/
theorem forall_mem_texts {P : String → Prop} :
    (∀ t ∈ p.texts, P t) ↔
      (∀ s ∈ flattenAll p.setup, ∀ t ∈ s.texts, P t) ∧
      (∀ s ∈ flattenAll p.loop, ∀ t ∈ s.texts, P t) ∧ (∀ name ∈ p.servos, P name) ∧
      (∀ d ∈ p.globals, P d.type ∧ P d.name ∧ P d.value) ∧
      ∀ pm ∈ p.pinModes, P pm.2 ∧ ∀ t ∈ pm.1.texts, P t := by
  simp only [texts, statements, List.flatMap_append, List.forall_mem_append, List.forall_mem_flatMap,
    List.forall_mem_cons, List.not_mem_nil, false_imp_iff, implies_true, and_true, and_assoc]

/-- The lines of the loop function. -/
def loopLines (p : Program) : List String :=
  linesOr (blockLines 1 p.loop) (indent 1 ++ "// no loop actions")

/-- The lines before the header of the loop function. -/
def headLines (p : Program) : List String :=
  (if p.servos.isEmpty then [] else ["#include <Servo.h>", ""]) ++
    (if p.declarationLines.isEmpty then [] else p.declarationLines ++ [""]) ++
    ["void setup() \x7b"] ++ linesOr p.setupLines (indent 1 ++ "// no setup actions") ++ ["\x7d", ""]

theorem sketchLines_eq (p : Program) :
    p.sketchLines = p.headLines ++ "void loop() \x7b" :: p.loopLines ++ ["\x7d"] ++ [""] := by
  simp [sketchLines, headLines, loopLines]

theorem sketch_toList (p : Program) :
    p.sketch.toList = unlines p.headLines ++
      ("void loop() \x7b".toList ++ (leading p.loopLines ++ '\n' :: '\x7d' :: ['\n'])) := by
  rw [sketch, sketchLines_eq, toList_intercalate_lines, List.append_assoc, unlines_append,
    List.cons_append, unlines_cons, unlines_append, newline_unlines]
  rfl

/-- The operands that have to be compared are numbers: the pins with each other, and the steps of
loops with zero. -/
def IsNumeric (p : Program) : Prop :=
  (∀ pm ∈ p.pinModes, pm.1.isText = false) ∧ ∀ s ∈ p.statements, s.textStep? = none

/-- Pins that are numbers are sorted. -/
theorem exists_sortPins? (h : p.IsNumeric) : ∃ r, p.sortPins? = .ok r := by
  have hsort : Order.Yields False p.sortPins? fun r => r.Perm p.pinModes := by
    refine Order.sort_yields fun a ha b hb => ?_
    have hab : (a.1.isText || b.1.isText) = false := by rw [h.1 a ha, h.1 b hb]; rfl
    unfold Operand.isBefore
    split
    · rename_i heq _
      rw [heq] at hab
      simp [Operand.isText] at hab
    · rw [hab]
      exact Order.Yields.ok trivial
  obtain ⟨r, hr, -⟩ := hsort.exists_eq_ok
  exact ⟨r, hr⟩

/-- The order of a sketch has all pins, and no others. -/
theorem sketchPins_perm (p : Program) : p.sketchPins.Perm p.pinModes := by
  unfold sketchPins
  cases hr : p.sortPins? with
  | ok r => exact Order.perm_of_sort hr
  | error e => exact List.Perm.refl _

/-- A program whose operands can be compared has a sketch. -/
theorem sketch?_eq (h : p.IsNumeric) : p.sketch? = .ok p.sketch := by
  obtain ⟨r, hr⟩ := exists_sortPins? h
  have hsteps : p.statements.findSome? Statement.textStep? = none :=
    List.findSome?_eq_none_iff.2 h.2
  rw [sketch?, hr]
  simp only [hsteps]
  rfl

section Plain

variable (h : ∀ t ∈ p.texts, IsPlain t)
include h

theorem isPlain_declarationLines : ∀ l ∈ p.declarationLines, IsPlain l := by
  obtain ⟨-, -, hservo, hglobal, -⟩ := forall_mem_texts.1 h
  intro l hl
  simp only [declarationLines, List.mem_append, List.mem_map, List.mem_mergeSort] at hl
  rcases hl with ⟨name, hname, rfl⟩ | ⟨d, hd, rfl⟩
  · exact ((hservo name hname).after (by decide)).before (by decide)
  · obtain ⟨htype, hname, hvalue⟩ := hglobal d hd
    exact ((htype.join (m := " ") (by decide) hname).join (by decide) hvalue).before (by decide)

theorem isPlain_setupLines : ∀ l ∈ p.setupLines, IsPlain l := by
  obtain ⟨hsetup, -, -, -, hpin⟩ := forall_mem_texts.1 h
  intro l hl
  simp only [setupLines, List.mem_append, List.mem_map] at hl
  rcases hl with (hl | ⟨pm, hpm, rfl⟩) | hl
  · split at hl
    · rw [List.mem_singleton.1 hl]
      decide
    · simp at hl
  · obtain ⟨hmode, hoperand⟩ := hpin pm (p.sketchPins_perm.subset hpm)
    have hcall := (Operand.isPlain_render hoperand).after (m := indent 1 ++ "pinMode(") (by decide)
    exact (hcall.join (by decide) hmode).before (by decide)
  · exact isPlain_blockLines hsetup 1 l hl

/-- Every line before the loop function is plain, but for the header of setup. -/
theorem isPlain_headLines : ∀ l ∈ p.headLines, IsPlain l ∨ l = "void setup() \x7b" := by
  intro l hl
  simp only [headLines, linesOr, List.mem_append, List.mem_cons, List.not_mem_nil, or_false] at hl
  rcases hl with (((hl | hl) | rfl) | hl) | rfl | rfl
  · left
    split at hl
    · simp at hl
    · simp only [List.mem_cons, List.not_mem_nil, or_false] at hl
      rcases hl with rfl | rfl <;> decide
  · left
    split at hl
    · simp at hl
    · rcases List.mem_append.1 hl with hl | hl
      · exact isPlain_declarationLines h l hl
      · rw [List.mem_singleton.1 hl]
        decide
  · exact Or.inr rfl
  · left
    split at hl
    · rw [List.mem_singleton.1 hl]
      decide
    · exact isPlain_setupLines h l hl
  · exact Or.inl (by decide)
  · exact Or.inl (by decide)

/-- The lines of the loop function are indented and have no line feeds. -/
theorem loopLines_indented : ∀ l ∈ p.loopLines, '\n' ∉ l.toList ∧ l.toList.head? = some ' ' := by
  obtain ⟨-, hloop, -⟩ := forall_mem_texts.1 h
  intro l hl
  unfold loopLines linesOr at hl
  split at hl
  · rw [List.mem_singleton.1 hl]
    decide
  · refine ⟨(isPlain_blockLines hloop 1 l hl).1, ?_⟩
    obtain ⟨k, hk, s, -, t, -, rfl⟩ := mem_blockLines p.loop hl
    obtain ⟨k, rfl⟩ := Nat.exists_eq_add_of_le hk
    rw [String.toList_append, indent, String.toList_ofList, Nat.mul_add, List.replicate_add]
    rfl

/-- **The body of loop is found in a sketch.** -/
theorem loopBody?_sketch : loopBody? p.sketch.toList = some (leading p.loopLines) := by
  rw [loopBody?, sketch_toList, search_loopShape_unlines (isPlain_headLines h)]
  refine search_of_eq_some ?_
  rw [loopShape_loop, upToEnd?_leading (loopLines_indented h)]

end Plain

end Program

end BlockSketch
