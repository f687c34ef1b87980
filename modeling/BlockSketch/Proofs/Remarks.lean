/-
**Comments stay comments.**

A comment goes from its two slashes to the end of the line.  Two things end it elsewhere: a line break
in its text, after which the rest of the text is code, and a backslash at its end, which joins the next
line to the comment.

The text of a comment block is cut into words, so that no line break is left, and then loses the
backslashes at its end.  The tag of a block without a kind is written into a comment too, but as it is
stored.  So the sketch of a graph has nothing but comments in these places exactly if no such tag has a
line break in it or a backslash at its end.

Main definitions:

* `BlockSketch.isLineBreak` — the characters that end a line;
* `BlockSketch.IsFlat` — a text without line breaks that does not end in a backslash;
* `BlockSketch.IsRemark` — a line that is a comment, and all of it.

Main results:

* `BlockSketch.mem_commentText` — the characters of a comment;
* `BlockSketch.isRemark_iff` — a comment stays one if its text is flat;
* `BlockSketch.exists_shown_blockLines` — each action is shown by a line of its own;
* `BlockSketch.Graph.remarks_stay_comments` — **comments stay comments, and so do blocks without a kind
  if their tags are flat**.
-/

import BlockSketch.Proofs.Conflicts
import BlockSketch.Proofs.Totality

set_option relaxedAutoImplicit false
set_option autoImplicit false

namespace BlockSketch

open BlockSketch.Text

/-! ### Flat texts -/

/-- The characters that end a line. -/
def isLineBreak (c : Char) : Bool :=
  let n := c.toNat
  (10 ≤ n && n ≤ 13) || (28 ≤ n && n ≤ 30) || n == 0x85 || n == 0x2028 || n == 0x2029

/-- A text without line breaks that does not end in a backslash. -/
structure IsFlat (s : String) : Prop where
  unbroken : ∀ c ∈ s.toList, isLineBreak c = false
  unjoined : s.toList.getLast? ≠ some '\\'

/-- A line that is a comment, and all of it: it starts with two slashes after its indentation, has no
line break in it, and does not go on in the next line. -/
structure IsRemark (l : String) : Prop where
  slashes : "//".toList <+: l.toList.dropWhile (· == ' ')
  flat : IsFlat l

/-- Line breaks are blank. -/
theorem isLineBreak_of_isBlank {c : Char} (h : isBlank c = false) : isLineBreak c = false := by
  simp only [isBlank, isLineBreak, Bool.or_eq_false_iff, Bool.and_eq_false_iff,
    decide_eq_false_iff_not, beq_eq_false_iff_ne] at h ⊢
  omega

/-- What stands before a text does not matter, if it is flat itself. -/
theorem isFlat_append_iff {m t : String} (hm : IsFlat m) : IsFlat (m ++ t) ↔ IsFlat t := by
  constructor
  · intro h
    refine ⟨fun c hc => h.unbroken c (by simp [hc]), fun hlast => h.unjoined ?_⟩
    rw [String.toList_append, List.getLast?_append, hlast]
    rfl
  · intro h
    constructor
    · intro c hc
      rw [String.toList_append, List.mem_append] at hc
      exact hc.elim (hm.unbroken c) (h.unbroken c)
    · rw [String.toList_append, List.getLast?_append]
      cases hlast : t.toList.getLast? with
      | none => exact hm.unjoined
      | some c =>
          have hc := h.unjoined
          rwa [hlast] at hc

theorem toList_indent (depth : Nat) : (indent depth).toList = List.replicate (2 * depth) ' ' := by
  rw [indent, String.toList_ofList]

theorem isFlat_indent (depth : Nat) : IsFlat (indent depth) := by
  have hblank : ∀ c ∈ (indent depth).toList, c = ' ' := by
    intro c hc
    rw [toList_indent] at hc
    exact List.eq_of_mem_replicate hc
  constructor
  · intro c hc
    rw [hblank c hc]
    rfl
  · intro hlast
    exact absurd (hblank _ (List.mem_of_getLast? hlast)) (by decide)

/-- A comment stays one if its text is flat. -/
theorem isRemark_iff (depth : Nat) (t : String) :
    IsRemark (indent depth ++ ("//" ++ t)) ↔ IsFlat t := by
  have hslashes : IsFlat "//" := ⟨by decide, by decide⟩
  have hflat : IsFlat (indent depth ++ ("//" ++ t)) ↔ IsFlat t :=
    (isFlat_append_iff (isFlat_indent depth)).trans (isFlat_append_iff hslashes)
  refine ⟨fun h => hflat.1 h.flat, fun h => ⟨?_, hflat.2 h⟩⟩
  rw [String.toList_append, String.toList_append, toList_indent,
    List.dropWhile_append_of_pos (by simp)]
  exact ⟨t.toList, rfl⟩

/-! ### The texts of comments -/

theorem isBlank_of_mem_words {s w : List Char} (h : w ∈ words s) : ∀ c ∈ w, isBlank c = false := by
  fun_induction words s generalizing w with
  | case1 => cases h
  | case2 d s hd ih => exact ih h
  | case3 d hd =>
      rw [List.mem_singleton.1 h]
      simpa using hd
  | case4 d hd e s he ih =>
      rcases List.mem_cons.1 h with rfl | h
      · simpa using hd
      · exact ih h
  | case5 d hd e s he hnone ih =>
      rw [hnone] at h
      rw [List.mem_singleton.1 h]
      simpa using hd
  | case6 d hd e s he u us hsome ih =>
      rw [hsome] at h ih
      rcases List.mem_cons.1 h with rfl | h
      · intro c hc
        rcases List.mem_cons.1 hc with rfl | hc
        · simpa using hd
        · exact ih List.mem_cons_self c hc
      · exact ih (List.mem_cons_of_mem u h)

theorem mem_of_mem_intercalate {sep : List Char} {ws : List (List Char)} {c : Char}
    (h : c ∈ List.intercalate sep ws) : c ∈ sep ∨ ∃ w ∈ ws, c ∈ w := by
  induction ws with
  | nil => simp at h
  | cons w ws ih =>
      cases ws with
      | nil =>
          rw [List.intercalate_singleton] at h
          exact Or.inr ⟨w, List.mem_cons_self, h⟩
      | cons v vs =>
          rw [List.intercalate_cons_cons, List.mem_append, List.mem_append] at h
          rcases h with (h | h) | h
          · exact Or.inr ⟨w, List.mem_cons_self, h⟩
          · exact Or.inl h
          · obtain hsep | ⟨u, hu, hc⟩ := ih h
            · exact Or.inl hsep
            · exact Or.inr ⟨u, List.mem_cons_of_mem w hu, hc⟩

/-- The characters of a comment: those of its text that are not blank, single blanks between words, and
dots if nothing else is left. -/
theorem mem_commentText {s : String} {c : Char} (h : c ∈ (Sketch.commentText s).toList) :
    c = ' ' ∨ c = '.' ∨ (c ∈ s.toList ∧ isBlank c = false) := by
  unfold Sketch.commentText at h
  dsimp only at h
  split at h
  · exact Or.inr (Or.inl (by revert c; decide))
  · rw [String.toList_ofList, Sketch.commentChars, dropEndWhile, List.mem_reverse] at h
    have hmem := List.mem_reverse.1 ((List.dropWhile_sublist _).subset h)
    obtain hsep | ⟨w, hw, hc⟩ := mem_of_mem_intercalate hmem
    · exact Or.inl (List.mem_singleton.1 hsep)
    · have hpart := (infix_words s.toList).1 w hw
      exact Or.inr (Or.inr ⟨hpart.subset hc, isBlank_of_mem_words hw c hc⟩)

/-- The text of a comment is flat, whatever it is made from. -/
theorem isFlat_commentText (s : String) : IsFlat (Sketch.commentText s) := by
  constructor
  · intro c hc
    rcases mem_commentText hc with rfl | rfl | ⟨-, hblank⟩
    · rfl
    · rfl
    · exact isLineBreak_of_isBlank hblank
  · unfold Sketch.commentText
    dsimp only
    split
    · decide
    · intro hlast
      rw [String.toList_ofList, Sketch.commentChars, dropEndWhile, List.getLast?_reverse] at hlast
      have hstop := List.head?_dropWhile_not (fun c => c == '\\' || c == ' ')
        (List.intercalate [' '] (words s.toList)).reverse
      rw [hlast] at hstop
      exact absurd hstop (by decide)

theorem isRemark_comment (text : String) (depth : Nat) :
    IsRemark (indent depth ++ (Action.comment text).text) := by
  have htext : (Action.comment text).text = "//" ++ (" " ++ Sketch.commentText text) := by
    rw [← String.append_assoc]
    rfl
  rw [htext, isRemark_iff, isFlat_append_iff ⟨by decide, by decide⟩]
  exact isFlat_commentText text

/-- The tag of a block without a kind is written as it is. -/
theorem isRemark_unknown_iff (tag : String) (depth : Nat) :
    IsRemark (indent depth ++ (Action.unknown tag).text) ↔ IsFlat tag := by
  have htext : (Action.unknown tag).text =
      "//" ++ (" Unsupported block: " ++ if tag = "" then "unknown" else tag) := by
    rw [← String.append_assoc]
    rfl
  rw [htext, isRemark_iff, isFlat_append_iff ⟨by decide, by decide⟩]
  split
  · rename_i hempty
    rw [hempty]
    exact ⟨fun _ => ⟨by decide, by decide⟩, fun _ => ⟨by decide, by decide⟩⟩
  · exact Iff.rfl

/-! ### The lines of actions -/

/-- The line shows the action, indented. -/
def Action.IsShownBy (a : Action) (l : String) : Prop :=
  ∃ depth, l = indent depth ++ a.text

mutual

theorem Statement.exists_shown_lines (depth : Nat) : (s : Statement) →
    ∃ ls, ls.Sublist (s.lines depth) ∧
      List.Forall₂ Action.IsShownBy (s.flatten.filterMap Statement.action?) ls
  | .action a => ⟨[indent depth ++ a.text], List.Sublist.refl _, .cons ⟨depth, rfl⟩ .nil⟩
  | .branch condition body otherwise => by
      obtain ⟨bs, hbs, hb⟩ := exists_shown_blockLines (depth + 1) body
      obtain ⟨os, hos, ho⟩ := exists_shown_blockLines (depth + 1) otherwise
      refine ⟨bs ++ os, ?_, ?_⟩
      · refine (List.Sublist.append (hbs.cons _) ?_).trans (List.sublist_append_left _ _)
        split
        · rename_i hempty
          rw [List.isEmpty_iff.1 hempty] at hos
          exact hos
        · exact hos.cons _
      · simp only [Statement.flatten, List.filterMap_cons, Statement.action?, List.filterMap_append]
        exact List.rel_append hb ho
  | .forLoop name start stop step body => by
      obtain ⟨bs, hbs, hb⟩ := exists_shown_blockLines (depth + 1) body
      exact ⟨bs, (hbs.cons _).trans (List.sublist_append_left _ _), hb⟩
  | .whileLoop condition body => by
      obtain ⟨bs, hbs, hb⟩ := exists_shown_blockLines (depth + 1) body
      exact ⟨bs, (hbs.cons _).trans (List.sublist_append_left _ _), hb⟩

/-- Each action is shown by a line of its own, in order. -/
theorem exists_shown_blockLines (depth : Nat) : (ss : List Statement) →
    ∃ ls, ls.Sublist (blockLines depth ss) ∧
      List.Forall₂ Action.IsShownBy ((flattenAll ss).filterMap Statement.action?) ls
  | [] => ⟨[], List.Sublist.refl _, .nil⟩
  | s :: ss => by
      obtain ⟨ls, hls, hl⟩ := Statement.exists_shown_lines depth s
      obtain ⟨rs, hrs, hr⟩ := exists_shown_blockLines depth ss
      refine ⟨ls ++ rs, List.Sublist.append hls hrs, ?_⟩
      rw [flattenAll, List.filterMap_append]
      exact List.rel_append hl hr

end

theorem sublist_linesOr (ls : List String) (other : String) : ls.Sublist (linesOr ls other) := by
  unfold linesOr
  split
  · rename_i hempty
    rw [List.isEmpty_iff.1 hempty]
    exact List.nil_sublist _
  · exact List.Sublist.refl _

/-- Each action of a program is shown by a line of its sketch, in order. -/
theorem Program.exists_shown_sketchLines (p : Program) :
    ∃ ls, ls.Sublist p.sketchLines ∧ List.Forall₂ Action.IsShownBy p.actions ls := by
  obtain ⟨ss, hss, hs⟩ := exists_shown_blockLines 1 p.setup
  obtain ⟨ls, hls, hl⟩ := exists_shown_blockLines 1 p.loop
  have hsetup : ss.Sublist p.headLines := by
    refine List.Sublist.trans ?_ (List.sublist_append_left _ ["\x7d", ""])
    refine List.Sublist.trans ?_ (List.sublist_append_right _ _)
    exact (hss.trans (List.sublist_append_right _ _)).trans (sublist_linesOr _ _)
  have hloop : ls.Sublist p.loopLines := hls.trans (sublist_linesOr _ _)
  refine ⟨ss ++ ls, ?_, ?_⟩
  · rw [sketchLines_eq, List.append_assoc]
    exact (hsetup.append (hloop.cons _)).trans (List.sublist_append_left _ _)
  · rw [actions, statements, List.filterMap_append]
    exact List.rel_append hs hl

/-! ### Graphs -/

/-- A block without a kind is rendered by its tag. -/
theorem Node.RendersAs.eq_unknown {n : Node} {s : Statement} (h : n.RendersAs s)
    (hk : n.kind? = none) : s = .action (.unknown (n.blockType.getD "")) := by
  cases s with
  | action a =>
      cases a with
      | unknown tag => rw [h.2]
      | foreign => exact h.elim
      | _ => exact absurd (hk.symm.trans h.1) (by simp)
  | branch =>
      obtain ⟨hkind | hkind, -⟩ := h
      · exact absurd (hk.symm.trans hkind) (by simp)
      · exact absurd (hk.symm.trans hkind) (by simp)
  | _ => exact absurd (hk.symm.trans h.1) (by simp)

namespace Graph

/-- The tags that a program does not know are those of the claimed blocks without a kind. -/
theorem unknown_mem_actions_build {g : Graph} {tag : String} :
    Action.unknown tag ∈ g.build.actions ↔
      ∃ id ∈ g.setupClaims ++ g.loopClaims, ∃ n, nodeById? g.nodes id = some n ∧
        n.kind? = none ∧ n.blockType.getD "" = tag := by
  obtain ⟨ss, hss, hs⟩ := g.walkSetup_walks.exists_rendered
  obtain ⟨ls, hls, hl⟩ := g.walkLoop_walks.exists_rendered
  have hrendered := List.rel_append hs hl
  have hclaims : g.setupClaims ++ g.loopClaims = ss ++ ls := by
    rw [← walkLoop_claimed, hls, hss]
    rfl
  rw [Program.mem_actions, hclaims]
  constructor
  · intro hmem
    obtain ⟨id, hid, n, hn, -, hk, rfl⟩ := exists_of_forall₂_of_mem hrendered hmem
    exact ⟨id, hid, n, hn, hk, rfl⟩
  · rintro ⟨id, hid, n, hn, hk, rfl⟩
    obtain ⟨s, hs, m, hm, -, hrenders⟩ := exists_of_forall₂_of_mem hrendered.flip hid
    obtain rfl := Option.some.inj (hn.symm.trans hm)
    rw [← hrenders.eq_unknown hk]
    exact hs

/-- **Comments stay comments, and so do blocks without a kind if their tags are flat.**  Each action of
the program of a graph is shown by a line of its sketch, in order.  The line of a comment is a comment
and nothing else, whatever its text is.  This holds of all blocks without a kind exactly if their tags,
as they are stored, have no line break in them and do not end in a backslash. -/
theorem remarks_stay_comments (g : Graph) :
    (∃ lines shown, g.build.sketch? = .ok ("\n".intercalate lines) ∧ shown.Sublist lines ∧
      List.Forall₂ Action.IsShownBy g.build.actions shown) ∧
    (∀ text depth, IsRemark (indent depth ++ (Action.comment text).text)) ∧
    ((∀ tag, Action.unknown tag ∈ g.build.actions →
        ∀ depth, IsRemark (indent depth ++ (Action.unknown tag).text)) ↔
      ∀ id ∈ g.setupClaims ++ g.loopClaims, ∀ n, nodeById? g.nodes id = some n →
        n.kind? = none → IsFlat (n.blockType.getD "")) := by
  refine ⟨?_, isRemark_comment, ?_⟩
  · obtain ⟨shown, hsublist, hshown⟩ := g.build.exists_shown_sketchLines
    exact ⟨g.build.sketchLines, shown, g.isFinite_build.sketch?_eq, hsublist, hshown⟩
  · constructor
    · intro h id hid n hn hk
      have hmem := unknown_mem_actions_build.2 ⟨id, hid, n, hn, hk, rfl⟩
      exact (isRemark_unknown_iff _ 0).1 (h _ hmem 0)
    · intro h tag htag depth
      obtain ⟨id, hid, n, hn, hk, rfl⟩ := unknown_mem_actions_build.1 htag
      exact (isRemark_unknown_iff _ depth).2 (h id hid n hn hk)

/-- A loop with a block whose tag names no kind and has a second line. -/
def leaky : Graph where
  nodes := [Node.create .setup "s" .null .null, Node.create .loop "l" .null .null,
    { id := "u", blockType := some "glow\n  digitalWrite(13, HIGH);" }]
  edges := [Edge.typed "l" "u" .body]

/-- The second line of the tag is a line of the sketch, and no comment. -/
theorem leaky_tag : ∃ tag, Action.unknown tag ∈ leaky.build.actions ∧
    ¬IsRemark (indent 1 ++ (Action.unknown tag).text) ∧
    ∃ s, leaky.build.sketch? = .ok s ∧ "  digitalWrite(13, HIGH);".toList ∈ splitLines s.toList := by
  refine ⟨"glow\n  digitalWrite(13, HIGH);", by decide +kernel, fun h => ?_, _,
    leaky.isFinite_build.sketch?_eq, by decide +kernel⟩
  have hflat := (isRemark_unknown_iff _ 1).1 h
  exact absurd (hflat.unbroken '\n' (by decide)) (by decide)

end Graph

end BlockSketch
