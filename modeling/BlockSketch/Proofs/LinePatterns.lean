/-
**The patterns of lines.**

The lines that show a block are described by nine patterns, each with the kind of the block and with what
becomes of its groups.  A line shows the block of the first pattern that is found in it.  The scanners that
recognise lines find the same block, with the same parameters, although they never go back.

For most parts this is so because a run ends where the next part has to start.  Conditions are different:
their text may hold blanks, so that the blanks before a condition can be shortened.  Going back is of use
there if the condition consists of blanks, but what is kept is trimmed.

Main definitions:

* `BlockSketch.Conversion` — what becomes of a group;
* `BlockSketch.LinePattern`, `BlockSketch.linePatterns` — the patterns of lines;
* `BlockSketch.firstMatch?` — the first pattern that is found in a line;
* `BlockSketch.loopParts` — the pattern of the loop function.

Main results:

* `BlockSketch.reads_forLoop`, `BlockSketch.reads_condition` and so on — each scanner reads its pattern;
* `BlockSketch.recognise_eq` — **a line shows the block of its first pattern**;
* `BlockSketch.loopBody?_eq` — the lines of a sketch are those of the loop function's group.
-/

import BlockSketch.Proofs.PatternParts
import BlockSketch.Sketch.Import
import Mathlib.Data.List.Forall2

set_option relaxedAutoImplicit false
set_option autoImplicit false

namespace BlockSketch

open BlockSketch.Text

/-! ### The table -/

/-- What becomes of a group: a text, a text without its outer blanks, an integer, or the step of a loop,
which is an integer if the group is there and otherwise one, in the direction that another group gives. -/
inductive Conversion where
  | text (i : Nat)
  | trimmed (i : Nat)
  | integer (i : Nat)
  | step (i direction : Nat)

/-- The parameter that a conversion gives. -/
def Conversion.capture (w : Way) : Conversion → Capture
  | text i => .text (w.text i)
  | trimmed i => .text (trimChars (w.text i))
  | integer i => integerCapture (w.text i)
  | step i direction =>
    match w.text? i with
    | some t => integerCapture t
    | none => .implied (if w.text direction = ['>'] then -1 else 1)

/-- A pattern of lines, with the block that it shows. -/
structure LinePattern where
  parts : List Pattern
  kind : Kind
  params : List (String × Conversion)

/-- The block of a line in which the pattern is found. -/
def LinePattern.found (p : LinePattern) (w : Way) : Found :=
  ⟨p.kind, p.params.map fun x => (x.1, x.2.capture w)⟩

def delayPattern : LinePattern where
  parts := [.word "delay".toList, .blanks, .word ['('], .blanks, .group 1 (.row isDigit), .blanks,
    .word [')']]
  kind := .delay
  params := [("ms", .integer 1)]

def digitalWritePattern : LinePattern where
  parts := [.word "digitalWrite".toList, .blanks, .word ['('], .blanks, .group 1 (.row isDigit),
    .blanks, .word [','], .blanks, .group 2 (.either (.word "HIGH".toList) (.word "LOW".toList)),
    .blanks, .word [')']]
  kind := .digitalWrite
  params := [("pin", .integer 1), ("value", .text 2)]

def analogWritePattern : LinePattern where
  parts := [.word "analogWrite".toList, .blanks, .word ['('], .blanks, .group 1 (.row isDigit),
    .blanks, .word [','], .blanks, .group 2 (.row isDigit), .blanks, .word [')']]
  kind := .analogWrite
  params := [("pin", .integer 1), ("value", .integer 2)]

def methodPattern (method : String) (kind : Kind) (key : String) : LinePattern where
  parts := [.group 1 (.row isWord), .word method.toList, .blanks, .word ['('], .blanks,
    .group 2 (.row isDigit), .blanks, .word [')']]
  kind := kind
  params := [("variable", .text 1), (key, .integer 2)]

def printPattern : LinePattern where
  parts := [.word "Serial.println".toList, .blanks, .word ['('], .blanks, .word ['"'],
    .group 1 (.many (· != '"')), .word ['"'], .blanks, .word [')']]
  kind := .serialPrint
  params := [("message", .text 1)]

/-- The step in the header of a counting loop. -/
def stepParts : List Pattern :=
  [.blanks, .row isWord, .blanks, .word ['+', '='], .blanks, .group 5 .integer]

def forPattern : LinePattern where
  parts := [.word "for".toList, .blanks, .word ['('], .blanks, .word "int".toList, .row isBlank,
    .group 1 (.row isWord), .blanks, .word ['='], .blanks, .group 2 .integer, .blanks, .word [';'],
    .blanks, .row isWord, .blanks, .group 3 (.one fun c => c == '<' || c == '>'), .blanks,
    .group 4 .integer, .blanks, .word [';'], .optional (.inOrder stepParts)]
  kind := .forLoop
  params := [("variable", .text 1), ("start", .integer 2), ("end", .integer 4), ("step", .step 5 3)]

/-- The characters of a condition. -/
def notParen (c : Char) : Bool :=
  c != ')'

def conditionPattern (word : String) (kind : Kind) : LinePattern where
  parts := [.word word.toList, .blanks, .word ['('], .blanks, .group 1 (.row notParen), .blanks,
    .word [')'], .blanks, .word ['\x7b']]
  kind := kind
  params := [("condition", .trimmed 1)]

/-- The patterns of lines, in the order in which they are tried. -/
def linePatterns : List LinePattern :=
  [delayPattern, digitalWritePattern, analogWritePattern,
   methodPattern ".write" .servoWrite "angle", methodPattern ".attach" .servoAttach "pin",
   printPattern, forPattern, conditionPattern "if" .ifThen, conditionPattern "while" .whileLoop]

/-- The first pattern that is found in a line, and the way in which it matches there. -/
def firstMatch? (line : List Char) : Option (LinePattern × Way) :=
  linePatterns.findSome? fun p => (findWay? p.parts line).map fun w => (p, w)

/-- The pattern of the loop function, whose group is its body. -/
def loopParts : List Pattern :=
  [.word "void".toList, .row isBlank, .word "loop".toList, .blanks, .word ['('], .blanks, .word [')'],
   .blanks, .word ['\x7b'], .group 1 (.few fun _ => true), .word ['\n', '\x7d']]

/-! ### Calls -/

/-- A scanner reads a pattern: where one of them finds something so does the other, and it is the same
block. -/
def ReadsAs (shape : List Char → Option Found) (p : LinePattern) : Prop :=
  ∀ s, shape s = (firstWay? p.parts s).map p.found

/-- A number ends at a mark, or at the blanks before it. -/
theorem stops_digits {m : Char} (hm : isDigit m = false) (ps : List Pattern) :
    Stops isDigit (.blanks :: .word [m] :: ps) :=
  stops_blanks_word hm [] ps fun _ => not_isBlank_of_digit

theorem reads_delay : ReadsAs delayShape delayPattern := by
  intro s
  refine follow_part (firstWay?_word _ _ _) fun s _ => ?_
  refine follow_part (firstWay?_mark (by decide) _ _) fun s _ => ?_
  refine follow_group (firstWay?_natural (stops_digits (by decide) _) _ _) fun ms hms => ?_
  refine follow_part (firstWay?_mark (by decide) _ _) fun s _ => ?_
  simp [firstWay?_nil, LinePattern.found, delayPattern, Conversion.capture, Way.text,
    (isNumeral_of_natural? hms).integerCapture_written]

theorem reads_digitalWrite : ReadsAs digitalWriteShape digitalWritePattern := by
  intro s
  refine follow_part (firstWay?_word _ _ _) fun s _ => ?_
  refine follow_part (firstWay?_mark (by decide) _ _) fun s _ => ?_
  refine follow_group (firstWay?_natural (stops_digits (by decide) _) _ _) fun pin hpin => ?_
  refine follow_part (firstWay?_mark (by decide) _ _) fun s _ => ?_
  refine follow_group (firstWay?_level _ _ _) fun level hlevel => ?_
  refine follow_part (firstWay?_mark (by decide) _ _) fun s _ => ?_
  simp [firstWay?_nil, LinePattern.found, digitalWritePattern, Conversion.capture, Way.text,
    (isNumeral_of_natural? hpin).integerCapture_written, text_written_of_level? hlevel]

theorem reads_analogWrite : ReadsAs analogWriteShape analogWritePattern := by
  intro s
  refine follow_part (firstWay?_word _ _ _) fun s _ => ?_
  refine follow_part (firstWay?_mark (by decide) _ _) fun s _ => ?_
  refine follow_group (firstWay?_natural (stops_digits (by decide) _) _ _) fun pin hpin => ?_
  refine follow_part (firstWay?_mark (by decide) _ _) fun s _ => ?_
  refine follow_group (firstWay?_natural (stops_digits (by decide) _) _ _) fun value hvalue => ?_
  refine follow_part (firstWay?_mark (by decide) _ _) fun s _ => ?_
  simp [firstWay?_nil, LinePattern.found, analogWritePattern, Conversion.capture, Way.text,
    (isNumeral_of_natural? hpin).integerCapture_written,
    (isNumeral_of_natural? hvalue).integerCapture_written]

/-- The dot of a method ends the name before it. -/
theorem reads_method {method : String} {m : List Char} (hm : method.toList = '.' :: m) (kind : Kind)
    (key : String) : ReadsAs (methodShape method kind key) (methodPattern method kind key) := by
  intro s
  have hname (ps : List Pattern) : Stops isWord (.word method.toList :: ps) := by
    rw [hm]
    exact stops_word (by decide) m ps
  refine follow_group (firstWay?_name (hname _) _ _) fun name _ => ?_
  refine follow_part (firstWay?_word _ _ _) fun s _ => ?_
  refine follow_part (firstWay?_mark (by decide) _ _) fun s _ => ?_
  refine follow_group (firstWay?_natural (stops_digits (by decide) _) _ _) fun n hn => ?_
  refine follow_part (firstWay?_mark (by decide) _ _) fun s _ => ?_
  simp [firstWay?_nil, LinePattern.found, methodPattern, Conversion.capture, Way.text,
    (isNumeral_of_natural? hn).integerCapture_written]

theorem reads_print : ReadsAs printShape printPattern := by
  intro s
  refine follow_part (firstWay?_word _ _ _) fun s _ => ?_
  refine follow_part (firstWay?_mark (by decide) _ _) fun s _ => ?_
  refine follow_part (firstWay?_mark (by decide) _ _) fun s _ => ?_
  refine follow_group (firstWay?_upTo _ _ _ _) fun message _ => ?_
  refine follow_part (firstWay?_mark (by decide) _ _) fun s _ => ?_
  simp [firstWay?_nil, LinePattern.found, printPattern, Conversion.capture, Way.text]

/-! ### Counting loops -/

/-- The step of a loop is the group of its pattern. -/
theorem map_some_step? (s : List Char) : (step? s).map some =
    (firstWay? stepParts s).map fun w => (w.text? 5).map integerCapture := by
  have hbind : (step? s).map some = (takeWord? (dropBlanks s)).bind fun name =>
      ((afterMark? '+' name.2).bind (afterWord? ['='])).bind fun s =>
        (integerAt? s).bind fun step => some (some step.1) := by
    simp only [step?, Option.bind_eq_bind, Option.map_bind, Function.comp_def, Option.bind_assoc]
    rfl
  rw [hbind]
  refine follow_part (firstWay?_blanks_name
    (stops_blanks_word (by decide) ['='] _ fun _ => isBlank_of_isWord) _) fun name _ => ?_
  refine follow_part (firstWay?_markWord (by decide) _ _ _) fun s _ => ?_
  refine follow_group (firstWay?_integer (stops_nil isDigit) _ _) fun step hstep => ?_
  simp [firstWay?_nil, (isNumeral_of_integerAt? hstep).integerCapture_written]

theorem reads_forLoop : ReadsAs forShape forPattern := by
  intro s
  refine follow_part (firstWay?_word _ _ _) fun s _ => ?_
  refine follow_part (firstWay?_mark (by decide) _ _) fun s _ => ?_
  refine follow_part (firstWay?_blanks_word (m := 'i') (by decide) _ _ _) fun s _ => ?_
  refine follow_part (firstWay?_rowBlank (stops_of_refuses
    (fun _ hc => refuses_group (refuses_row (isWord_of_isBlank hc)) 1) _) _) fun s _ => ?_
  refine follow_group (firstWay?_name
    (stops_blanks_word (by decide) _ _ fun _ => isBlank_of_isWord) _ _) fun name _ => ?_
  refine follow_part (firstWay?_mark (by decide) _ _) fun s _ => ?_
  refine follow_group (firstWay?_integer (stops_digits (by decide) _) _ _) fun start hstart => ?_
  refine follow_part (firstWay?_mark (by decide) _ _) fun s _ => ?_
  refine follow_part (firstWay?_blanks_name (stops_many (fun _ => isBlank_of_isWord) (fun _ hc =>
    refuses_group (refuses_one (not_isComparison_of_class (by decide) (by decide) hc)) 3) _) _)
    fun other _ => ?_
  refine follow_group (firstWay?_comparison _ _ _) fun down _ => ?_
  refine follow_group (firstWay?_integer (stops_digits (by decide) _) _ _) fun stop hstop => ?_
  refine follow_part (firstWay?_mark (by decide) _ _) fun s _ => ?_
  have hstart := (isNumeral_of_integerAt? hstart).integerCapture_written
  have hstop := (isNumeral_of_integerAt? hstop).integerCapture_written
  have hstep := map_some_step? s
  rw [firstWay?_optional]
  cases hw : firstWay? stepParts s with
  | none =>
      rw [hw, Option.map_none, Option.map_eq_none_iff] at hstep
      cases down.1 <;>
      simp [LinePattern.found, forPattern, Conversion.capture, Way.text, hstep, hstart, hstop]
  | some w =>
      obtain ⟨c, hc, htext⟩ := Option.map_eq_some_iff.1 (hstep.trans (by rw [hw, Option.map_some]))
      obtain ⟨t, ht, rfl⟩ := Option.map_eq_some_iff.1 htext.symm
      simp [LinePattern.found, forPattern, Conversion.capture, Way.text, hc, ht, hstart, hstop]

/-! ### Conditions -/

theorem findSome?_eq_of_forall {α β : Type} {l : List α} {f : α → Option β} {x : α} {v : Option β}
    (hx : x ∈ l) (hv : f x = v) (h : ∀ y ∈ l, f y = none ∨ f y = v) : l.findSome? f = v := by
  cases hres : l.findSome? f with
  | none => rw [← hv, List.findSome?_eq_none_iff.1 hres x hx]
  | some b =>
      obtain ⟨y, hy, hb⟩ := List.exists_of_findSome?_eq_some hres
      rcases h y hy with h | h
      · rw [hb] at h
        cases h
      · rw [← h, hb]

theorem notParen_of_isBlank {c : Char} (h : isBlank c = true) : notParen c = true := by
  rw [notParen, bne, beq_eq_false_of_class (by decide) h]
  rfl

/-- Blanks before a text are part of what stands up to its first parenthesis. -/
theorem span_blanks_append {b : List Char} (hb : ∀ x ∈ b, isBlank x = true) (t : List Char) :
    (b ++ t).takeWhile notParen = b ++ t.takeWhile notParen ∧
      (b ++ t).dropWhile notParen = t.dropWhile notParen :=
  have hb' : ∀ x ∈ b, notParen x = true := fun x hx => notParen_of_isBlank (hb x hx)
  ⟨List.takeWhile_append_of_pos hb', List.dropWhile_append_of_pos hb'⟩

/-- Where a condition ends there is a parenthesis, if anything. -/
theorem afterMark?_dropWhile (s : List Char) :
    afterMark? ')' (s.dropWhile notParen) = afterWord? [')'] (s.dropWhile notParen) := by
  rw [afterMark?_eq]
  congr 1
  cases hs : s.dropWhile notParen with
  | nil => rfl
  | cons c r =>
      have hc : notParen c = false := by
        have hnot := List.head_dropWhile_not notParen (l := s) (by simp [hs])
        simpa [hs] using hnot
      have hc : c = ')' := by simpa [notParen] using hc
      subst hc
      exact dropBlanks_cons_of_not_blank (by decide) r

/-- A condition is not cut short: the blanks at its end may be given back, but the parenthesis after it
stays the same. -/
theorem stops_paren (ps : List Pattern) : Stops notParen (.blanks :: .word [')'] :: ps) := by
  intro c s hc hnone
  rw [firstWay?_mark (by decide)] at hnone ⊢
  cases hmark : afterMark? ')' (c :: s) with
  | none => rfl
  | some r =>
      obtain ⟨b, hb, hblank⟩ := afterMark?_eq_some hmark
      have hs : (c :: s).dropWhile notParen = ')' :: r := by
        rw [hb, (span_blanks_append hblank _).2]
        rfl
      rw [List.dropWhile_cons_of_pos hc] at hs
      rw [hs, afterMark?_cons (by decide)] at hnone
      exact hnone

theorem trimChars_blanks_append {b : List Char} (hb : ∀ x ∈ b, isBlank x = true) (t : List Char) :
    trimChars (b ++ t) = trimChars t := by
  rw [trimChars, dropBlanks, List.dropWhile_append_of_pos hb]
  rfl

theorem upTo?_paren (s : List Char) : upTo? ')' s =
    (afterWord? [')'] (s.dropWhile notParen)).map fun r => (s.takeWhile notParen, r) :=
  upTo?_eq ')' s

theorem upTo?_blanks_append {b : List Char} (hb : ∀ x ∈ b, isBlank x = true) (t : List Char) :
    upTo? ')' (b ++ t) = (upTo? ')' t).map fun x => (b ++ x.1, x.2) := by
  obtain ⟨htake, hdrop⟩ := span_blanks_append hb t
  rw [upTo?_paren, upTo?_paren, htake, hdrop, Option.map_map]
  rfl

section Conditions

variable {ps : List Pattern} {β : Type} {found : Way → β} (read : List Char → β)
  (hfound : ∀ t w, found (Way.keep 1 t w) = read (trimChars t))
include hfound

/-- What a condition gives if no blanks are left out before it. -/
theorem map_found_paren (s : List Char) :
    (firstWay? (.group 1 (.row notParen) :: .blanks :: .word [')'] :: ps) s).map found =
      (upTo? ')' s).bind fun x =>
        if x.1.isEmpty then none else (firstWay? ps x.2).map fun _ => read (trimChars x.1) := by
  rw [(scans_row (stops_paren ps)).firstWay?_group, takeRow?, upTo?_paren, Option.bind_map]
  cases s.takeWhile notParen with
  | nil => cases afterWord? [')'] (s.dropWhile notParen) <;> rfl
  | cons c u =>
      simp only [Option.bind_some, firstWay?_mark (show isBlank ')' = false by decide),
        afterMark?_dropWhile]
      cases afterWord? [')'] (s.dropWhile notParen) with
      | none => rfl
      | some r =>
          rw [Option.bind_some, Option.map_map]
          exact Option.map_congr fun w _ => hfound _ w

/-- The text of a condition, trimmed, does not depend on how many of the blanks before it are taken. -/
theorem map_found_condition (s : List Char) :
    (firstWay? (.blanks :: .group 1 (.row notParen) :: .blanks :: .word [')'] :: ps) s).map found =
      (upTo? ')' s).bind fun x =>
        if x.1.isEmpty then none else (firstWay? ps x.2).map fun _ => read (trimChars x.1) := by
  have hends : (firstWay? (.blanks :: .group 1 (.row notParen) :: .blanks :: .word [')'] :: ps)
      s).map found = (endsAfter isBlank s).reverse.findSome? fun t =>
        (firstWay? (.group 1 (.row notParen) :: .blanks :: .word [')'] :: ps) t).map found := by
    rw [firstWay?_cons, Pattern.blanks, Pattern.ways, List.findSome?_map, List.map_findSome?]
    congr 1
    funext t
    exact Option.map_map ..
  rw [hends, ← map_found_paren read hfound]
  refine findSome?_eq_of_forall (List.mem_reverse.2 (self_mem_endsAfter isBlank s)) rfl fun t ht => ?_
  -- with fewer blanks before it the condition is longer, but it ends at the same parenthesis
  obtain ⟨b, rfl, hb⟩ := exists_of_mem_endsAfter (List.mem_reverse.1 ht)
  rw [map_found_paren read hfound, map_found_paren read hfound, upTo?_blanks_append hb]
  cases upTo? ')' t with
  | none => exact Or.inl rfl
  | some x =>
      rw [Option.map_some, Option.bind_some, Option.bind_some, trimChars_blanks_append hb]
      cases hempty : x.1.isEmpty with
      | true => exact Or.inl rfl
      | false =>
          have hlonger : (b ++ x.1).isEmpty = false := by
            cases b with
            | nil => exact hempty
            | cons => rfl
          rw [hlonger]
          exact Or.inr rfl

end Conditions

theorem reads_condition (word : String) (kind : Kind) :
    ReadsAs (conditionShape word kind) (conditionPattern word kind) := by
  intro s
  refine follow_part (firstWay?_word _ _ _) fun s _ => ?_
  refine follow_part (firstWay?_mark (by decide) _ _) fun s _ => ?_
  have hfound (t : List Char) (w : Way) : (conditionPattern word kind).found (w.keep 1 t) =
      ⟨kind, [("condition", .text (trimChars t))]⟩ := by
    simp [LinePattern.found, conditionPattern, Conversion.capture, Way.text]
  rw [map_found_condition (fun t => ⟨kind, [("condition", .text t)]⟩) hfound]
  refine Option.bind_congr fun ⟨condition, r⟩ _ => ?_
  refine if_congr Iff.rfl rfl ?_
  refine follow_part (firstWay?_mark (by decide) _ _) fun _ _ => ?_
  rfl

-- one of the blanks is given back, and the trimmed condition is empty
example : (firstWay? (conditionPattern "if" .ifThen).parts "if (  ) \x7b".toList).map (·.text 1) =
    some [' '] := by decide

/-! ### Lines -/

/-- The scanners read the patterns, one by one. -/
theorem forall₂_readsAs : List.Forall₂ ReadsAs shapes linePatterns :=
  .cons reads_delay <| .cons reads_digitalWrite <| .cons reads_analogWrite <|
    .cons (reads_method rfl _ _) <| .cons (reads_method rfl _ _) <| .cons reads_print <|
    .cons reads_forLoop <| .cons (reads_condition _ _) <| .cons (reads_condition _ _) .nil

theorem findSome?_search {shs : List (List Char → Option Found)} {ps : List LinePattern}
    (h : List.Forall₂ ReadsAs shs ps) (line : List Char) :
    (shs.findSome? fun shape => search shape line) =
      (ps.findSome? fun p => (findWay? p.parts line).map fun w => (p, w)).map
        fun x => x.1.found x.2 := by
  induction h with
  | nil => rfl
  | @cons shape p _ _ h _ ih =>
      rw [List.findSome?_cons, List.findSome?_cons, search_eq_map_findWay? h, ih]
      cases findWay? p.parts line <;> rfl

/-- **A line shows the block of its first pattern.** -/
theorem recognise_eq (line : List Char) :
    recognise line = (firstMatch? line).map fun x => x.1.found x.2 :=
  findSome?_search forall₂_readsAs line

/-! ### The loop function -/

theorem upToEnd?_cons_eq_ite (c : Char) (s : List Char) : upToEnd? (c :: s) =
    if (afterWord? ['\n', '\x7d'] (c :: s)).isSome then some []
    else (upToEnd? s).map (c :: ·) := by
  rw [upToEnd?.eq_def]
  split
  · rename_i h
    cases h
  · rename_i h
    rw [h]
    rfl
  · rename_i hne heq
    obtain ⟨rfl, rfl⟩ := List.cons.inj heq
    rw [if_neg]
    intro hsome
    obtain ⟨r, hr⟩ := Option.isSome_iff_exists.1 hsome
    obtain ⟨rfl, rfl⟩ := List.cons.inj (afterWord?_eq_some_iff.1 hr)
    exact hne r rfl rfl

/-- The shortest text before the closing brace is tried first. -/
theorem findSome?_before (pre s : List Char) :
    ((endsAfter (fun _ => true) s).findSome? fun r =>
      (afterWord? ['\n', '\x7d'] r).map fun _ => before (pre ++ s) r) =
      (upToEnd? s).map (pre ++ ·) := by
  induction s generalizing pre with
  | nil => rfl
  | cons c s ih =>
      rw [endsAfter, if_pos rfl, List.findSome?_cons, upToEnd?_cons_eq_ite]
      cases afterWord? ['\n', '\x7d'] (c :: s) with
      | some r => simp [before_append]
      | none =>
          have hnext := ih (pre ++ [c])
          simp only [List.append_assoc, List.singleton_append] at hnext
          simp [hnext, Function.comp_def]

theorem reads_loop (s : List Char) : loopShape s = (firstWay? loopParts s).map (·.text 1) := by
  refine follow_part (firstWay?_word _ _ _) fun s _ => ?_
  refine follow_part (firstWay?_rowBlank (stops_word (m := 'l') (by decide) _ _) _) fun s _ => ?_
  refine follow_part (firstWay?_word _ _ _) fun s _ => ?_
  refine follow_part (firstWay?_mark (by decide) _ _) fun s _ => ?_
  refine follow_part (firstWay?_mark (by decide) _ _) fun s _ => ?_
  refine follow_part (firstWay?_mark (by decide) _ _) fun s _ => ?_
  -- the ways of the group are the ends of the text, the longest first
  have hbody := findSome?_before [] s
  rw [List.nil_append, show (([] : List Char) ++ ·) = id from rfl, Option.map_id, id] at hbody
  rw [← hbody, firstWay?_cons, List.map_findSome?, Pattern.ways, Pattern.ways, List.map_map,
    List.findSome?_map]
  congr 1
  funext r
  simp only [Function.comp_apply, firstWay?_word, Way.keep]
  cases afterWord? ['\n', '\x7d'] r <;> rfl

/-- The body of a sketch is the group of its loop function. -/
theorem loopBody?_eq (text : List Char) :
    loopBody? text = (findWay? loopParts text).map (·.text 1) :=
  search_eq_map_findWay? reads_loop text

end BlockSketch
