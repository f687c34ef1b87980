/-
**The block structure of sketches can be read back.**

If the texts of statements have no braces and no line feeds, all braces in their lines are those of
containers.  Then the lines lay out the trees of the statements, by induction over these: an action is a
line, and a container is a block around the lines of its body.  Nothing has to be known of the reader,
since lines that lay out trees can be put between braces anywhere.

The two functions of a sketch are blocks of their own, at the margin.  All lines in them are indented,
so that the closing braces at the margin are the ends of the functions.

Main definitions:

* `BlockSketch.treesAt` — the trees of statements at a depth;
* `BlockSketch.textLines` — the lines of a text;
* `BlockSketch.Program.setupTrees`, `BlockSketch.Program.loopTrees` — the trees of the two functions.

Main results:

* `BlockSketch.laysOut_blockLines` — the lines of statements lay out their trees;
* `BlockSketch.Program.laysOut_sketchLines` — the lines of a sketch lay out its functions;
* `BlockSketch.blockLines_read_back` — **the block structure of sketches can be read back**.
-/

import BlockSketch.Proofs.BlockReader

set_option relaxedAutoImplicit false
set_option autoImplicit false

namespace BlockSketch

open BlockSketch.Text

/-! ### Texts without braces -/

theorem unbraced_numberText (x : Dyadic) : Unbraced (numberText x) := by
  intro c hc
  rcases isNumeralChar_of_mem_numberText hc with hdigit | hmark
  · have hmarks : ∀ d ∈ ['\n', '\x7b', '\x7d'], d.isDigit = false := by decide
    intro hmem
    exact absurd (hmarks c hmem) (by simp [hdigit])
  · have hmarks : ∀ d ∈ ['-', '+', '.', 'e'], d ∉ ['\n', '\x7b', '\x7d'] := by decide
    exact hmarks c hmark

theorem unbraced_literal {s : String} (h : Unbraced s) : Unbraced (Sketch.literal s) := by
  intro c hc
  rw [Sketch.literal, String.toList_ofList, Sketch.literalChars, List.mem_append, List.mem_cons,
    List.mem_singleton, List.mem_flatMap] at hc
  rcases hc with (rfl | ⟨x, hx, hc⟩) | rfl
  · decide
  · rcases literalChar_cases x with heq | ⟨-, hescape⟩
    · rw [heq, List.mem_singleton] at hc
      exact h c (hc ▸ hx)
    · have hescapes : ∀ d ∈ escapeChars, d ∉ ['\n', '\x7b', '\x7d'] := by decide
      exact hescapes c (hescape c hc)
  · decide

theorem unbraced_commentText {s : String} (h : Unbraced s) : Unbraced (Sketch.commentText s) := by
  intro c hc
  rcases mem_commentText hc with rfl | rfl | ⟨hmem, -⟩
  · decide
  · decide
  · exact h c hmem

theorem Operand.unbraced_render {o : Operand} (h : ∀ t ∈ o.texts, Unbraced t) :
    Unbraced o.render := by
  cases o with
  | number x => exact unbraced_numberText x
  | float x => exact unbraced_numberText x
  | infinite negative => cases negative <;> decide
  | nan => decide
  | flag b => cases b <;> decide
  | text s => exact h s (List.mem_singleton_self s)

/-- The line of an action has no braces if its texts have none. -/
theorem Action.unbraced_text {a : Action} (h : ∀ t ∈ a.texts, Unbraced t) : Unbraced a.text := by
  cases a
  all_goals
    simp only [texts, List.forall_mem_cons, List.forall_mem_append, List.not_mem_nil,
      false_imp_iff, implies_true, and_true] at h
    unfold text
    simp only [unbraced_append]
  case comment text => exact ⟨by decide, unbraced_commentText h⟩
  case delay ms => exact ⟨⟨by decide, ms.unbraced_render h⟩, by decide⟩
  case digitalWrite pin level =>
    exact ⟨⟨⟨⟨by decide, pin.unbraced_render h.2⟩, by decide⟩, h.1⟩, by decide⟩
  case digitalRead pin name => exact ⟨⟨⟨h.1, by decide⟩, pin.unbraced_render h.2⟩, by decide⟩
  case analogWrite pin value =>
    exact ⟨⟨⟨⟨by decide, pin.unbraced_render h.2⟩, by decide⟩, h.1⟩, by decide⟩
  case analogRead pin name => exact ⟨⟨⟨h.2, by decide⟩, h.1⟩, by decide⟩
  case servoAttach name pin => exact ⟨⟨⟨h.1, by decide⟩, pin.unbraced_render h.2⟩, by decide⟩
  case servoWrite name angle => exact ⟨⟨⟨h.1, by decide⟩, h.2⟩, by decide⟩
  case assign name value => exact ⟨⟨⟨h.1, by decide⟩, h.2⟩, by decide⟩
  case change name delta => exact ⟨⟨⟨h.1, by decide⟩, delta.unbraced_render h.2⟩, by decide⟩
  case arithmetic target left op right =>
    obtain ⟨htarget, hleft, hop, hright⟩ := h
    exact ⟨⟨⟨⟨⟨⟨⟨htarget, by decide⟩, hleft⟩, by decide⟩, hop⟩, by decide⟩, hright⟩, by decide⟩
  case random target low high =>
    obtain ⟨htarget, hlow, hhigh⟩ := h
    exact ⟨⟨⟨⟨⟨htarget, by decide⟩, low.unbraced_render hlow⟩, by decide⟩,
      high.unbraced_render hhigh⟩, by decide⟩
  case serialBegin baud => exact ⟨⟨by decide, baud.unbraced_render h⟩, by decide⟩
  case serialPrint message => exact ⟨⟨by decide, unbraced_literal h⟩, by decide⟩
  case serialPrintValue value newline =>
    exact ⟨⟨⟨⟨by decide, by cases newline <;> decide⟩, by decide⟩, h⟩, by decide⟩
  case unknown tag =>
    refine ⟨by decide, ?_⟩
    split
    · decide
    · exact h
  case foreign name => exact ⟨by decide, h⟩

/-! ### The trees of statements -/

mutual

/-- The tree of a statement at a depth: a line for an action, a block for a container, and a choice for
a branch with an `else`. -/
def Statement.treeAt (depth : Nat) : Statement → CodeTree
  | .action a => .line (indent depth ++ a.text)
  | .branch condition body otherwise =>
    let header := indent depth ++ "if (" ++ condition ++ ") \x7b"
    if otherwise.isEmpty then .block header (treesAt (depth + 1) body)
    else .choice header (treesAt (depth + 1) body) (treesAt (depth + 1) otherwise)
  | .forLoop name start stop step body =>
    .block (indent depth ++ forHeader name start stop step) (treesAt (depth + 1) body)
  | .whileLoop condition body =>
    .block (indent depth ++ "while (" ++ condition ++ ") \x7b") (treesAt (depth + 1) body)

/-- The trees of statements at a depth. -/
def treesAt (depth : Nat) : List Statement → List CodeTree
  | [] => []
  | s :: ss => s.treeAt depth :: treesAt depth ss

end

theorem append_header (s : String) : s ++ ") \x7b" = s ++ ") " ++ "\x7b" := by
  rw [String.append_assoc]
  rfl

/-- The header of a container with a condition has one brace, at its end. -/
theorem conditionHeader_eq (depth : Nat) (word condition : String) :
    indent depth ++ word ++ condition ++ ") \x7b" =
      indent depth ++ (word ++ condition ++ ") " ++ "\x7b") := by
  rw [append_header]
  simp only [String.append_assoc]

/-- The header of a loop has no other brace than the one at its end, if its texts have none. -/
theorem exists_forHeader_eq {name : String} {start stop step : Operand} {body : List Statement}
    (h : ∀ t ∈ (Statement.forLoop name start stop step body).texts, Unbraced t) :
    ∃ m, Unbraced m ∧ forHeader name start stop step = m ++ "\x7b" := by
  simp only [Statement.texts, List.forall_mem_cons, List.forall_mem_append] at h
  obtain ⟨hname, ⟨hstart, hstop⟩, hstep⟩ := h
  refine ⟨"for (int " ++ name ++ " = " ++ start.render ++ "; " ++ name ++
    (if step.isNegative then " > " else " < ") ++ stop.render ++ "; " ++ name ++ " += " ++
    step.render ++ ") ", ?_, ?_⟩
  · have hcompare : Unbraced (if step.isNegative then " > " else " < ") := by
      split <;> decide
    simp only [unbraced_append]
    exact ⟨⟨⟨⟨⟨⟨⟨⟨⟨⟨⟨⟨by decide, hname⟩, by decide⟩, start.unbraced_render hstart⟩, by decide⟩,
      hname⟩, hcompare⟩, stop.unbraced_render hstop⟩, by decide⟩, hname⟩, by decide⟩,
      step.unbraced_render hstep⟩, by decide⟩
  · exact append_header _

mutual

theorem Statement.laysOut_lines (depth : Nat) : (s : Statement) →
    (∀ x ∈ s.flatten, ∀ t ∈ x.texts, Unbraced t) → LaysOut depth (s.lines depth) [s.treeAt depth]
  | .action a, h => by
      have htext := Action.unbraced_text (h (.action a) (by simp [Statement.flatten]))
      exact LaysOut.lines (List.forall_mem_singleton.2
        ⟨unbraced_append.2 ⟨unbraced_indent depth, htext⟩, standsAt_indent depth _⟩)
  | .branch condition body otherwise, h => by
      simp only [Statement.flatten, List.forall_mem_cons, List.forall_mem_append] at h
      obtain ⟨hself, hbody, hother⟩ := h
      have hcondition : Unbraced ("if (" ++ condition ++ ") ") :=
        unbraced_append.2 ⟨unbraced_append.2 ⟨by decide, hself condition (by simp [Statement.texts])⟩,
          by decide⟩
      have hbody := laysOut_blockLines (depth + 1) body hbody
      have hother := laysOut_blockLines (depth + 1) otherwise hother
      rw [Statement.lines, Statement.treeAt, conditionHeader_eq]
      cases otherwise with
      | nil =>
          rw [List.isEmpty_nil, if_pos rfl, if_pos rfl, List.append_nil]
          exact hbody.block hcondition
      | cons s ss => exact hbody.choice hcondition hother
  | .forLoop name start stop step body, h => by
      simp only [Statement.flatten, List.forall_mem_cons] at h
      obtain ⟨m, hm, hheader⟩ := exists_forHeader_eq h.1
      rw [Statement.lines, Statement.treeAt, hheader]
      exact (laysOut_blockLines (depth + 1) body h.2).block hm
  | .whileLoop condition body, h => by
      simp only [Statement.flatten, List.forall_mem_cons] at h
      have hcondition : Unbraced ("while (" ++ condition ++ ") ") :=
        unbraced_append.2 ⟨unbraced_append.2 ⟨by decide, h.1 condition (by simp [Statement.texts])⟩,
          by decide⟩
      rw [Statement.lines, Statement.treeAt, conditionHeader_eq]
      exact (laysOut_blockLines (depth + 1) body h.2).block hcondition

/-- The lines of statements lay out their trees. -/
theorem laysOut_blockLines (depth : Nat) : (ss : List Statement) →
    (∀ x ∈ flattenAll ss, ∀ t ∈ x.texts, Unbraced t) →
    LaysOut depth (blockLines depth ss) (treesAt depth ss)
  | [], _ => LaysOut.nil depth
  | s :: ss, h => by
      rw [flattenAll, List.forall_mem_append] at h
      exact (Statement.laysOut_lines depth s h.1).append (laysOut_blockLines depth ss h.2)

end

/-! ### Sketches -/

/-- The lines of a text. -/
def textLines (s : String) : List String :=
  (s.toList.splitOn '\n').map String.ofList

theorem textLines_intercalate {ls : List String} (hne : ls ≠ []) (h : ∀ l ∈ ls, '\n' ∉ l.toList) :
    textLines ("\n".intercalate ls) = ls := by
  have hmap : ∀ l ∈ ls.map String.toList, '\n' ∉ l := List.forall_mem_map.2 h
  have hsplit := List.splitOn_intercalate '\n' hmap (by simpa using hne)
  have hlines : ("\n".intercalate ls).toList = ['\n'].intercalate (ls.map String.toList) :=
    String.toList_intercalate
  rw [textLines, hlines, hsplit, List.map_map]
  simp [Function.comp_def]

/-- The trees, or one line if there are none. -/
def treesOr (trees : List CodeTree) (other : String) : List CodeTree :=
  if trees.isEmpty then [.line other] else trees

theorem LaysOut.orElse {depth : Nat} {ls : List String} {trees : List CodeTree} {other : String}
    (h : LaysOut depth ls trees) (hempty : ls.isEmpty = trees.isEmpty)
    (hother : Unbraced other ∧ StandsAt depth other) :
    LaysOut depth (linesOr ls other) (treesOr trees other) := by
  unfold linesOr treesOr
  rw [hempty]
  split
  · exact LaysOut.lines (List.forall_mem_singleton.2 hother)
  · exact h

theorem isEmpty_blockLines (depth : Nat) (ss : List Statement) :
    (blockLines depth ss).isEmpty = (treesAt depth ss).isEmpty := by
  cases ss with
  | nil => rfl
  | cons s ss => cases s <;> simp [blockLines, Statement.lines, treesAt]

namespace Program

variable {p : Program}

/-- The lines before the functions: libraries, servos and variables. -/
def topLines (p : Program) : List String :=
  (if p.servos.isEmpty then [] else ["#include <Servo.h>", ""]) ++
    (if p.declarationLines.isEmpty then [] else p.declarationLines ++ [""])

/-- The lines at the start of the function `setup`: serial port and pins. -/
def startLines (p : Program) : List String :=
  (if p.usesSerial && !p.beginsSerial then
    [indent 1 ++ "Serial.begin(" ++ toString defaultBaud ++ ");"] else []) ++
    p.sketchPins.map fun pm => indent 1 ++ "pinMode(" ++ pm.1.render ++ ", " ++ pm.2 ++ ");"

/-- The trees of the function `setup`. -/
def setupTrees (p : Program) : List CodeTree :=
  treesOr (p.startLines.map .line ++ treesAt 1 p.setup) (indent 1 ++ "// no setup actions")

/-- The trees of the function `loop`. -/
def loopTrees (p : Program) : List CodeTree :=
  treesOr (treesAt 1 p.loop) (indent 1 ++ "// no loop actions")

theorem sketch_of_sketch? {text : String} (h : p.sketch? = .ok text) : text = p.sketch := by
  unfold sketch? at h
  cases hpins : p.sortPins? with
  | error x => simp [hpins, bind, Except.bind] at h
  | ok pins =>
      simp only [hpins, bind, Except.bind] at h
      split at h
      · cases h
      · cases h
        rfl

section Unbraced

variable (h : ∀ t ∈ p.texts, Unbraced t)
include h

theorem unbraced_topLines : ∀ l ∈ p.topLines, Unbraced l := by
  obtain ⟨-, -, hservo, hglobal, -⟩ := forall_mem_texts.1 h
  have hdeclarations : ∀ l ∈ p.declarationLines, Unbraced l := by
    intro l hl
    simp only [declarationLines, List.mem_append, List.mem_map, List.mem_mergeSort] at hl
    rcases hl with ⟨name, hname, rfl⟩ | ⟨d, hd, rfl⟩
    · simp only [unbraced_append]
      exact ⟨⟨by decide, hservo name hname⟩, by decide⟩
    · obtain ⟨htype, hname, hvalue⟩ := hglobal d hd
      simp only [unbraced_append]
      exact ⟨⟨⟨⟨⟨htype, by decide⟩, hname⟩, by decide⟩, hvalue⟩, by decide⟩
  unfold topLines
  refine List.forall_mem_append.2 ⟨?_, ?_⟩
  · split
    · simp
    · decide
  · split
    · simp
    · exact List.forall_mem_append.2 ⟨hdeclarations, by decide⟩

theorem unbraced_startLines : ∀ l ∈ p.startLines, Unbraced l ∧ StandsAt 1 l := by
  obtain ⟨-, -, -, -, hpin⟩ := forall_mem_texts.1 h
  refine List.forall_mem_append.2 ⟨?_, ?_⟩
  · split
    · decide
    · simp
  · rw [List.forall_mem_map]
    intro pm hpm
    obtain ⟨hmode, hoperand⟩ := hpin pm (p.sketchPins_perm.subset hpm)
    simp only [unbraced_append, String.append_assoc]
    exact ⟨⟨unbraced_indent 1, by decide, pm.1.unbraced_render hoperand, by decide, hmode,
      by decide⟩, standsAt_indent 1 _⟩

theorem laysOut_setupLines :
    LaysOut 1 (linesOr p.setupLines (indent 1 ++ "// no setup actions")) p.setupTrees := by
  obtain ⟨hsetup, -⟩ := forall_mem_texts.1 h
  refine LaysOut.orElse ?_ ?_ ⟨by decide, standsAt_indent 1 _⟩
  · exact (LaysOut.lines (unbraced_startLines h)).append (laysOut_blockLines 1 p.setup hsetup)
  · change (p.startLines ++ blockLines 1 p.setup).isEmpty = _
    rw [Bool.eq_iff_iff]
    have hblock := isEmpty_blockLines 1 p.setup
    rw [Bool.eq_iff_iff] at hblock
    simp only [List.isEmpty_iff, List.append_eq_nil_iff, List.map_eq_nil_iff] at hblock ⊢
    rw [hblock]

theorem laysOut_loopLines : LaysOut 1 p.loopLines p.loopTrees := by
  obtain ⟨-, hloop, -⟩ := forall_mem_texts.1 h
  exact LaysOut.orElse (laysOut_blockLines 1 p.loop hloop) (isEmpty_blockLines 1 p.loop)
    ⟨by decide, standsAt_indent 1 _⟩

/-- The lines of a sketch lay out the trees of its functions. -/
theorem laysOut_sketchLines : LaysOut 0 p.sketchLines (p.topLines.map .line ++
    [.block "void setup() \x7b" p.setupTrees, .line "", .block "void loop() \x7b" p.loopTrees,
      .line ""]) := by
  have hempty : LaysOut 0 [""] [.line ""] := LaysOut.lines (by decide)
  have htop : LaysOut 0 p.topLines (p.topLines.map .line) :=
    LaysOut.lines fun l hl => ⟨unbraced_topLines h l hl, List.nil_prefix⟩
  have hsetup := LaysOut.function (m := "void setup() ") (by decide) (laysOut_setupLines h)
  have hloop := LaysOut.function (m := "void loop() ") (by decide) (laysOut_loopLines h)
  have hall := htop.append (hsetup.append (hempty.append (hloop.append hempty)))
  have hlines : p.sketchLines = p.topLines ++ ("void setup() \x7b" ::
      linesOr p.setupLines (indent 1 ++ "// no setup actions") ++ ["\x7d"] ++ ([""] ++
        ("void loop() \x7b" :: p.loopLines ++ ["\x7d"] ++ [""]))) := by
    simp [sketchLines, topLines, loopLines]
  rw [hlines]
  exact hall

end Unbraced

end Program

/-- **The block structure of sketches can be read back.**  The lines of statements whose texts have no
braces and no line feeds are read as the trees of the statements, and each of them is indented to the
depth that the braces give it.  In the sketch of such a program, the only lines that are a closing brace
are the ends of the two functions. -/
theorem blockLines_read_back :
    (∀ (depth : Nat) (ss : List Statement), (∀ s ∈ flattenAll ss, ∀ t ∈ s.texts, Unbraced t) →
      readTrees (blockLines depth ss) = some (treesAt depth ss) ∧
      List.Forall₂ (fun k l => (depth : Int) ≤ k ∧ StandsAt k l)
        (lineDepths depth (blockLines depth ss)) (blockLines depth ss)) ∧
    ∀ p : Program, (∀ t ∈ p.texts, Unbraced t) →
      (p.IsNumeric → ∃ text, p.sketch? = .ok text) ∧
      ∀ text, p.sketch? = .ok text → ∃ top setup loop,
        textLines text = top ++ "void setup() \x7b" :: setup ++
          "\x7d" :: "" :: "void loop() \x7b" :: loop ++ ["\x7d", ""] ∧
        (∀ l ∈ top ++ setup ++ loop, l ≠ "\x7d") ∧
        readTrees setup = some p.setupTrees ∧ readTrees loop = some p.loopTrees ∧
        readTrees (textLines text) = some (top.map .line ++
          [.block "void setup() \x7b" p.setupTrees, .line "",
            .block "void loop() \x7b" p.loopTrees, .line ""]) := by
  refine ⟨fun depth ss h => ?_, fun p h => ⟨fun hn => ⟨_, Program.sketch?_eq hn⟩, ?_⟩⟩
  · have hlines := laysOut_blockLines depth ss h
    exact ⟨hlines.readTrees_eq, (hlines {}).indented⟩
  · intro text htext
    have hsetup := Program.laysOut_setupLines h
    have hloop := Program.laysOut_loopLines h
    have hall := Program.laysOut_sketchLines h
    have hne : p.sketchLines ≠ [] := by simp [Program.sketchLines]
    have hlines : textLines text = p.sketchLines := by
      rw [Program.sketch_of_sketch? htext]
      exact textLines_intercalate hne (hall {}).unbroken
    -- A brace alone in its line is not indented, and not free of braces.
    have hindented : ∀ l : String, StandsAt 1 l → l ≠ "\x7d" := by
      rintro l hl rfl
      exact absurd hl (by decide)
    refine ⟨p.topLines, _, p.loopLines, ?_, ?_, hsetup.readTrees_eq, hloop.readTrees_eq, ?_⟩
    · rw [hlines]
      simp [Program.sketchLines, Program.topLines, Program.loopLines]
    · rw [List.forall_mem_append, List.forall_mem_append]
      refine ⟨⟨?_, ?_⟩, ?_⟩
      · rintro l hl rfl
        exact absurd (Program.unbraced_topLines h _ hl) (by decide)
      · exact fun l hl => hindented l ((hsetup {}).standsAt l hl)
      · exact fun l hl => hindented l ((hloop {}).standsAt l hl)
    · rw [hlines]
      exact hall.readTrees_eq

/-- A heater that waits or blinks while it is cold. -/
def heater : Program where
  setup := []
  loop :=
    [.whileLoop "heat < 20"
      [.branch "ready" [.action (.delay (.number (.ofInt 5)))]
        [.forLoop "i" (.number (.ofInt 0)) (.number (.ofInt 3)) (.number (.ofInt 1))
          [.action (.digitalWrite (.number (.ofInt 13)) "HIGH")]],
        .branch "done" [] []]]
  globals := [⟨"heat", "int", "0"⟩]
  pinModes := [(.number (.ofInt 13), "OUTPUT")]

theorem heater_reads_back :
    readTrees (blockLines 1 heater.loop) = some
      [.block "  while (heat < 20) \x7b"
        [.choice "    if (ready) \x7b" [.line "      delay(5);"]
          [.block "      for (int i = 0; i < 3; i += 1) \x7b" [.line "        digitalWrite(13, HIGH);"]],
          .block "    if (done) \x7b" []]] ∧
    ∃ text, heater.sketch? = .ok text ∧ ∃ top setup loop,
      textLines text = top ++ "void setup() \x7b" :: setup ++
        "\x7d" :: "" :: "void loop() \x7b" :: loop ++ ["\x7d", ""] ∧
      ∀ l ∈ top ++ setup ++ loop, l ≠ "\x7d" := by
  obtain ⟨hblock, hprogram⟩ := blockLines_read_back
  obtain ⟨hexists, hread⟩ := hprogram heater (by decide)
  obtain ⟨text, htext⟩ := hexists (by unfold Program.IsNumeric; decide)
  obtain ⟨top, setup, loop, hlines, hbrace, -⟩ := hread text htext
  exact ⟨(hblock 1 heater.loop (by decide)).1, text, htext, top, setup, loop, hlines, hbrace⟩

end BlockSketch
