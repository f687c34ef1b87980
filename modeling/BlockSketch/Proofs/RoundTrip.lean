/-
**Sketches that are imported again.**

A sketch is imported through its loop function alone: the lines of the function are recognised, the
blocks are placed in a row, the row is upgraded, and the graph is built.  If the statements of loop are
importable, all this ends where it began.

What else the program has, its declarations, pins and statements of setup, is only asked not to hide
the loop function: no text of it may have a line feed or the word that starts a function.

Main results:

* `BlockSketch.bodyLines_leading` — an import reads the lines of the loop function;
* `BlockSketch.Program.exists_importSketch` — the sketch is imported as a row of blocks that encodes
  the statements of loop;
* `BlockSketch.Program.build_import_sketch` — **importing the sketch of a program and building the
  graph gives the statements of its loop function back**.
-/

import BlockSketch.Proofs.Importable
import BlockSketch.Proofs.Layout

set_option relaxedAutoImplicit false
set_option autoImplicit false

namespace BlockSketch

open BlockSketch.Text

/-! ### The lines of the loop function -/

/-- An import reads the lines of the body. -/
theorem bodyLines_leading {ls : List String} (h : ∀ l ∈ ls, '\n' ∉ l.toList) :
    bodyLines (leading ls) = trimmedLines ls := by
  rw [bodyLines, splitLines_leading h, List.map_cons, List.map_map,
    List.filter_cons_of_neg (by decide)]
  rfl

namespace Program

variable {p : Program}

/-- The remark in an empty loop function is no block. -/
theorem importLines_remark :
    importLines 0 (trimmedLines [indent 1 ++ "// no loop actions"]) = .ok [] := by
  have htrim : trimmedLines [indent 1 ++ "// no loop actions"] = ["// no loop actions".toList] :=
    trimmedLines_cons ⟨by decide, by decide, by decide⟩ String.toList_append []
  rw [htrim, importLines, recognise_eq_none (by decide)]
  rfl

/-- The lines of importable statements are imported as blocks that encode them. -/
theorem exists_importLines (h : Importable p.loop) :
    ∃ es, Encodes p.loop es ∧ importLines 0 (trimmedLines p.loopLines) = .ok es := by
  unfold loopLines linesOr
  split
  · rename_i hempty
    -- a statement has lines, so that there are no statements
    have hloop : p.loop = [] := by
      cases hp : p.loop with
      | nil => rfl
      | cons s ss => cases s <;> simp [hp, blockLines, Statement.lines] at hempty
    exact ⟨[], hloop ▸ .nil, importLines_remark⟩
  · obtain ⟨es, hes, himport⟩ := h.exists_encodes
    refine ⟨es, hes, ?_⟩
    have hlines := himport 1 0 []
    rw [List.append_nil] at hlines
    rw [hlines, importLines, Except.map, List.append_nil]

/-! ### Round trips -/

/-- The sketch is imported as a row of blocks that encodes the statements of loop. -/
theorem exists_importSketch (htexts : ∀ t ∈ p.texts, IsPlain t) (hloop : Importable p.loop) :
    ∃ es, Encodes p.loop es ∧ importSketch p.sketch = .ok (linearGraph es) := by
  obtain ⟨es, hes, himport⟩ := exists_importLines hloop
  refine ⟨es, hes, ?_⟩
  have hlines : ∀ l ∈ p.loopLines, '\n' ∉ l.toList := fun l hl => (loopLines_indented htexts l hl).1
  simp only [importSketch, loopBody?_sketch htexts, bodyLines_leading hlines, himport]
  rfl

/-- **Importing the sketch of a program gives the statements of its loop function back.**

Here the texts of the program have no line feed and no `void`, its pins and steps are numbers, and the
statements of loop are importable and not nested too deep.  Then the program has a sketch, the import
and the upgrade accept it, and the graph is built without faults. -/
theorem build_import_sketch (p : Program) (htexts : ∀ t ∈ p.texts, IsPlain t) (hn : p.IsNumeric)
    (hloop : Importable p.loop) (hnest : nestingAll p.loop ≤ maxNesting) :
    ∃ sketch linear graph, p.sketch? = .ok sketch ∧ importSketch sketch = .ok linear ∧
      linear.migrate = .ok graph ∧ graph.build.loop = p.loop ∧ graph.build.faults = [] := by
  obtain ⟨es, hes, himport⟩ := exists_importSketch htexts hloop
  obtain ⟨graph, hmigrate, hfaults, -, hbuild⟩ := hes.exists_build hnest
  exact ⟨p.sketch, linearGraph es, graph, sketch?_eq hn, himport, hmigrate, hbuild, hfaults⟩

/-- A lamp that is dimmed while a switch is on, and a servo.  The names in setup come close to the word
that starts a function. -/
def beacon : Program where
  setup := [.action (.serialBegin (.number (.ofInt 9600))),
    .branch "voi > (d)" [.action (.assign "voi" "d")] [.action (.comment " vo id ")]]
  loop :=
    [.whileLoop "state == HIGH"
      [.forLoop "level" (.number (.ofInt 255)) (.number (.ofInt (-1))) (.number (.ofInt (-15)))
        [.action (.digitalWrite (.number (.ofInt 13)) "HIGH"),
          .branch "level < 100" [.action (.serialPrint "dim; \x7blow\x7d")] [],
          .action (.analogWrite (.number (.ofInt 9)) "128")],
        .action (.delay (.number (.ofInt 20)))],
      .action (.servoAttach "arm_1" (.number (.ofInt 6))),
      .action (.servoWrite "arm_1" "90")]
  globals := [⟨"state", "int", "0"⟩]
  servos := ["arm_1"]
  usesSerial := true
  beginsSerial := true
  pinModes := [(.number (.ofInt 13), "OUTPUT"), (.float (.ofInt 9), "OUTPUT")]

theorem importable_beacon : Importable beacon.loop := by
  have hbound {n : Nat} (h : n < 1000) : n < importBound := Nat.lt_trans h (by decide +kernel)
  have natural {n : Nat} (h : n < 1000) : (Operand.number (.ofInt n)).IsNatural :=
    ⟨n, hbound h, rfl⟩
  have integer {n : Int} (h : n.natAbs < 1000) : (Operand.number (.ofInt n)).IsInteger :=
    ⟨n, hbound h, rfl⟩
  have hmessage : (Action.serialPrint "dim; \x7blow\x7d").IsImportable := by
    unfold Action.IsImportable IsMessage
    decide
  refine .whileLoop ⟨by decide, by decide, by decide, by decide⟩ (by simp) ?body ?rest
  case body =>
    refine .forLoop ⟨by decide, by decide⟩ (integer (n := 255) (by decide))
      (integer (n := -1) (by decide)) (integer (n := -15) (by decide)) (by decide) (by simp) ?_
      (.action (natural (n := 20) (by decide)) .nil)
    refine .action ⟨natural (n := 13) (by decide), Or.inl rfl⟩ ?_
    exact .branch ⟨by decide, by decide, by decide, by decide⟩ (by simp) (.action hmessage .nil)
      (.action ⟨natural (n := 9) (by decide), 128, hbound (by decide), by decide⟩ .nil)
  case rest =>
    refine .action ⟨⟨by decide, by decide⟩, natural (n := 6) (by decide)⟩ ?_
    exact .action ⟨⟨by decide, by decide⟩, 90, hbound (by decide), by decide⟩ .nil

theorem beacon_import : (∀ t ∈ beacon.texts, IsPlain t) ∧ beacon.IsNumeric ∧
    Importable beacon.loop ∧ nestingAll beacon.loop ≤ maxNesting ∧
    ∃ sketch linear graph, beacon.sketch? = .ok sketch ∧ importSketch sketch = .ok linear ∧
      linear.migrate = .ok graph ∧ graph.build.loop = beacon.loop ∧ graph.build.faults = [] := by
  have htexts : ∀ t ∈ beacon.texts, IsPlain t := by decide
  have hn : beacon.IsNumeric := by
    unfold IsNumeric
    decide
  have hnest : nestingAll beacon.loop ≤ maxNesting := by decide
  exact ⟨htexts, hn, importable_beacon, hnest,
    build_import_sketch beacon htexts hn importable_beacon hnest⟩

end Program

end BlockSketch
