/-
**Conflicts.**

When the walks are over, the actions of a program are looked through for what they need: pins, servos
and variables.  Two needs may be at odds.  A pin is written to although a block sets another mode for
it, or a name is that of a servo and of a variable.  The program warns of these conflicts, of the pins
first and then of the names, after everything that was found on the walks.

Main definitions:

* `BlockSketch.Program.actions` — the actions of a program, in the order of its text;
* `BlockSketch.Warning.isConflict` — the two kinds of conflicts.

Main results:

* `BlockSketch.Graph.filter_isConflict_build` — **the conflicts that a program warns of are those of its
  pins and those of its names**;
* `BlockSketch.Warning.eq_pinConflict_of_message_eq` — the message about a pin is like no others.
-/

import BlockSketch.Proofs.LinearGraph
import BlockSketch.Proofs.Numerals
import BlockSketch.Proofs.Reachable

set_option relaxedAutoImplicit false
set_option autoImplicit false

namespace BlockSketch

/-! ### The actions of a program -/

/-- The actions of a program: those of setup, then those of loop. -/
def Program.actions (p : Program) : List Action :=
  p.statements.filterMap Statement.action?

theorem Program.mem_actions {p : Program} {a : Action} :
    a ∈ p.actions ↔ Statement.action a ∈ p.statements := by
  rw [actions, List.mem_filterMap]
  constructor
  · rintro ⟨s, hs, ha⟩
    cases s with
    | action b =>
        obtain rfl := Option.some.inj ha
        exact hs
    | _ => cases ha
  · intro ha
    exact ⟨_, ha, rfl⟩

namespace Graph

variable (g : Graph)

theorem actions_build : g.build.actions = actionsOf g.walkSetup.1 ++ actionsOf g.walkLoop.1 := by
  rw [Program.actions, Program.statements, List.filterMap_append]
  rfl

theorem pinModes_build : g.build.pinModes =
    (pinTable g.nodes g.build.actions).map fun pm => (.number pm.1, pm.2) := by
  rw [actions_build]
  rfl

theorem servos_build : g.build.servos = servoTable g.build.actions := by
  rw [actions_build]
  rfl

theorem globals_build : g.build.globals = globalTable g.nodes g.build.actions := by
  rw [actions_build]
  rfl

end Graph

/-! ### Warnings -/

namespace Warning

/-- Whether a warning is about needs that are at odds. -/
def isConflict : Warning → Bool
  | .pinConflict _ _ | .servoConflict _ => true
  | _ => false

theorem toList_message_pinConflict (pin : Dyadic) (mode : String) :
    (pinConflict pin mode).message.toList =
      "Pin ".toList ++ ((numberText pin).toList ++
        ' ' :: ("is written to but its Pin Mode block sets ".toList ++ (mode ++ ".").toList)) := by
  unfold message
  simp only [String.toList_append, List.append_assoc]
  rfl

/-- The message about a pin whose number is an integer is like no others. -/
theorem eq_pinConflict_of_message_eq {x : Warning} {n : Int} {mode : String}
    (h : x.message = (pinConflict (Dyadic.ofInt n) mode).message) :
    x = .pinConflict (Dyadic.ofInt n) mode := by
  have hx : x.initial = 'P' := initial_eq_of_message_eq h
  cases x with
  | pinConflict pin mode' =>
      -- a numeral has no blank, so the first one tells where it ends
      have hblank (y : Dyadic) : ' ' ∉ (numberText y).toList := by
        intro hmem
        rcases isNumeralChar_of_mem_numberText hmem with hdigit | hmark
        · cases hdigit
        · exact absurd hmark (by decide)
      have hlist := congrArg String.toList h
      rw [toList_message_pinConflict, toList_message_pinConflict] at hlist
      obtain ⟨hpin, hrest⟩ := append_mark_inj (hblank _) (hblank _) (List.append_cancel_left hlist)
      rw [String.toList_inj, numberText_ofInt, numberText_eq_integerText_iff] at hpin
      have hmode := String.toList_inj.1 (List.append_cancel_left hrest)
      rw [hpin, (String.append_left_inj _).1 hmode]
  | _ => simp [initial] at hx

end Warning

namespace Graph

/-- **The conflicts that a program warns of are those of its pins and those of its names.** -/
theorem filter_isConflict_build (g : Graph) : g.build.warnings.filter Warning.isConflict =
    (pinConflicts g.nodes g.build.actions).map (fun pm => .pinConflict pm.1 pm.2) ++
      (servoConflicts g.nodes g.build.actions).map .servoConflict := by
  have hwalk : g.walkLoop.2.warnings.filter Warning.isConflict = [] := by
    rw [List.filter_eq_nil_iff]
    intro x hx
    rcases mem_walkLoop_warnings hx with rfl | ⟨_, rfl⟩ | ⟨_, rfl⟩ <;> simp [Warning.isConflict]
  rw [actions_build]
  simp only [build, List.filter_append, hwalk, List.filter_map]
  simp [Function.comp_def, Warning.isConflict]

end Graph

end BlockSketch
