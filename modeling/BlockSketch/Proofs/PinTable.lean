/-
**The modes of pins.**

The table of pins is made in two runs.  The pin mode blocks enter their modes one after the other, so
that the last one for a pin counts.  Then the actions go over the table: a write makes its pin an output
unless a block has set a mode for it, and a read makes its pin an input if it has no mode yet.  The table
changes on the way, and what an action does depends on what the ones before it did.

The outcome does not.  A pin has the mode that the last block sets for it; else it is an output if it is
written to anywhere, and an input if it is only read.  One action adds itself to what is known of its
pin (`BlockSketch.PinUse.get?_modes_observe`), and so does a run of them
(`BlockSketch.get?_modes_foldl_observe`).  A write to a pin whose block sets another mode is a conflict,
which is noted on the first such write only (`BlockSketch.noted_foldl_observe`).

Main definitions:

* `BlockSketch.Node.setsPin`, `BlockSketch.blockMode?` — the mode that blocks set for a pin;
* `BlockSketch.Program.Writes`, `BlockSketch.Program.Reads` — the pins that statements write to and read
  from;
* `BlockSketch.Graph.IsAtOdds` — a pin is written to although a block sets another mode for it.

Main results:

* `BlockSketch.get?_explicitPinModes` — the last block for a pin counts;
* `BlockSketch.get?_modes_foldl_observe`, `BlockSketch.noted_foldl_observe` — what a run of actions makes
  of the mode of a pin, and what it notes about it;
* `BlockSketch.Graph.pinModes_determined` — **the table of pins and the warnings of conflicts depend on the
  blocks and on the sets of pins that are written and read, and on nothing else**.
-/

import BlockSketch.Proofs.Conflicts
import BlockSketch.Proofs.SortedTables
import BlockSketch.Proofs.Totality
import Mathlib.Data.List.Induction

set_option relaxedAutoImplicit false
set_option autoImplicit false

namespace BlockSketch

/-! ### Modes that blocks set -/

/-- The mode that a pin mode block names. -/
def Node.modeName (n : Node) : String :=
  Fields.text n.params "mode" "INPUT"

/-- Whether a block sets a mode for the pin: it is a pin mode block, its pin is this number, and the mode
that it names is one. -/
def Node.setsPin (pin : Dyadic) (n : Node) : Bool :=
  n.hasKind .pinMode && (Fields.get? n.params "pin").bind Value.number? == some pin &&
    ["INPUT", "OUTPUT", "INPUT_PULLUP"].contains n.modeName

/-- The mode that the last of the blocks sets for a pin. -/
def blockMode? (nodes : List Node) (pin : Dyadic) : Option String :=
  ((nodes.filter (Node.setsPin pin)).getLast?).map Node.modeName

namespace PinModes

theorem get?_cons (q : Dyadic) (m : String) (t : PinModes) (p : Dyadic) :
    get? ((q, m) :: t) p = if p = q then some m else t.get? p := by
  rw [get?, List.lookup_cons]
  by_cases hp : p = q
  · rw [beq_iff_eq.2 hp, if_pos hp]
  · rw [beq_eq_false_iff_ne.2 hp, if_neg hp, get?]

/-- A mode that is entered is found, and it changes no other. -/
theorem get?_set (t : PinModes) (pin : Dyadic) (mode : String) (p : Dyadic) :
    (t.set pin mode).get? p = if p = pin then some mode else t.get? p := by
  induction t with
  | nil => rw [set, get?_cons]
  | cons qm t ih =>
      obtain ⟨q, m⟩ := qm
      rw [set]
      by_cases hq : q = pin
      · rw [if_pos hq, get?_cons, get?_cons, hq]
        split <;> rfl
      · rw [if_neg hq, get?_cons, get?_cons, ih]
        by_cases hp : p = q
        · rw [if_pos hp, if_pos hp, if_neg (hp ▸ hq)]
        · rw [if_neg hp, if_neg hp]

/-- Of several modes that are entered for a pin the last counts. -/
theorem get?_foldl_set (ps t : PinModes) (pin : Dyadic) :
    (ps.foldl (fun t pm => t.set pm.1 pm.2) t).get? pin =
      (((ps.filter fun pm => pm.1 = pin).getLast?).map Prod.snd).or (t.get? pin) := by
  induction ps generalizing t with
  | nil => rfl
  | cons pm ps ih =>
      rw [List.foldl_cons, ih, get?_set]
      by_cases hp : pm.1 = pin
      · rw [if_pos hp.symm, List.filter_cons_of_pos (by simpa using hp), List.getLast?_cons]
        cases (ps.filter fun pm => pm.1 = pin).getLast? <;> rfl
      · rw [if_neg (Ne.symm hp), List.filter_cons_of_neg (by simpa using hp)]

theorem isKeyed_foldl_set {t : PinModes} (hd : t.IsKeyed) (ps : PinModes) :
    (ps.foldl (fun t pm => t.set pm.1 pm.2) t).IsKeyed := by
  induction ps generalizing t with
  | nil => exact hd
  | cons pm ps ih => exact ih (hd.set pm.1 pm.2)

end PinModes

section Blocks

variable (nodes : List Node) (pin : Dyadic)

theorem isKeyed_explicitPinModes : (explicitPinModes nodes).IsKeyed :=
  PinModes.isKeyed_foldl_set (t := []) List.nodup_nil _

/-- What a block enters for the pin. -/
theorem filter_pinModeOf? {n : Node} (hn : n.hasKind .pinMode = true) :
    ((pinModeOf? n.params).filter fun pm => pm.1 = pin) =
      if n.setsPin pin then some (pin, n.modeName) else none := by
  rw [pinModeOf?, Node.setsPin, hn, show ["INPUT", "OUTPUT", "INPUT_PULLUP"] = pinModeNames from rfl]
  cases (Fields.get? n.params "pin").bind Value.number? with
  | none => simp
  | some q =>
      change Option.filter _ (if n.modeName ∈ pinModeNames then some (q, n.modeName) else none) = _
      by_cases hm : n.modeName ∈ pinModeNames
      · by_cases hq : q = pin <;> simp [hm, hq]
      · simp [hm]

/-- The entries of a pin are the modes of the blocks that set one for it. -/
theorem filter_pinned : ((pinned nodes).filter fun pm => pm.1 = pin) =
    (nodes.filter (Node.setsPin pin)).map fun n => (pin, n.modeName) := by
  rw [pinned, List.filter_filterMap, List.filterMap_filter, ← List.filterMap_eq_map,
    List.filterMap_filter]
  refine List.filterMap_congr fun n _ => ?_
  by_cases hn : n.hasKind .pinMode = true
  · rw [if_pos hn, filter_pinModeOf? pin hn]
    rfl
  · rw [if_neg hn, if_neg (by simp [Node.setsPin, hn])]

/-- The last block for a pin counts. -/
theorem get?_explicitPinModes : (explicitPinModes nodes).get? pin = blockMode? nodes pin := by
  have hrun := PinModes.get?_foldl_set (pinned nodes) [] pin
  rw [filter_pinned, List.getLast?_map, Option.map_map] at hrun
  exact hrun.trans (Option.or_none ..)

end Blocks

/-! ### One action -/

/-- Whether an action writes to the pin. -/
def Action.writesTo (pin : Dyadic) : Action → Bool
  | .digitalWrite o _ => o.number? == some pin
  | .analogWrite o _ => o.number? == some pin
  | _ => false

/-- Whether an action reads from the pin. -/
def Action.readsFrom (pin : Dyadic) : Action → Bool
  | .digitalRead o _ => o.number? == some pin
  | _ => false

namespace PinUse

variable (explicit : PinModes) (u : PinUse) (pin : Dyadic)

/-- The conflicts of the pin that have been noted. -/
def noted : PinModes :=
  u.conflicts.filter fun pm => pm.1 = pin

theorem isNone_get?_conflicts : (u.conflicts.get? pin).isNone = true ↔ u.noted pin = [] := by
  rw [Option.isNone_iff_eq_none, PinModes.get?, List.lookup_eq_none_iff, noted,
    List.filter_eq_nil_iff]
  simp only [bne_iff_ne, decide_eq_true_eq]
  exact forall₂_congr fun _ _ => ne_comm

theorem get?_modes_write (q : Dyadic) : (u.write explicit q).modes.get? pin =
    if q = pin then (explicit.get? pin).elim (some "OUTPUT") fun _ => u.modes.get? pin
    else u.modes.get? pin := by
  rw [modes_write]
  by_cases hq : q = pin
  · subst hq
    cases explicit.get? q <;> simp [PinModes.get?_set]
  · rw [if_neg hq]
    split
    · rw [PinModes.get?_set, if_neg (Ne.symm hq)]
    · rfl

/-- A write to another pin notes nothing about this one. -/
theorem noted_write_of_ne {q : Dyadic} (hq : q ≠ pin) :
    (u.write explicit q).noted pin = u.noted pin := by
  unfold write
  split
  · rfl
  · split
    · split
      · simp [noted, hq]
      · rfl
    · rfl

/-- A write is noted if the mode that a block sets for its pin has stayed and is not that of an output,
unless this has been noted before. -/
theorem noted_write (hstay : ∀ mode ∈ explicit.get? pin, u.modes.get? pin = some mode) :
    (u.write explicit pin).noted pin =
      if u.noted pin = [] then
        ((explicit.get? pin).filter (· ≠ "OUTPUT")).toList.map fun mode => (pin, mode)
      else u.noted pin := by
  unfold write
  cases he : explicit.get? pin with
  | none =>
      change u.noted pin = if u.noted pin = [] then [] else u.noted pin
      split
      case isTrue h => exact h
      case isFalse => rfl
  | some mode =>
      simp only [hstay mode he, Option.isNone_some, Bool.false_eq_true, if_false,
        isNone_get?_conflicts]
      by_cases hm : mode = "OUTPUT" <;> by_cases hn : u.noted pin = []
      · simp [hm, hn, Option.filter]
      · simp [hm, hn]
      · have hconcat : noted ⟨u.modes, u.conflicts ++ [(pin, mode)]⟩ pin =
            u.noted pin ++ [(pin, mode)] := by simp [noted]
        rw [if_pos ⟨hm, hn⟩, if_pos hn, hconcat, hn]
        simp [hm, Option.filter]
      · simp [hm, hn]

theorem get?_modes_read (q : Dyadic) : (u.read q).modes.get? pin =
    if q = pin then (u.modes.get? pin).or (some "INPUT") else u.modes.get? pin := by
  rw [modes_read]
  by_cases hq : q = pin
  · subst hq
    cases h : u.modes.get? q <;> simp [PinModes.get?_set, h]
  · rw [if_neg hq]
    split
    · rfl
    · rw [PinModes.get?_set, if_neg (Ne.symm hq)]

theorem noted_read (q : Dyadic) : (u.read q).noted pin = u.noted pin := by
  unfold read
  split <;> rfl

/-- What one action makes of the mode of a pin. -/
theorem get?_modes_observe (a : Action) : (u.observe explicit a).modes.get? pin =
    if a.writesTo pin then (explicit.get? pin).elim (some "OUTPUT") fun _ => u.modes.get? pin
    else if a.readsFrom pin then (u.modes.get? pin).or (some "INPUT")
    else u.modes.get? pin := by
  cases a with
  | digitalWrite o _ | analogWrite o _ =>
      cases ho : o.number? with
      | none => simp [observe, Action.writesTo, Action.readsFrom, ho]
      | some q => simp [observe, Action.writesTo, Action.readsFrom, ho, get?_modes_write]
  | digitalRead o _ =>
      cases ho : o.number? with
      | none => simp [observe, Action.writesTo, Action.readsFrom, ho]
      | some q => simp [observe, Action.writesTo, Action.readsFrom, ho, get?_modes_read]
  | _ => rfl

/-- An action that does not write to the pin notes nothing about it. -/
theorem noted_observe_of_not_writesTo {a : Action} (ha : a.writesTo pin = false) :
    (u.observe explicit a).noted pin = u.noted pin := by
  cases a with
  | digitalWrite o _ | analogWrite o _ =>
      rw [observe]
      rw [Action.writesTo] at ha
      cases ho : o.number? with
      | none => rfl
      | some q => exact noted_write_of_ne explicit u pin fun hq => by simp [ho, hq] at ha
  | digitalRead o _ =>
      rw [observe]
      cases o.number? with
      | none => rfl
      | some q => exact noted_read u pin q
  | _ => rfl

theorem observe_of_writesTo {a : Action} (ha : a.writesTo pin = true) :
    u.observe explicit a = u.write explicit pin := by
  cases a with
  | digitalWrite o _ | analogWrite o _ =>
      have ho : o.number? = some pin := eq_of_beq ha
      rw [observe, ho]
      rfl
  | _ => cases ha

end PinUse

/-! ### A run of actions -/

/-- The mode that actions need for a pin: to be written to comes before being read. -/
def inferredMode? (as : List Action) (pin : Dyadic) : Option String :=
  if as.any (Action.writesTo pin) then some "OUTPUT"
  else if as.any (Action.readsFrom pin) then some "INPUT" else none

/-- The mode with which writing to a pin is at odds. -/
def conflictMode? (explicit : PinModes) (as : List Action) (pin : Dyadic) : Option String :=
  if as.any (Action.writesTo pin) then (explicit.get? pin).filter (· ≠ "OUTPUT") else none

section Runs

variable (explicit : PinModes) (pin : Dyadic)

/-- What one action adds to what the ones before it need. -/
theorem inferredMode?_concat (as : List Action) (a : Action) : inferredMode? (as ++ [a]) pin =
    if a.writesTo pin then some "OUTPUT"
    else if a.readsFrom pin then (inferredMode? as pin).or (some "INPUT")
    else inferredMode? as pin := by
  simp only [inferredMode?, List.any_append, List.any_cons, List.any_nil, Bool.or_false]
  cases a.writesTo pin <;> cases a.readsFrom pin <;> cases as.any (Action.writesTo pin) <;>
    cases as.any (Action.readsFrom pin) <;> rfl

/-- What a run of actions makes of the mode of a pin. -/
theorem get?_modes_foldl_observe (as : List Action) :
    (as.foldl (PinUse.observe explicit) ⟨explicit, []⟩).modes.get? pin =
      (explicit.get? pin).or (inferredMode? as pin) := by
  induction as using List.reverseRecOn with
  | nil => exact (Option.or_none ..).symm
  | append_singleton as a ih =>
      rw [List.foldl_append, List.foldl_cons, List.foldl_nil, PinUse.get?_modes_observe, ih,
        inferredMode?_concat]
      split
      · cases explicit.get? pin <;> rfl
      · split
        · exact Option.or_assoc ..
        · rfl

/-- What one action adds to the conflicts of the ones before it. -/
theorem conflictMode?_concat (as : List Action) (a : Action) :
    conflictMode? explicit (as ++ [a]) pin =
      if a.writesTo pin then (explicit.get? pin).filter (· ≠ "OUTPUT")
      else conflictMode? explicit as pin := by
  simp only [conflictMode?, List.any_append, List.any_cons, List.any_nil, Bool.or_false]
  cases a.writesTo pin <;> cases as.any (Action.writesTo pin) <;> rfl

/-- What a run of actions notes about a pin: each conflict once. -/
theorem noted_foldl_observe (as : List Action) :
    (as.foldl (PinUse.observe explicit) ⟨explicit, []⟩).noted pin =
      (conflictMode? explicit as pin).toList.map fun mode => (pin, mode) := by
  induction as using List.reverseRecOn with
  | nil => rfl
  | append_singleton as a ih =>
      rw [List.foldl_append, List.foldl_cons, List.foldl_nil, conflictMode?_concat]
      cases ha : a.writesTo pin with
      | false => rw [PinUse.noted_observe_of_not_writesTo _ _ _ ha, ih, if_neg Bool.false_ne_true]
      | true =>
          -- the mode that a block sets has stayed, so it is the one that is noted
          have hstay : ∀ mode ∈ explicit.get? pin,
              (as.foldl (PinUse.observe explicit) ⟨explicit, []⟩).modes.get? pin = some mode := by
            intro mode hm
            rw [get?_modes_foldl_observe, Option.mem_def.1 hm, Option.some_or]
          rw [PinUse.observe_of_writesTo _ _ _ ha, PinUse.noted_write _ _ _ hstay, ih, if_pos rfl]
          split
          case isTrue => rfl
          case isFalse h =>
            rw [conflictMode?] at h ⊢
            split at h
            case isTrue hw => rw [if_pos hw]
            case isFalse => exact absurd rfl h

end Runs

/-! ### The table and its conflicts -/

section Table

variable (nodes : List Node) (as : List Action) (pin : Dyadic)

theorem isKeyed_modes_pinUse : (pinUse nodes as).modes.IsKeyed :=
  (PinUse.foldl_observe_of_perm (u := ⟨explicitPinModes nodes, []⟩) rfl
    (isKeyed_explicitPinModes nodes) (.refl _) as).1

theorem pairwise_pinTable : (pinTable nodes as).Pairwise fun a b => a.1 < b.1 :=
  pairwise_lt_mergeSort_key Prod.fst (isKeyed_modes_pinUse nodes as)

theorem mem_pinTable {mode : String} : (pin, mode) ∈ pinTable nodes as ↔
    (blockMode? nodes pin).or (inferredMode? as pin) = some mode := by
  rw [pinTable, (List.mergeSort_perm ..).mem_iff,
    ← PinModes.get?_eq_some_iff (isKeyed_modes_pinUse nodes as), ← get?_explicitPinModes]
  exact iff_of_eq (congrArg (· = some mode) (get?_modes_foldl_observe ..))

/-- A pin is at odds with its mode once at most. -/
theorem filter_pinConflicts : ((pinConflicts nodes as).filter fun pm => pm.1 = pin) =
    (conflictMode? (explicitPinModes nodes) as pin).toList.map fun mode => (pin, mode) :=
  noted_foldl_observe ..

end Table

/-! ### Statements that use a pin -/

/-- Whether some statement of a program, at any depth, writes to the pin. -/
def Program.Writes (p : Program) (pin : Dyadic) : Prop :=
  (∃ level, .action (.digitalWrite (.number pin) level) ∈ p.statements) ∨
    ∃ value, .action (.analogWrite (.number pin) value) ∈ p.statements

/-- Whether some statement of a program, at any depth, reads from the pin. -/
def Program.Reads (p : Program) (pin : Dyadic) : Prop :=
  ∃ name, .action (.digitalRead (.number pin) name) ∈ p.statements

section Statements

variable {p : Program} (hp : p.IsFinite) (pin : Dyadic)
include hp

/-- The actions that write to a pin are the statements that do. -/
theorem any_writesTo_iff : p.actions.any (Action.writesTo pin) = true ↔ p.Writes pin := by
  simp only [List.any_eq_true, Program.mem_actions]
  constructor
  · rintro ⟨a, ha, hw⟩
    cases a with
    | digitalWrite o level =>
        obtain ⟨x, rfl⟩ := hp.operands _ ha o (by simp [Statement.operands, Action.operands])
        obtain rfl := Option.some.inj (eq_of_beq hw)
        exact Or.inl ⟨level, ha⟩
    | analogWrite o value =>
        obtain ⟨x, rfl⟩ := hp.operands _ ha o (by simp [Statement.operands, Action.operands])
        obtain rfl := Option.some.inj (eq_of_beq hw)
        exact Or.inr ⟨value, ha⟩
    | _ => cases hw
  · rintro (⟨level, ha⟩ | ⟨value, ha⟩)
    · exact ⟨_, ha, beq_self_eq_true _⟩
    · exact ⟨_, ha, beq_self_eq_true _⟩

theorem any_readsFrom_iff : p.actions.any (Action.readsFrom pin) = true ↔ p.Reads pin := by
  simp only [List.any_eq_true, Program.mem_actions]
  constructor
  · rintro ⟨a, ha, hr⟩
    cases a with
    | digitalRead o name =>
        obtain ⟨x, rfl⟩ := hp.operands _ ha o (by simp [Statement.operands, Action.operands])
        obtain rfl := Option.some.inj (eq_of_beq hr)
        exact ⟨name, ha⟩
    | _ => cases hr
  · rintro ⟨name, ha⟩
    exact ⟨_, ha, beq_self_eq_true _⟩

theorem inferredMode?_eq_some_iff {mode : String} : inferredMode? p.actions pin = some mode ↔
    mode = "OUTPUT" ∧ p.Writes pin ∨ mode = "INPUT" ∧ ¬p.Writes pin ∧ p.Reads pin := by
  rw [inferredMode?, ← any_writesTo_iff hp, ← any_readsFrom_iff hp]
  cases p.actions.any (Action.writesTo pin) <;> cases p.actions.any (Action.readsFrom pin) <;>
    simp [eq_comm (a := mode)]

end Statements

/-- Whether a warning is about a write to the pin. -/
def Warning.isConflictOf (pin : Dyadic) : Warning → Bool
  | .pinConflict p _ => p = pin
  | _ => false

namespace Graph

variable (g : Graph)

/-- A pin is written to although the last block for it sets a mode other than that of an output. -/
def IsAtOdds (pin : Dyadic) (mode : String) : Prop :=
  g.build.Writes pin ∧ blockMode? g.nodes pin = some mode ∧ mode ≠ "OUTPUT"

theorem conflictMode?_build (pin : Dyadic) (mode : String) :
    conflictMode? (explicitPinModes g.nodes) g.build.actions pin = some mode ↔
      g.IsAtOdds pin mode := by
  rw [conflictMode?, get?_explicitPinModes, IsAtOdds, ← any_writesTo_iff g.isFinite_build]
  split
  case isTrue h => simp [h, Option.filter_eq_some_iff]
  case isFalse h => simp [h]

/-- The program warns of a pin that is at odds with its mode. -/
theorem filter_isConflictOf_build (pin : Dyadic) :
    g.build.warnings.filter (Warning.isConflictOf pin) =
      (conflictMode? (explicitPinModes g.nodes) g.build.actions pin).toList.map
        (Warning.pinConflict pin) := by
  have hconflict : g.build.warnings.filter (Warning.isConflictOf pin) =
      (g.build.warnings.filter Warning.isConflict).filter (Warning.isConflictOf pin) := by
    rw [List.filter_filter]
    refine List.filter_congr fun x _ => ?_
    cases x <;> simp [Warning.isConflictOf, Warning.isConflict]
  have hnames : (servoConflicts g.nodes g.build.actions).filter
      (Warning.isConflictOf pin ∘ Warning.servoConflict) = [] := by
    simp [Function.comp_def, Warning.isConflictOf]
  rw [hconflict, filter_isConflict_build, List.filter_append, List.filter_map, List.filter_map,
    hnames, List.map_nil, List.append_nil]
  exact (congrArg (List.map _) (filter_pinConflicts g.nodes g.build.actions pin)).trans List.map_map

theorem filter_isConflictOf_of_isAtOdds {pin : Dyadic} {mode : String}
    (h : g.IsAtOdds pin mode) :
    g.build.warnings.filter (Warning.isConflictOf pin) = [.pinConflict pin mode] := by
  rw [filter_isConflictOf_build, (g.conflictMode?_build pin mode).2 h]
  rfl

theorem filter_isConflictOf_of_not_isAtOdds {pin : Dyadic} (h : ∀ mode, ¬g.IsAtOdds pin mode) :
    g.build.warnings.filter (Warning.isConflictOf pin) = [] := by
  have hnone : conflictMode? (explicitPinModes g.nodes) g.build.actions pin = none :=
    Option.eq_none_iff_forall_ne_some.2 fun mode hm => h mode ((g.conflictMode?_build pin mode).1 hm)
  rw [filter_isConflictOf_build, hnone]
  rfl

/-- The message about a pin with an integer as its number is recorded once, or not at all. -/
theorem count_pinConflict (n : Int) (mode : String) :
    (g.build.warnings.map Warning.message).count (Warning.pinConflict (Dyadic.ofInt n) mode).message =
      if conflictMode? (explicitPinModes g.nodes) g.build.actions (Dyadic.ofInt n) = some mode then 1
      else 0 := by
  rw [Warning.count_message fun y => Warning.eq_pinConflict_of_message_eq,
    ← List.count_filter (p := Warning.isConflictOf (Dyadic.ofInt n)) (by simp [Warning.isConflictOf]),
    filter_isConflictOf_build]
  cases conflictMode? (explicitPinModes g.nodes) g.build.actions (Dyadic.ofInt n) with
  | none => rfl
  | some m => simp [List.count_singleton]

/-- **The modes of pins are determined** by the blocks and by the sets of pins that statements write to
and read from.  The table is sorted, and a pin has the mode that the last block sets for it; else it is
an output if it is written to, and an input if it is only read.  The program warns once of each pin that
is written to and whose block does not make it an output, and of no other. -/
theorem pinModes_determined :
    (∃ t : PinModes, g.build.pinModes = t.map (fun pm => (.number pm.1, pm.2)) ∧
      t.Pairwise (fun a b => a.1 < b.1) ∧
      ∀ pin mode, (pin, mode) ∈ t ↔
        blockMode? g.nodes pin = some mode ∨
        blockMode? g.nodes pin = none ∧ (mode = "OUTPUT" ∧ g.build.Writes pin ∨
          mode = "INPUT" ∧ ¬g.build.Writes pin ∧ g.build.Reads pin)) ∧
    (∀ pin mode, g.IsAtOdds pin mode →
      g.build.warnings.filter (Warning.isConflictOf pin) = [.pinConflict pin mode]) ∧
    (∀ pin, (∀ mode, ¬g.IsAtOdds pin mode) →
      g.build.warnings.filter (Warning.isConflictOf pin) = []) ∧
    (∀ (n : Int) (mode : String), g.IsAtOdds (Dyadic.ofInt n) mode →
      (g.build.warnings.map Warning.message).count
        ("Pin " ++ integerText n ++ " is written to but its Pin Mode block sets " ++ mode ++ ".") = 1) ∧
    ∀ (n : Int) (mode : String), ¬g.IsAtOdds (Dyadic.ofInt n) mode →
      (g.build.warnings.map Warning.message).count
        ("Pin " ++ integerText n ++ " is written to but its Pin Mode block sets " ++ mode ++ ".") = 0 := by
  refine ⟨⟨_, g.pinModes_build, pairwise_pinTable _ _, fun pin mode => ?_⟩,
    fun _ _ h => g.filter_isConflictOf_of_isAtOdds h,
    fun _ h => g.filter_isConflictOf_of_not_isAtOdds h, fun n mode h => ?_, fun n mode h => ?_⟩
  · rw [mem_pinTable, Option.or_eq_some_iff, inferredMode?_eq_some_iff g.isFinite_build]
  · rw [← numberText_ofInt]
    exact (g.count_pinConflict n mode).trans (if_pos ((g.conflictMode?_build _ _).2 h))
  · rw [← numberText_ofInt]
    exact (g.count_pinConflict n mode).trans (if_neg (mt (g.conflictMode?_build _ _).1 h))

/-- A bench with two blocks for pin 7, which is written to, a pin that is read and then written to, and
one that is only read. -/
def bench : Graph where
  nodes := [Node.create .setup "s" .null .null, Node.create .loop "l" .null .null,
    Node.create .pinMode "p" .null .null none [("pin", .int 7), ("mode", .string "OUTPUT")],
    Node.create .pinMode "q" .null .null none [("pin", .int 7), ("mode", .string "INPUT_PULLUP")],
    Node.create .digitalRead "a" .null .null none [("pin", .int 9)],
    Node.create .whileLoop "b" .null .null,
    Node.create .analogWrite "c" .null .null none [("pin", .int 9)],
    Node.create .digitalWrite "d" .null .null none [("pin", .int 7)],
    Node.create .digitalRead "e" .null .null none [("pin", .int 4)]]
  edges := [Edge.typed "l" "a" .body, Edge.typed "a" "b" .next, Edge.typed "b" "c" .body,
    Edge.typed "c" "d" .next, Edge.typed "b" "e" .next]

theorem bench_pinModes :
    (∃ t : PinModes, bench.build.pinModes = t.map (fun pm => (.number pm.1, pm.2)) ∧
      (4, "INPUT") ∈ t ∧ (7, "INPUT_PULLUP") ∈ t ∧ (9, "OUTPUT") ∈ t) ∧
    bench.build.warnings.filter (Warning.isConflictOf 7) = [.pinConflict 7 "INPUT_PULLUP"] ∧
    bench.build.warnings.filter (Warning.isConflictOf 9) = [] := by
  have h4 : bench.build.Reads 4 := ⟨"buttonState", Program.mem_actions.1 (by decide +kernel)⟩
  have h7 : bench.build.Writes 7 := Or.inl ⟨"HIGH", Program.mem_actions.1 (by decide +kernel)⟩
  have h9 : bench.build.Writes 9 := Or.inr ⟨"128", Program.mem_actions.1 (by decide +kernel)⟩
  have hfour : ¬bench.build.Writes 4 := by
    rw [← any_writesTo_iff bench.isFinite_build]
    decide +kernel
  have hseven : blockMode? bench.nodes 7 = some "INPUT_PULLUP" := by decide +kernel
  have hnone : blockMode? bench.nodes 4 = none ∧ blockMode? bench.nodes 9 = none := by
    decide +kernel
  obtain ⟨⟨t, ht, -, hmem⟩, hodds, hfine, -⟩ := bench.pinModes_determined
  refine ⟨⟨t, ht, (hmem 4 _).2 (Or.inr ⟨hnone.1, Or.inr ⟨rfl, hfour, h4⟩⟩),
    (hmem 7 _).2 (Or.inl hseven), (hmem 9 _).2 (Or.inr ⟨hnone.2, Or.inl ⟨rfl, h9⟩⟩)⟩,
    hodds 7 _ ⟨h7, hseven, by decide⟩, hfine 9 fun mode h => ?_⟩
  exact absurd (hnone.2.symm.trans h.2.1) (by simp)

end Graph

end BlockSketch
