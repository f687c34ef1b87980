/-
**Declared identifiers.**

The compiler of a sketch does not see the blanks around a name, so two declared names are one identifier
if they are the same without outer blanks.  Names of variables are trimmed when they are collected.  Names
of servos are not: they are declared as they are written in the blocks, and compared so with those of the
variables.  A servo with a *padded* name can therefore be declared next to a variable or to another
servo of the same identifier.

This is the only way in which an identifier is declared twice.

Main definitions:

* `BlockSketch.Program.declaredNames` — the names that a sketch declares;
* `BlockSketch.Graph.IsDoubled` — a padded servo is the same identifier as something else.

Main results:

* `BlockSketch.Graph.trim_of_mem_variableNames` — names of variables have no outer blanks;
* `BlockSketch.Graph.identifiers_distinct_iff` — **the declared identifiers are distinct exactly if no
  padded servo is the same identifier as a variable or another servo**.
-/

import BlockSketch.Proofs.Declarations
import BlockSketch.Proofs.Scanning

set_option relaxedAutoImplicit false
set_option autoImplicit false

namespace BlockSketch

/-- The names that the sketch of a program declares: servos, then variables. -/
def Program.declaredNames (p : Program) : List String :=
  p.servos ++ p.globals.map Declaration.name

/-! ### Names of variables -/

theorem trim_of_nonEmpty?_trim {s name : String} (h : nonEmpty? (Text.trim s) = some name) :
    Text.trim name = name := by
  unfold nonEmpty? at h
  split at h
  · cases h
  · rw [← Option.some.inj h, Text.trim_trim]

theorem Node.trim_declaredName (n : Node) : Text.trim n.declaredName = n.declaredName := by
  rw [declaredName, trimmedOr]
  cases h : nonEmpty? (Text.trim (Fields.text n.params "name" "value")) with
  | some name => exact trim_of_nonEmpty?_trim h
  | none => decide

namespace Graph

variable {g : Graph}

/-- Names of variables have no outer blanks. -/
theorem trim_of_mem_variableNames {name : String} (h : name ∈ g.variableNames) :
    Text.trim name = name := by
  rcases List.mem_append.1 h with h | h
  · obtain ⟨n, -, rfl⟩ := List.mem_map.1 h
    exact n.trim_declaredName
  · obtain ⟨a, -, ha⟩ := List.mem_filterMap.1 h
    obtain ⟨s, -, hs⟩ := Option.bind_eq_some_iff.1 ha
    exact trim_of_nonEmpty?_trim hs

/-! ### Identifiers -/

/-- A servo has a padded name and is the same identifier as a variable or as another servo. -/
def IsDoubled (g : Graph) (s : String) : Prop :=
  Text.trim s ≠ s ∧
    (Text.trim s ∈ g.variableNames ∨ ∃ t ∈ g.build.servos, t ≠ s ∧ Text.trim t = Text.trim s)

theorem nodup_servos (g : Graph) : g.build.servos.Nodup :=
  g.pairwise_servos.imp Std.ne_of_lt

theorem nodup_names_globals (g : Graph) : (g.build.globals.map Declaration.name).Nodup :=
  List.pairwise_map.2 (g.pairwise_globals.imp Std.ne_of_lt)

theorem trim_names_globals (g : Graph) : (g.build.globals.map Declaration.name).map Text.trim =
    g.build.globals.map Declaration.name := by
  have htrim : ∀ name ∈ g.build.globals.map Declaration.name, Text.trim name = name := by
    intro name hname
    exact trim_of_mem_variableNames (mem_names_globals.1 hname).1
  exact (List.map_congr_left htrim).trans (List.map_id _)

/-- Identifiers are distinct if no two servos share one, and no servo shares one with a variable. -/
theorem nodup_identifiers_iff (g : Graph) : (g.build.declaredNames.map Text.trim).Nodup ↔
    (∀ s ∈ g.build.servos, ∀ t ∈ g.build.servos, Text.trim s = Text.trim t → s = t) ∧
      ∀ s ∈ g.build.servos, Text.trim s ∉ g.build.globals.map Declaration.name := by
  rw [Program.declaredNames, List.map_append, trim_names_globals, List.nodup_append,
    List.nodup_map_iff_inj_on g.nodup_servos]
  constructor
  · rintro ⟨hinj, -, hapart⟩
    exact ⟨hinj, fun s hs hmem => hapart _ (List.mem_map_of_mem hs) _ hmem rfl⟩
  · rintro ⟨hinj, hapart⟩
    refine ⟨hinj, g.nodup_names_globals, ?_⟩
    rintro _ hs name hname rfl
    obtain ⟨s, hs, hsname⟩ := List.mem_map.1 hs
    exact hapart s hs (hsname ▸ hname)

/-- **The declared identifiers are distinct exactly if no servo is doubled**, that is, has a padded name
and is the same identifier as a variable or as another servo. -/
theorem identifiers_distinct_iff (g : Graph) : (g.build.declaredNames.map Text.trim).Nodup ↔
    ∀ s ∈ g.build.servos, ¬g.IsDoubled s := by
  rw [nodup_identifiers_iff]
  constructor
  · rintro ⟨hinj, hapart⟩ s hs ⟨hpadded, hvariable | ⟨t, ht, hne, htrim⟩⟩
    · -- the trimmed name is that of a servo too, since it is not declared as a variable
      have hservo : Text.trim s ∈ g.build.servos := by
        by_contra hnot
        exact hapart s hs (mem_names_globals.2 ⟨hvariable, hnot⟩)
      exact hpadded (hinj _ hservo s hs (Text.trim_trim s))
    · exact hne (hinj t ht s hs htrim)
  · intro hfree
    refine ⟨fun s hs t ht htrim => ?_, fun s hs hmem => ?_⟩
    · by_contra hne
      -- one of two different names with the same identifier is padded
      by_cases hpadded : Text.trim s = s
      · have hpadded' : Text.trim t ≠ t := fun h => hne (hpadded.symm.trans (htrim.trans h))
        exact hfree t ht ⟨hpadded', Or.inr ⟨s, hs, hne, htrim⟩⟩
      · exact hfree s hs ⟨hpadded, Or.inr ⟨t, ht, Ne.symm hne, htrim.symm⟩⟩
    · obtain ⟨hvariable, hnot⟩ := mem_names_globals.1 hmem
      have hpadded : Text.trim s ≠ s := fun h => hnot (h.symm ▸ hs)
      exact hfree s hs ⟨hpadded, Or.inl hvariable⟩

/-- A variable block, and a servo whose name is that of the variable with a blank after it. -/
def padded : Graph where
  nodes := [Node.create .setup "s" .null .null, Node.create .loop "l" .null .null,
    Node.create .global "v" .null .null none [("name", .string "arm")],
    Node.create .servoWrite "w" .null .null none [("variable", .string "arm ")]]
  edges := [Edge.typed "l" "w" .body]

/-- The name of the servo is not that of the variable, and the sketch declares both. -/
theorem padded_names : padded.build.declaredNames = ["arm ", "arm"] ∧
    ¬(padded.build.declaredNames.map Text.trim).Nodup ∧
    ∃ s, padded.build.sketch? = .ok s ∧
      "#include <Servo.h>\n\nServo arm ;\nint arm = 0;\n".toList <+: s.toList := by
  refine ⟨by decide +kernel, by decide +kernel, _, padded.isFinite_build.sketch?_eq, ?_⟩
  decide +kernel

end Graph

end BlockSketch
