/-
**What a sketch declares.**

A sketch declares every name that its program needs.  Variable blocks declare theirs, where of several
blocks with one name the first counts; a name that is assigned to without such a block is declared as an
integer.  Names of servos are declared as such, and a variable that has the name of a servo is not
declared a second time.

The two sources are merged in the order in which names come up and are then sorted.  Seen by name they
are simpler: the declaration of a variable is that of the first block with its name, else the one for a
name that is only assigned to.  As no name comes up twice, the sorted list says the same.

Main definitions:

* `BlockSketch.blockDeclaration?`, `BlockSketch.declarationFor?` — the declaration of a name;
* `BlockSketch.Graph.variableNames` — the names that are needed for variables;
* `BlockSketch.Program.Assigns`, `BlockSketch.Program.UsesServo`, `BlockSketch.Graph.DeclaresVariable` —
  the statements and blocks that need a name.

Main results:

* `BlockSketch.mem_explicitGlobals` — of several blocks with one name the first counts;
* `BlockSketch.mem_allGlobals` — the variables, seen by name;
* `BlockSketch.Graph.build_declares_names` — **a program declares the names that it needs, and no others**.
-/

import BlockSketch.Proofs.Conflicts
import BlockSketch.Proofs.StorageOrder

set_option relaxedAutoImplicit false
set_option autoImplicit false

namespace BlockSketch

/-! ### Declarations of blocks -/

/-- The declaration of the first variable block with a name. -/
def blockDeclaration? (nodes : List Node) (name : String) : Option Declaration :=
  (nodes.find? fun n => n.hasKind .global && n.declaredName == name).map Node.declaration

section Distinct

variable {ds : List Declaration} {d : Declaration}

/-- Of several declarations with one name the first is kept. -/
theorem mem_distinctNames :
    d ∈ distinctNames ds ↔ ds.find? (fun c => c.name == d.name) = some d := by
  induction ds with
  | nil => simp [distinctNames]
  | cons c ds ih =>
      rw [distinctNames, List.mem_cons, List.mem_filter, ih, List.find?_cons]
      by_cases hc : c.name = d.name
      · simp [hc, eq_comm]
      · have hne : d ≠ c := fun h => hc (congrArg Declaration.name h).symm
        simp [beq_eq_false_iff_ne.2 hc, hne, Ne.symm hc]

theorem nodup_names_distinctNames (ds : List Declaration) :
    ((distinctNames ds).map Declaration.name).Nodup := by
  induction ds with
  | nil => exact List.nodup_nil
  | cons c ds ih =>
      rw [distinctNames, List.map_cons, List.nodup_cons]
      refine ⟨fun hmem => ?_, ih.sublist (List.filter_sublist.map _)⟩
      obtain ⟨d, hd, hname⟩ := List.mem_map.1 hmem
      exact of_decide_eq_true (List.mem_filter.1 hd).2 hname

end Distinct

section Names

variable {nodes : List Node} {as : List Action} {name : String} {d : Declaration}

theorem find?_declared : (declared nodes).find? (fun c => c.name == name) =
    blockDeclaration? nodes name := by
  rw [declared_eq, List.find?_map, List.find?_filter, blockDeclaration?]
  simp only [Bool.decide_and, Bool.decide_eq_true]
  rfl

/-- Of several blocks with one name the first counts. -/
theorem mem_explicitGlobals :
    d ∈ explicitGlobals nodes ↔ blockDeclaration? nodes d.name = some d := by
  rw [← find?_declared]
  exact mem_distinctNames

theorem name_of_blockDeclaration? (h : blockDeclaration? nodes name = some d) : d.name = name := by
  rw [← find?_declared] at h
  simpa using List.find?_some h

/-- A name has a declaration if some block declares it. -/
theorem isSome_blockDeclaration? : (blockDeclaration? nodes name).isSome = true ↔
    name ∈ (nodes.filter fun n => n.hasKind .global).map Node.declaredName := by
  rw [blockDeclaration?, Option.isSome_map, List.find?_isSome]
  simp [and_assoc]

/-! ### All variables -/

/-- The declaration of a variable: that of a block, or that of a name which is only assigned to. -/
def declarationFor? (nodes : List Node) (as : List Action) (name : String) : Option Declaration :=
  (blockDeclaration? nodes name).or (if name ∈ assignedNames as then some { name := name } else none)

/-- A name that is assigned to is declared as an integer, unless a block declares it. -/
theorem mem_autoGlobals : d ∈ autoGlobals (explicitGlobals nodes) as ↔
    blockDeclaration? nodes d.name = none ∧ d.name ∈ assignedNames as ∧ { name := d.name } = d := by
  have hfree (x : String) : ((explicitGlobals nodes).any fun c => c.name == x) =
      (blockDeclaration? nodes x).isSome := by
    rw [Bool.eq_iff_iff, List.any_eq_true, Option.isSome_iff_exists]
    constructor
    · rintro ⟨c, hc, hname⟩
      obtain rfl : c.name = x := beq_iff_eq.1 hname
      exact ⟨c, mem_explicitGlobals.1 hc⟩
    · rintro ⟨c, hc⟩
      obtain rfl := name_of_blockDeclaration? hc
      exact ⟨c, mem_explicitGlobals.2 hc, beq_self_eq_true _⟩
  simp only [autoGlobals, List.mem_map, List.mem_filter, mem_distinct, hfree]
  constructor
  · rintro ⟨x, ⟨hx, hnone⟩, rfl⟩
    exact ⟨by simpa using hnone, hx, rfl⟩
  · rintro ⟨hnone, hx, hd⟩
    exact ⟨d.name, ⟨hx, by simp [hnone]⟩, hd⟩

/-- The variables, seen by name. -/
theorem mem_allGlobals : d ∈ allGlobals nodes as ↔ declarationFor? nodes as d.name = some d := by
  rw [allGlobals, List.mem_mergeSort, List.mem_append, mem_explicitGlobals, mem_autoGlobals,
    declarationFor?]
  cases blockDeclaration? nodes d.name with
  | some c => simp
  | none => by_cases hx : d.name ∈ assignedNames as <;> simp [hx]

theorem eq_of_declarationFor? (h : declarationFor? nodes as name = some d) :
    d = (blockDeclaration? nodes name).getD { name := name } := by
  rw [declarationFor?] at h
  cases hb : blockDeclaration? nodes name with
  | some c =>
      rw [hb] at h
      exact (Option.some.inj h).symm
  | none =>
      rw [hb, Option.none_or] at h
      split at h
      · exact (Option.some.inj h).symm
      · cases h

theorem name_of_declarationFor? (h : declarationFor? nodes as name = some d) : d.name = name := by
  rw [eq_of_declarationFor? h]
  cases hb : blockDeclaration? nodes name with
  | some c => exact name_of_blockDeclaration? hb
  | none => rfl

/-- The names of the variables are those that blocks declare and those that are assigned to. -/
theorem mem_names_allGlobals : name ∈ (allGlobals nodes as).map Declaration.name ↔
    name ∈ (nodes.filter fun n => n.hasKind .global).map Node.declaredName ++ assignedNames as := by
  have hsome : name ∈ (allGlobals nodes as).map Declaration.name ↔
      (declarationFor? nodes as name).isSome = true := by
    rw [List.mem_map, Option.isSome_iff_exists]
    constructor
    · rintro ⟨d, hd, rfl⟩
      exact ⟨d, mem_allGlobals.1 hd⟩
    · rintro ⟨d, hd⟩
      obtain rfl := name_of_declarationFor? hd
      exact ⟨d, mem_allGlobals.2 hd, rfl⟩
  rw [hsome, declarationFor?, Option.isSome_or, Bool.or_eq_true, isSome_blockDeclaration?,
    List.mem_append]
  simp

theorem pairwise_allGlobals (nodes : List Node) (as : List Action) :
    (allGlobals nodes as).Pairwise fun a b => a.name < b.name :=
  pairwise_lt_mergeSort_key Declaration.name
    (nodup_names_append as (nodup_names_distinctNames (declared nodes)))

end Names

/-! ### Servos -/

section Servos

variable (nodes : List Node) (as : List Action)

theorem mem_servoTable {name : String} :
    name ∈ servoTable as ↔ ∃ a ∈ as, a.servo? = some name := by
  rw [servoTable, List.mem_mergeSort, mem_distinct, List.mem_filterMap]

theorem pairwise_servoTable : (servoTable as).Pairwise (· < ·) :=
  pairwise_lt_mergeSort_key id ((List.map_id _).symm ▸ nodup_distinct _)

theorem names_globalTable : (globalTable nodes as).map Declaration.name =
    ((allGlobals nodes as).map Declaration.name).filter fun name => name ∉ servoTable as := by
  rw [List.filter_map]
  rfl

theorem servoConflicts_eq : servoConflicts nodes as =
    ((allGlobals nodes as).map Declaration.name).filter fun name => name ∈ servoTable as := by
  rw [List.filter_map]
  rfl

/-- A name that is used both ways is one conflict. -/
theorem nodup_servoConflicts : (servoConflicts nodes as).Nodup := by
  have hnames : ((allGlobals nodes as).map Declaration.name).Nodup :=
    List.pairwise_map.2 ((pairwise_allGlobals nodes as).imp Std.ne_of_lt)
  rw [servoConflicts_eq]
  exact hnames.filter _

end Servos

/-! ### The names of a program -/

namespace Graph

variable (g : Graph)

/-- The names that are needed for variables: those that blocks declare, and those that are assigned
to. -/
def variableNames : List String :=
  (g.nodes.filter fun n => n.hasKind .global).map Node.declaredName ++ assignedNames g.build.actions

variable {g} {name : String}

theorem mem_servos : name ∈ g.build.servos ↔ ∃ a ∈ g.build.actions, a.servo? = some name := by
  rw [servos_build]
  exact mem_servoTable _

theorem pairwise_servos (g : Graph) : g.build.servos.Pairwise (· < ·) := by
  rw [servos_build]
  exact pairwise_servoTable _

theorem mem_globals {d : Declaration} : d ∈ g.build.globals ↔
    declarationFor? g.nodes g.build.actions d.name = some d ∧ d.name ∉ g.build.servos := by
  rw [globals_build, servos_build, globalTable, List.mem_filter, mem_allGlobals, decide_eq_true_eq]

theorem pairwise_globals (g : Graph) : g.build.globals.Pairwise fun a b => a.name < b.name := by
  rw [globals_build]
  exact (pairwise_allGlobals _ _).filter _

theorem mem_names_globals : name ∈ g.build.globals.map Declaration.name ↔
    name ∈ g.variableNames ∧ name ∉ g.build.servos := by
  rw [globals_build, servos_build, names_globalTable, List.mem_filter, mem_names_allGlobals,
    decide_eq_true_eq, variableNames]

/-- Each name that is used as a servo and as a variable is reported once, and no other. -/
theorem count_servoConflict (g : Graph) (name : String) :
    (g.build.warnings.map Warning.message).count (Warning.servoConflict name).message =
      if name ∈ g.variableNames ∧ name ∈ g.build.servos then 1 else 0 := by
  have hpins : ((pinConflicts g.nodes g.build.actions).map fun pm =>
      Warning.pinConflict pm.1 pm.2).count (.servoConflict name) = 0 := by
    rw [List.count_eq_zero, List.mem_map]
    rintro ⟨pm, -, hpm⟩
    cases hpm
  have hmem : name ∈ servoConflicts g.nodes g.build.actions ↔
      name ∈ g.variableNames ∧ name ∈ g.build.servos := by
    rw [servoConflicts_eq, List.mem_filter, mem_names_allGlobals, decide_eq_true_eq, servos_build,
      variableNames]
  rw [Warning.count_message fun y => Warning.eq_of_message_eq rfl,
    ← List.count_filter (p := Warning.isConflict) rfl, filter_isConflict_build, List.count_append,
    hpins, List.count_map_of_injective _ _ (fun _ _ => Warning.servoConflict.inj),
    (nodup_servoConflicts _ _).count, Nat.zero_add, if_congr hmem rfl rfl]

end Graph

/-! ### Statements that need a name -/

/-- Whether some statement of a program, at any depth, assigns to the name, which is not empty; outer
blanks do not count. -/
def Program.Assigns (p : Program) (name : String) : Prop :=
  name ≠ "" ∧ ∃ target, Text.trim target = name ∧
    ((∃ value, .action (.assign target value) ∈ p.statements) ∨
      (∃ delta, .action (.change target delta) ∈ p.statements) ∨
      (∃ left op right, .action (.arithmetic target left op right) ∈ p.statements) ∨
      (∃ low high, .action (.random target low high) ∈ p.statements) ∨
      (∃ pin, .action (.digitalRead pin target) ∈ p.statements) ∨
      ∃ pin, .action (.analogRead pin target) ∈ p.statements)

/-- Whether some statement of a program, at any depth, uses the name as that of a servo. -/
def Program.UsesServo (p : Program) (name : String) : Prop :=
  (∃ pin, .action (.servoAttach name pin) ∈ p.statements) ∨
    ∃ angle, .action (.servoWrite name angle) ∈ p.statements

namespace Program

variable {p : Program} {name : String}

theorem mem_assignedNames : name ∈ assignedNames p.actions ↔ p.Assigns name := by
  have hbind (a : Action) : (a.assigned?.bind fun t => nonEmpty? (Text.trim t)) = some name ↔
      name ≠ "" ∧ ∃ target, Text.trim target = name ∧ a.assigned? = some target := by
    rw [Option.bind_eq_some_iff]
    constructor
    · rintro ⟨target, ha, ht⟩
      rw [nonEmpty?] at ht
      split at ht
      case isTrue => cases ht
      case isFalse hne =>
        obtain rfl := Option.some.inj ht
        exact ⟨hne, target, rfl, ha⟩
    · rintro ⟨hne, target, rfl, ha⟩
      exact ⟨target, ha, if_neg hne⟩
  simp only [assignedNames, List.mem_filterMap, hbind, mem_actions, Assigns]
  constructor
  · rintro ⟨a, ha, hne, target, htrim, htarget⟩
    refine ⟨hne, target, htrim, ?_⟩
    cases a with
    | assign | change | arithmetic | random | digitalRead | analogRead =>
        obtain rfl := Option.some.inj htarget
        grind
    | _ => cases htarget
  · rintro ⟨hne, target, htrim, h⟩
    rcases h with ⟨_, h⟩ | ⟨_, h⟩ | ⟨_, _, _, h⟩ | ⟨_, _, h⟩ | ⟨_, h⟩ | ⟨_, h⟩
    all_goals exact ⟨_, h, hne, target, htrim, rfl⟩

theorem exists_servo?_iff : (∃ a ∈ p.actions, a.servo? = some name) ↔ p.UsesServo name := by
  simp only [mem_actions]
  constructor
  · rintro ⟨a, ha, hname⟩
    cases a with
    | servoAttach _ pin =>
        obtain rfl := Option.some.inj hname
        exact Or.inl ⟨pin, ha⟩
    | servoWrite _ angle =>
        obtain rfl := Option.some.inj hname
        exact Or.inr ⟨angle, ha⟩
    | _ => cases hname
  · rintro (⟨_, ha⟩ | ⟨_, ha⟩)
    · exact ⟨_, ha, rfl⟩
    · exact ⟨_, ha, rfl⟩

end Program

namespace Graph

/-- Whether some variable block has the name, without outer blanks; a block without a name has that of
the catalog. -/
def DeclaresVariable (g : Graph) (name : String) : Prop :=
  ∃ n ∈ g.nodes, n.kind? = some .global ∧
    name = if Text.trim (Fields.text n.params "name" "value") = "" then "value"
      else Text.trim (Fields.text n.params "name" "value")

variable {g : Graph} {name : String}

theorem mem_variableNames :
    name ∈ g.variableNames ↔ g.DeclaresVariable name ∨ g.build.Assigns name := by
  have hname (n : Node) : n.declaredName =
      if Text.trim (Fields.text n.params "name" "value") = "" then "value"
      else Text.trim (Fields.text n.params "name" "value") := by
    rw [Node.declaredName, trimmedOr, nonEmpty?]
    split <;> rfl
  rw [variableNames, List.mem_append, Program.mem_assignedNames, List.mem_map, DeclaresVariable]
  simp only [List.mem_filter, Node.hasKind, beq_iff_eq, and_assoc, hname, eq_comm (a := name)]

theorem mem_servos_build : name ∈ g.build.servos ↔ g.build.UsesServo name := by
  rw [mem_servos, Program.exists_servo?_iff]

/-- **A program declares the names that it needs, and no others.**  Servos are sorted, and so are the
variables, which are the names that blocks declare or statements assign to, without those of servos.  A
variable is declared as the first block with its name says, or as an integer.  The program warns once of
each name that is needed both ways.  So every name that is assigned to is declared. -/
theorem build_declares_names (g : Graph) :
    (g.build.servos.Pairwise (· < ·) ∧ ∀ name, name ∈ g.build.servos ↔ g.build.UsesServo name) ∧
    (g.build.globals.Pairwise (fun a b => a.name < b.name) ∧
      (∀ name, name ∈ g.build.globals.map Declaration.name ↔
        (g.DeclaresVariable name ∨ g.build.Assigns name) ∧ ¬g.build.UsesServo name) ∧
      ∀ d ∈ g.build.globals, d = (blockDeclaration? g.nodes d.name).getD
        { name := d.name, type := "int", value := "0" }) ∧
    (∀ name, (g.DeclaresVariable name ∨ g.build.Assigns name) ∧ g.build.UsesServo name →
      (g.build.warnings.map Warning.message).count ("\"" ++ name ++
        "\" is used as a servo and as a variable; keeping the Servo declaration.") = 1) ∧
    (∀ name, ¬((g.DeclaresVariable name ∨ g.build.Assigns name) ∧ g.build.UsesServo name) →
      (g.build.warnings.map Warning.message).count ("\"" ++ name ++
        "\" is used as a servo and as a variable; keeping the Servo declaration.") = 0) ∧
    ∀ name, g.build.Assigns name →
      name ∈ g.build.servos ∨ name ∈ g.build.globals.map Declaration.name := by
  simp only [← mem_variableNames, ← mem_servos_build]
  refine ⟨⟨g.pairwise_servos, fun _ => trivial⟩,
    ⟨g.pairwise_globals, fun name => mem_names_globals, ?_⟩,
    fun name h => (g.count_servoConflict name).trans (if_pos h),
    fun name h => (g.count_servoConflict name).trans (if_neg h), ?_⟩
  · intro d hd
    exact eq_of_declarationFor? (mem_globals.1 hd).1
  · intro name hname
    by_cases hservo : name ∈ g.build.servos
    · exact Or.inl hservo
    · exact Or.inr (mem_names_globals.2 ⟨mem_variableNames.2 (Or.inr hname), hservo⟩)

/-- A crane with two blocks for one variable, names that are assigned to in a loop, and a servo that is
assigned to as well. -/
def crane : Graph where
  nodes := [Node.create .setup "s" .null .null, Node.create .loop "l" .null .null,
    Node.create .global "v" .null .null none
      [("name", .string " load "), ("varType", .string "long"), ("value", .string "5")],
    Node.create .global "w" .null .null none [("name", .string "load")],
    Node.create .servoAttach "a" .null .null none [("variable", .string "arm")],
    Node.create .whileLoop "b" .null .null,
    Node.create .change "c" .null .null none [("name", .string " turns ")],
    Node.create .assign "d" .null .null none [("name", .string "arm")]]
  edges := [Edge.typed "s" "a" .body, Edge.typed "l" "b" .body, Edge.typed "b" "c" .body,
    Edge.typed "b" "d" .next]

theorem crane_declares : "arm" ∈ crane.build.servos ∧
    (⟨"load", "long", "5"⟩ ∈ crane.build.globals ∧ ⟨"turns", "int", "0"⟩ ∈ crane.build.globals ∧
      "arm" ∉ crane.build.globals.map Declaration.name) ∧
    (crane.build.warnings.map Warning.message).count
      "\"arm\" is used as a servo and as a variable; keeping the Servo declaration." = 1 := by
  have harm : crane.build.UsesServo "arm" :=
    Or.inl ⟨.number 9, Program.mem_actions.1 (by decide +kernel)⟩
  have hassigned : crane.build.Assigns "arm" :=
    ⟨by decide, "arm", by decide, Or.inl ⟨"0", Program.mem_actions.1 (by decide +kernel)⟩⟩
  have hturns : crane.build.Assigns "turns" :=
    ⟨by decide, " turns ", by decide, Or.inr (Or.inl ⟨.number 1,
      Program.mem_actions.1 (by decide +kernel)⟩)⟩
  have hload : crane.DeclaresVariable "load" :=
    ⟨_, List.mem_of_getElem? (i := 2) rfl, by decide +kernel, by decide +kernel⟩
  have hfree : ¬crane.build.UsesServo "load" ∧ ¬crane.build.UsesServo "turns" := by
    rw [← Program.exists_servo?_iff, ← Program.exists_servo?_iff]
    decide +kernel
  have hblocks : blockDeclaration? crane.nodes "load" = some ⟨"load", "long", "5"⟩ ∧
      blockDeclaration? crane.nodes "turns" = none := by
    decide +kernel
  obtain ⟨⟨-, hservos⟩, ⟨-, hnames, hglobals⟩, hwarn, -, -⟩ := crane.build_declares_names
  -- a name that is declared has the declaration that it should have
  have hdeclared (name : String) (h : name ∈ crane.build.globals.map Declaration.name) :
      (blockDeclaration? crane.nodes name).getD ⟨name, "int", "0"⟩ ∈ crane.build.globals := by
    obtain ⟨d, hd, rfl⟩ := List.mem_map.1 h
    rw [← hglobals d hd]
    exact hd
  have hone := hdeclared _ ((hnames _).2 ⟨Or.inl hload, hfree.1⟩)
  have htwo := hdeclared _ ((hnames _).2 ⟨Or.inr hturns, hfree.2⟩)
  rw [hblocks.1] at hone
  rw [hblocks.2] at htwo
  exact ⟨(hservos _).2 harm, ⟨hone, htwo, fun h => ((hnames _).1 h).2 harm⟩,
    hwarn "arm" ⟨Or.inr hassigned, harm⟩⟩

end Graph

end BlockSketch
