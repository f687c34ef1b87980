/-
**Declarations and pin modes.**

What a sketch has to declare follows from the declaration blocks and from the statements: every name
that is assigned becomes a variable, every name that is used as a servo becomes one, and every pin
that is written to or read from gets a mode.

Main definitions:

* `BlockSketch.explicitGlobals`, `BlockSketch.explicitPinModes` — what declaration blocks say;
* `BlockSketch.globalTable`, `BlockSketch.servoTable`, `BlockSketch.pinTable` — the tables of a
  sketch, sorted by name and by pin;
* `BlockSketch.PinUse.observe`, `BlockSketch.pinUse` — what one action and all actions say of the pins;
* `BlockSketch.pinConflicts`, `BlockSketch.servoConflicts` — where two of them disagree.
-/

import BlockSketch.Program.Walk

set_option relaxedAutoImplicit false
set_option autoImplicit false

namespace BlockSketch

/-- The items of a list, each at its first place only. -/
def distinct {α : Type} [DecidableEq α] : List α → List α
  | [] => []
  | x :: xs => x :: (distinct xs).filter (· ≠ x)

/-- The declarations of a list, the first of each name only. -/
def distinctNames : List Declaration → List Declaration
  | [] => []
  | d :: ds => d :: (distinctNames ds).filter (·.name ≠ d.name)

/-! ### Variables -/

/-- A text without outer blanks, or the fallback if nothing is left. -/
def trimmedOr (s fallback : String) : String :=
  (nonEmpty? (Text.trim s)).getD fallback

/-- A text parameter without outer blanks; the catalog's one if nothing is left. -/
def trimmedParam? (k : Kind) (ps : Fields) (key : String) : Option String :=
  ((Catalog.default? k key).bind Value.string?).map fun d => trimmedOr (Fields.text ps key d) d

/-- The declaration that a variable block makes. -/
def declarationOf? (ps : Fields) : Option Declaration := do
  let name ← trimmedParam? .global ps "name"
  let type ← trimmedParam? .global ps "varType"
  return { name := name, type := type, value := Fields.expression ps "value" "0" }

/-- The declarations of the variable blocks; of several with one name the first counts. -/
def explicitGlobals (nodes : List Node) : List Declaration :=
  distinctNames
    ((nodes.filter fun n => n.hasKind .global).filterMap fun n => declarationOf? n.params)

/-- The name that an action assigns to. -/
def Action.assigned? : Action → Option String
  | .assign name _ => some name
  | .change name _ => some name
  | .arithmetic target _ _ _ => some target
  | .random target _ _ => some target
  | .digitalRead _ name => some name
  | .analogRead _ name => some name
  | _ => none

/-- The names that actions assign to, without outer blanks and without the empty one. -/
def assignedNames (as : List Action) : List String :=
  as.filterMap fun a => a.assigned?.bind fun name => nonEmpty? (Text.trim name)

/-- The variables that are assigned and not declared by a block. -/
def autoGlobals (explicit : List Declaration) (as : List Action) : List Declaration :=
  ((distinct (assignedNames as)).filter fun name => !explicit.any fun d => d.name == name).map
    fun name => { name := name }

/-- Every variable, sorted by name. -/
def allGlobals (nodes : List Node) (as : List Action) : List Declaration :=
  let explicit := explicitGlobals nodes
  (explicit ++ autoGlobals explicit as).mergeSort fun a b => a.name ≤ b.name

/-! ### Servos -/

/-- The servo that an action uses. -/
def Action.servo? : Action → Option String
  | .servoAttach name _ => some name
  | .servoWrite name _ => some name
  | _ => none

/-- The servos of a sketch, sorted by name. -/
def servoTable (as : List Action) : List String :=
  (distinct (as.filterMap Action.servo?)).mergeSort fun a b => a ≤ b

/-- The variables of a sketch: a name that is used as a servo is none. -/
def globalTable (nodes : List Node) (as : List Action) : List Declaration :=
  (allGlobals nodes as).filter fun d => d.name ∉ servoTable as

/-- The names that are used both as a servo and as a variable. -/
def servoConflicts (nodes : List Node) (as : List Action) : List String :=
  ((allGlobals nodes as).filter fun d => d.name ∈ servoTable as).map Declaration.name

/-! ### Pins -/

/-- Modes of pins. -/
abbrev PinModes := List (Dyadic × String)

/-- Gives a pin a mode: at its place, or at the end if it has none. -/
def PinModes.set : PinModes → Dyadic → String → PinModes
  | [], pin, mode => [(pin, mode)]
  | (p, m) :: t, pin, mode => if p = pin then (p, mode) :: t else (p, m) :: PinModes.set t pin mode

/-- The mode of a pin. -/
def PinModes.get? (t : PinModes) (pin : Dyadic) : Option String :=
  List.lookup pin t

/-- The modes that a block may set. -/
def pinModeNames : List String :=
  ["INPUT", "OUTPUT", "INPUT_PULLUP"]

/-- The pin and mode that a pin mode block sets, if both are valid. -/
def pinModeOf? (ps : Fields) : Option (Dyadic × String) := do
  let pin ← (Fields.get? ps "pin").bind Value.number?
  let mode := Fields.text ps "mode" "INPUT"
  if mode ∈ pinModeNames then return (pin, mode) else none

/-- The modes that blocks set; of several for one pin the last counts. -/
def explicitPinModes (nodes : List Node) : PinModes :=
  ((nodes.filter fun n => n.hasKind .pinMode).filterMap fun n => pinModeOf? n.params).foldl
    (fun t pm => t.set pm.1 pm.2) []

/-- What is known of the pins while the actions are gone through: the mode of each, and the pins that
are written to although a block sets another mode, each with that mode. -/
structure PinUse where
  modes : PinModes
  conflicts : PinModes := []

namespace PinUse

/-- A write makes its pin an output, unless a block has set a mode for it.  If that is not the mode of
an output there is a conflict, which is noted once. -/
def write (explicit : PinModes) (u : PinUse) (pin : Dyadic) : PinUse :=
  if (explicit.get? pin).isNone then { u with modes := u.modes.set pin "OUTPUT" }
  else
    match u.modes.get? pin with
    | some mode =>
      if mode ≠ "OUTPUT" ∧ (u.conflicts.get? pin).isNone then
        { u with conflicts := u.conflicts ++ [(pin, mode)] }
      else u
    | none => u

/-- A read makes its pin an input if it has no mode yet. -/
def read (u : PinUse) (pin : Dyadic) : PinUse :=
  if (u.modes.get? pin).isSome then u else { u with modes := u.modes.set pin "INPUT" }

/-- What is known after an action. -/
def observe (explicit : PinModes) (u : PinUse) : Action → PinUse
  | .digitalWrite pin _ => pin.number?.elim u (u.write explicit)
  | .analogWrite pin _ => pin.number?.elim u (u.write explicit)
  | .digitalRead pin _ => pin.number?.elim u u.read
  | _ => u

end PinUse

/-- Goes through the actions, from the modes that blocks set. -/
def pinUse (nodes : List Node) (as : List Action) : PinUse :=
  let explicit := explicitPinModes nodes
  as.foldl (PinUse.observe explicit) { modes := explicit }

/-- The modes of all pins, sorted by pin. -/
def pinTable (nodes : List Node) (as : List Action) : PinModes :=
  (pinUse nodes as).modes.mergeSort fun a b => a.1 ≤ b.1

/-- The pins that are written to although a block sets another mode, each with that mode. -/
def pinConflicts (nodes : List Node) (as : List Action) : PinModes :=
  (pinUse nodes as).conflicts

end BlockSketch
