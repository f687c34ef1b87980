/-
**Kinds of blocks and the slots that join them.**

A block carries a tag that names its kind.  Two kinds are roots, where a program starts; two are
declarations, which stand apart from the program's flow; four are containers, which hold other
blocks; one closes a container in linear graphs; all others are actions.

A link leaves its source block by one of three slots: to the block that follows it, to the first
block of its body, or to the first block of its other branch.

Main definitions:

* `BlockSketch.Kind`, with `tag`, `ofTag?` and the classes `isRoot`, `isDeclaration`,
  `isContainer`;
* `BlockSketch.Slot`, with `tag` and `ofTag?`.

Main results:

* `BlockSketch.Kind.ofTag?_tag`, `BlockSketch.Slot.ofTag?_tag` — a tag names its kind or slot;
* `BlockSketch.Kind.tag_of_ofTag?`, `BlockSketch.Slot.tag_of_ofTag?` — and nothing else.
-/

set_option relaxedAutoImplicit false
set_option autoImplicit false

namespace BlockSketch

/-- The kinds of blocks. -/
inductive Kind where
  | setup
  | loop
  | global
  | pinMode
  | comment
  | delay
  | digitalWrite
  | digitalRead
  | analogWrite
  | analogRead
  | servoAttach
  | servoWrite
  | assign
  | change
  | arithmetic
  | random
  | serialBegin
  | serialPrint
  | serialPrintValue
  | ifThen
  | ifElse
  | forLoop
  | whileLoop
  | endBlock
  deriving DecidableEq, Repr

namespace Kind

/-- The tag of a kind in editor state. -/
def tag : Kind → String
  | .setup => "setup"
  | .loop => "loop"
  | .global => "variable"
  | .pinMode => "pin_mode"
  | .comment => "comment"
  | .delay => "delay"
  | .digitalWrite => "digital_write"
  | .digitalRead => "digital_read"
  | .analogWrite => "analog_write"
  | .analogRead => "analog_read"
  | .servoAttach => "servo_attach"
  | .servoWrite => "servo_write"
  | .assign => "variable_set"
  | .change => "variable_change"
  | .arithmetic => "math_set"
  | .random => "math_random"
  | .serialBegin => "serial_begin"
  | .serialPrint => "serial_print"
  | .serialPrintValue => "serial_print_value"
  | .ifThen => "if_condition"
  | .ifElse => "if_else"
  | .forLoop => "for_loop"
  | .whileLoop => "while_loop"
  | .endBlock => "end_block"

/-- Every kind. -/
def all : List Kind :=
  [.setup, .loop, .global, .pinMode, .comment, .delay, .digitalWrite, .digitalRead, .analogWrite,
   .analogRead, .servoAttach, .servoWrite, .assign, .change, .arithmetic, .random, .serialBegin,
   .serialPrint, .serialPrintValue, .ifThen, .ifElse, .forLoop, .whileLoop, .endBlock]

/-- The kind that a tag names. -/
def ofTag? (s : String) : Option Kind :=
  all.find? fun k => k.tag == s

/-- Where a program starts. -/
def isRoot : Kind → Bool
  | .setup | .loop => true
  | _ => false

/-- Blocks that declare something for the whole sketch. -/
def isDeclaration : Kind → Bool
  | .global | .pinMode => true
  | _ => false

/-- Blocks that hold other blocks. -/
def isContainer : Kind → Bool
  | .ifThen | .ifElse | .forLoop | .whileLoop => true
  | _ => false

/-- Blocks that yield no statement where they stand in a chain. -/
def isSilent (k : Kind) : Bool :=
  k.isRoot || k.isDeclaration || k == .endBlock

theorem mem_all (k : Kind) : k ∈ all := by
  cases k <;> decide

@[simp] theorem ofTag?_tag (k : Kind) : ofTag? k.tag = some k := by
  cases k <;> decide

theorem tag_of_ofTag? {s : String} {k : Kind} (h : ofTag? s = some k) : k.tag = s := by
  simpa using List.find?_some h

end Kind

/-- The slots by which a link leaves its source. -/
inductive Slot where
  | next
  | body
  | otherwise
  deriving DecidableEq, Repr

namespace Slot

/-- The tag of a slot in editor state. -/
def tag : Slot → String
  | .next => "next"
  | .body => "body"
  | .otherwise => "else"

/-- The slot that a tag names. -/
def ofTag? (s : String) : Option Slot :=
  [Slot.next, .body, .otherwise].find? fun k => k.tag == s

@[simp] theorem ofTag?_tag (k : Slot) : ofTag? k.tag = some k := by
  cases k <;> decide

theorem tag_of_ofTag? {s : String} {k : Slot} (h : ofTag? s = some k) : k.tag = s := by
  simpa using List.find?_some h

end Slot

end BlockSketch
