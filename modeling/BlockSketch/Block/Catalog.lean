/-
**The catalog of blocks.**

For every kind the catalog has a label and the parameters that a new block starts with; the palette
lists in categories the kinds that can be placed.

Main definitions:

* `BlockSketch.Catalog.label`, `BlockSketch.Catalog.params` — label and parameters of a kind;
* `BlockSketch.Catalog.default?` — one of its parameters;
* `BlockSketch.Catalog.palette` — the categories.
-/

import BlockSketch.Block.Kind
import BlockSketch.Json.Value

set_option relaxedAutoImplicit false
set_option autoImplicit false

namespace BlockSketch.Catalog

/-- The label of a new block. -/
def label : Kind → String
  | .setup => "setup()"
  | .loop => "loop()"
  | .global => "Global Variable"
  | .assign => "Set Variable"
  | .change => "Change Variable"
  | .arithmetic => "Math Operation"
  | .random => "Random"
  | .comment => "Comment"
  | .pinMode => "Pin Mode"
  | .servoAttach => "Servo Attach"
  | .servoWrite => "Servo Write"
  | .delay => "Delay"
  | .digitalWrite => "Digital Write"
  | .digitalRead => "Digital Read"
  | .analogWrite => "PWM Write"
  | .analogRead => "Analog Read"
  | .serialBegin => "Serial Begin"
  | .serialPrint => "Serial Print"
  | .serialPrintValue => "Serial Print Value"
  | .ifThen => "If"
  | .ifElse => "If"
  | .forLoop => "For Loop"
  | .whileLoop => "While"
  | .endBlock => "End"

/-- The label of a block whose kind is not known. -/
def unknownLabel : String :=
  "Block"

/-- The parameters of a new block. -/
def params : Kind → Fields
  | .global => [("name", .string "value"), ("varType", .string "int"), ("value", .int 0)]
  | .assign => [("name", .string "value"), ("value", .string "0")]
  | .change => [("name", .string "value"), ("delta", .int 1)]
  | .arithmetic =>
    [("target", .string "value"), ("left", .string "value"), ("op", .string "+"),
     ("right", .string "1")]
  | .random => [("target", .string "value"), ("min", .int 0), ("max", .int 10)]
  | .comment => [("text", .string "")]
  | .pinMode => [("pin", .int 2), ("mode", .string "INPUT")]
  | .servoAttach => [("variable", .string "servo"), ("pin", .int 9)]
  | .servoWrite => [("variable", .string "servo"), ("angle", .string "90")]
  | .delay => [("ms", .int 500)]
  | .digitalWrite => [("pin", .int 13), ("value", .string "HIGH")]
  | .digitalRead => [("pin", .int 2), ("variable", .string "buttonState")]
  | .analogWrite => [("pin", .int 9), ("value", .string "128")]
  | .analogRead => [("pin", .string "A0"), ("variable", .string "sensorValue")]
  | .serialBegin => [("baud", .int 9600)]
  | .serialPrint => [("message", .string "Hello")]
  | .serialPrintValue => [("value", .string "value"), ("newline", .bool true)]
  | .ifThen | .ifElse | .whileLoop => [("condition", .string "true")]
  | .forLoop =>
    [("variable", .string "i"), ("start", .int 0), ("end", .int 10), ("step", .int 1)]
  | .setup | .loop | .endBlock => []

/-- The value that a parameter of a new block has. -/
def default? (k : Kind) (key : String) : Option Value :=
  Fields.get? (params k) key

/-- A category of the palette. -/
structure Category where
  id : String
  label : String
  blocks : List Kind

/-- The categories of the palette, in order. -/
def palette : List Category :=
  [⟨"variables", "Variables", [.global, .assign, .change]⟩,
   ⟨"operators", "Operators", [.arithmetic, .random]⟩,
   ⟨"control", "Control", [.ifThen, .forLoop, .whileLoop]⟩,
   ⟨"timing", "Timing", [.delay]⟩,
   ⟨"io", "I/O", [.pinMode, .digitalWrite, .digitalRead, .analogWrite, .analogRead]⟩,
   ⟨"servo", "Servo", [.servoAttach, .servoWrite]⟩,
   ⟨"serial", "Serial", [.serialBegin, .serialPrint, .serialPrintValue]⟩,
   ⟨"text", "Text", [.comment]⟩]

end BlockSketch.Catalog
