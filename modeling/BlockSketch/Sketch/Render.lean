/-
**The sketch of a program.**

A sketch starts with the servo library, if a servo is used, and the declarations; then come the
functions `setup` and `loop`.  Each action takes one line, each container one line for its header,
one for its end, and one between its branches; a line is indented by two blanks a level.

Main definitions:

* `BlockSketch.Action.text` — the line of an action;
* `BlockSketch.Statement.lines`, `BlockSketch.blockLines` — the lines of statements at a depth;
* `BlockSketch.Program.sketch` — the sketch;
* `BlockSketch.Program.sketch?` — the sketch of a program whose operands can be compared.
-/

import BlockSketch.Order.Sort
import BlockSketch.Program.Statement
import BlockSketch.Sketch.Literal

set_option relaxedAutoImplicit false
set_option autoImplicit false

namespace BlockSketch

/-! ### Statements -/

/-- The line of an action, without its indentation. -/
def Action.text : Action → String
  | .comment text => "// " ++ Sketch.commentText text
  | .delay ms => "delay(" ++ ms.render ++ ");"
  | .digitalWrite pin level => "digitalWrite(" ++ pin.render ++ ", " ++ level ++ ");"
  | .digitalRead pin name => name ++ " = digitalRead(" ++ pin.render ++ ");"
  | .analogWrite pin value => "analogWrite(" ++ pin.render ++ ", " ++ value ++ ");"
  | .analogRead pin name => name ++ " = analogRead(" ++ pin ++ ");"
  | .servoAttach name pin => name ++ ".attach(" ++ pin.render ++ ");"
  | .servoWrite name angle => name ++ ".write(" ++ angle ++ ");"
  | .assign name value => name ++ " = " ++ value ++ ";"
  | .change name delta => name ++ " += " ++ delta.render ++ ";"
  | .arithmetic target left op right =>
    target ++ " = " ++ left ++ " " ++ op ++ " " ++ right ++ ";"
  | .random target low high =>
    target ++ " = random(" ++ low.render ++ ", " ++ high.render ++ ");"
  | .serialBegin baud => "Serial.begin(" ++ baud.render ++ ");"
  | .serialPrint message => "Serial.println(" ++ Sketch.literal message ++ ");"
  | .serialPrintValue value newline =>
    "Serial." ++ (if newline then "println" else "print") ++ "(" ++ value ++ ");"
  | .unknown tag => "// Unsupported block: " ++ (if tag = "" then "unknown" else tag)
  | .foreign name => "// Unsupported block: " ++ name

/-- The indentation of a level. -/
def indent (depth : Nat) : String :=
  String.ofList (List.replicate (2 * depth) ' ')

/-- The header of a counting loop, which counts down if its step is negative. -/
def forHeader (name : String) (start stop step : Operand) : String :=
  "for (int " ++ name ++ " = " ++ start.render ++ "; " ++ name ++
    (if step.isNegative then " > " else " < ") ++ stop.render ++ "; " ++ name ++ " += " ++
    step.render ++ ") \x7b"

mutual

/-- The lines of a statement at a depth. -/
def Statement.lines (depth : Nat) : Statement → List String
  | .action a => [indent depth ++ a.text]
  | .branch condition body otherwise =>
    (indent depth ++ "if (" ++ condition ++ ") \x7b") :: blockLines (depth + 1) body ++
      (if otherwise.isEmpty then []
        else (indent depth ++ "\x7d else \x7b") :: blockLines (depth + 1) otherwise) ++
      [indent depth ++ "\x7d"]
  | .forLoop name start stop step body =>
    (indent depth ++ forHeader name start stop step) :: blockLines (depth + 1) body ++
      [indent depth ++ "\x7d"]
  | .whileLoop condition body =>
    (indent depth ++ "while (" ++ condition ++ ") \x7b") :: blockLines (depth + 1) body ++
      [indent depth ++ "\x7d"]

/-- The lines of statements at a depth. -/
def blockLines (depth : Nat) : List Statement → List String
  | [] => []
  | s :: ss => s.lines depth ++ blockLines depth ss

end

/-! ### Order of operands -/

/-- The name of an operand's type in messages. -/
def Operand.typeName : Operand → String
  | .number x => if (integer? x).isSome then "int" else "float"
  | .float _ => "float"
  | .infinite _ => "float"
  | .nan => "float"
  | .flag _ => "bool"
  | .text _ => "str"

/-- Two operands that a sketch would have to compare and that cannot be compared. -/
structure Incomparable where
  left : Operand
  right : Operand

/-- The message about operands that cannot be compared. -/
def Incomparable.message (x : Incomparable) : String :=
  "'<' not supported between instances of '" ++ x.left.typeName ++ "' and '" ++
    x.right.typeName ++ "'"

/-- Whether a number is below another.  What is not a number is neither below nor above anything. -/
def Operand.isBelow (a b : Operand) : Bool :=
  match a, b with
  | .nan, _ => false
  | _, .nan => false
  | .infinite negative, b => negative && b != .infinite true
  | _, .infinite negative => !negative
  | a, b => a.number?.getD 0 < b.number?.getD 0

/-- Whether an operand is before another in a sketch.  A text cannot be compared with a number. -/
def Operand.isBefore (a b : Operand) : Except Incomparable Bool :=
  match a, b with
  | .text s, .text t => .ok (s < t)
  | a, b => if a.isText || b.isText then .error ⟨a, b⟩ else .ok (a.isBelow b)

/-- The step of a loop that is a text. -/
def Statement.textStep? : Statement → Option Incomparable
  | .forLoop _ _ _ step _ => if step.isText then some ⟨step, .number 0⟩ else none
  | _ => none

/-! ### Sketches -/

/-- The lines, or one other if there are none. -/
def linesOr (lines : List String) (other : String) : List String :=
  if lines.isEmpty then [other] else lines

/-- The serial speed of a sketch that does not choose one. -/
def defaultBaud : Nat :=
  9600

namespace Program

/-- The lines that declare servos and variables, sorted by name. -/
def declarationLines (p : Program) : List String :=
  ((p.servos.mergeSort fun a b => a ≤ b).map fun name => "Servo " ++ name ++ ";") ++
    (p.globals.mergeSort fun a b => a.name ≤ b.name).map fun d =>
      d.type ++ " " ++ d.name ++ " = " ++ d.value ++ ";"

/-- The pins with their modes, sorted by pin. -/
def sortPins? (p : Program) : Except Incomparable (List (Operand × String)) :=
  Order.sort (fun a b => a.1.isBefore b.1) p.pinModes

/-- The pins with their modes in the order of a sketch: sorted if they can be compared. -/
def sketchPins (p : Program) : List (Operand × String) :=
  p.sortPins?.toOption.getD p.pinModes

/-- The lines of the function `setup`: serial port, pins and statements. -/
def setupLines (p : Program) : List String :=
  (if p.usesSerial && !p.beginsSerial then
    [indent 1 ++ "Serial.begin(" ++ toString defaultBaud ++ ");"] else []) ++
    (p.sketchPins.map fun pm =>
      indent 1 ++ "pinMode(" ++ pm.1.render ++ ", " ++ pm.2 ++ ");") ++
    blockLines 1 p.setup

/-- The lines of a sketch; the last one is empty. -/
def sketchLines (p : Program) : List String :=
  (if p.servos.isEmpty then [] else ["#include <Servo.h>", ""]) ++
    (if p.declarationLines.isEmpty then [] else p.declarationLines ++ [""]) ++
    ["void setup() \x7b"] ++ linesOr p.setupLines (indent 1 ++ "// no setup actions") ++
    ["\x7d", ""] ++
    ["void loop() \x7b"] ++ linesOr (blockLines 1 p.loop) (indent 1 ++ "// no loop actions") ++
    ["\x7d", ""]

/-- The sketch of a program. -/
def sketch (p : Program) : String :=
  "\n".intercalate p.sketchLines

/-- The sketch of a program whose operands can be compared: its pins with each other, and the steps of
its loops with zero. -/
def sketch? (p : Program) : Except Incomparable String := do
  let _ ← p.sortPins?
  match p.statements.findSome? Statement.textStep? with
  | some x => .error x
  | none => .ok p.sketch

/-- The libraries that a sketch needs. -/
def libraries (p : Program) : List String :=
  if p.servos.isEmpty then [] else ["Servo"]

end Program

end BlockSketch
