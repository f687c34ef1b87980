/-
**Lines of sketches.**

Some lines of a sketch have the shape of a block: calls with plain numbers, the headers of counting
loops, and the headers of branches and loops with a condition that holds no closing parenthesis.  The
shape may stand anywhere in the line; shapes are tried in a fixed order, and the first that is found
counts.

Integers are captured as they are written, and converted afterwards: a row of more than 4300 digits
is refused.

Main definitions:

* `BlockSketch.Capture`, `BlockSketch.Found` — what a shape captures;
* `BlockSketch.shapes` — the shapes, in order;
* `BlockSketch.recognise` — the block of a line;
* `BlockSketch.Found.params` — its parameters.
-/

import BlockSketch.Block.Kind
import BlockSketch.Json.Reader
import BlockSketch.Text.Digit
import BlockSketch.Text.Scan
import BlockSketch.Text.Word

set_option relaxedAutoImplicit false
set_option autoImplicit false

namespace BlockSketch

open BlockSketch.Text

/-- A captured parameter: a text, an integer as it is written, or a number that the shape implies. -/
inductive Capture where
  | text (s : List Char)
  | integer (negative : Bool) (digits : List Char)
  | implied (n : Int)
  deriving DecidableEq, Repr

/-- A block found in a line, with its parameters as captured. -/
structure Found where
  kind : Kind
  captures : List (String × Capture)
  deriving DecidableEq, Repr

/-- A row of digits that is too long, known by its length. -/
structure TooManyDigits where
  count : Nat
  deriving DecidableEq, Repr

/-- The value of a captured parameter. -/
def Capture.value : Capture → Except TooManyDigits Value
  | .text s => .ok (.string (String.ofList s))
  | .integer negative digits =>
    if maxIntegerDigits < digits.length then .error ⟨digits.length⟩
    else
      let n : Int := digitsValue digits
      .ok (.int (if negative then -n else n))
  | .implied n => .ok (.int n)

/-- The values of captured parameters, in order; the first that is refused counts. -/
def captureValues : List (String × Capture) → Except TooManyDigits Fields
  | [] => .ok []
  | (key, c) :: cs => do
    let v ← c.value
    let rest ← captureValues cs
    return (key, v) :: rest

/-- The parameters of a found block. -/
def Found.params (f : Found) : Except TooManyDigits Fields :=
  captureValues f.captures

/-! ### Shapes -/

/-- A row of digits after blanks. -/
def natural? (s : List Char) : Option (Capture × List Char) :=
  (takeDigits? (dropBlanks s)).map fun r => (.integer false r.1, r.2)

/-- A row of digits after blanks, with an optional minus sign. -/
def integerAt? (s : List Char) : Option (Capture × List Char) :=
  match dropBlanks s with
  | '-' :: cs => (takeDigits? cs).map fun r => (.integer true r.1, r.2)
  | cs => (takeDigits? cs).map fun r => (.integer false r.1, r.2)

/-- One of the two levels of a pin, after blanks. -/
def level? (s : List Char) : Option (Capture × List Char) :=
  let s := dropBlanks s
  match afterWord? "HIGH".toList s with
  | some rest => some (.text "HIGH".toList, rest)
  | none => (afterWord? "LOW".toList s).map fun rest => (.text "LOW".toList, rest)

/-- A call with one number: `delay(5)`. -/
def delayShape (s : List Char) : Option Found := do
  let s ← afterWord? "delay".toList s
  let s ← afterMark? '(' s
  let (ms, s) ← natural? s
  let _ ← afterMark? ')' s
  return ⟨.delay, [("ms", ms)]⟩

/-- A call with a pin and a level: `digitalWrite(13, HIGH)`. -/
def digitalWriteShape (s : List Char) : Option Found := do
  let s ← afterWord? "digitalWrite".toList s
  let s ← afterMark? '(' s
  let (pin, s) ← natural? s
  let s ← afterMark? ',' s
  let (level, s) ← level? s
  let _ ← afterMark? ')' s
  return ⟨.digitalWrite, [("pin", pin), ("value", level)]⟩

/-- A call with two numbers: `analogWrite(9, 128)`. -/
def analogWriteShape (s : List Char) : Option Found := do
  let s ← afterWord? "analogWrite".toList s
  let s ← afterMark? '(' s
  let (pin, s) ← natural? s
  let s ← afterMark? ',' s
  let (value, s) ← natural? s
  let _ ← afterMark? ')' s
  return ⟨.analogWrite, [("pin", pin), ("value", value)]⟩

/-- A call of a method with one number: `servo.write(90)`. -/
def methodShape (method : String) (kind : Kind) (key : String) (s : List Char) : Option Found := do
  let (name, s) ← takeWord? s
  let s ← afterWord? method.toList s
  let s ← afterMark? '(' s
  let (n, s) ← natural? s
  let _ ← afterMark? ')' s
  return ⟨kind, [("variable", .text name), (key, n)]⟩

/-- A call that prints a literal: `Serial.println("Hello")`. -/
def printShape (s : List Char) : Option Found := do
  let s ← afterWord? "Serial.println".toList s
  let s ← afterMark? '(' s
  let s ← afterMark? '"' s
  let (message, s) ← upTo? '"' s
  let _ ← afterMark? ')' s
  return ⟨.serialPrint, [("message", .text message)]⟩

/-- The comparison of a counting loop, after blanks: whether it counts down. -/
def comparison? (s : List Char) : Option (Bool × List Char) :=
  match dropBlanks s with
  | '<' :: cs => some (false, cs)
  | '>' :: cs => some (true, cs)
  | _ => none

/-- The step of a counting loop: `i += 2`. -/
def step? (s : List Char) : Option Capture := do
  let (_, s) ← takeWord? (dropBlanks s)
  let s ← afterMark? '+' s
  let s ← afterWord? ['='] s
  let (step, _) ← integerAt? s
  return step

/-- The header of a counting loop: `for (int i = 0; i < 10; i += 1)`.  Without a step that is
written, the loop counts by one in the direction of its comparison. -/
def forShape (s : List Char) : Option Found := do
  let s ← afterWord? "for".toList s
  let s ← afterMark? '(' s
  let s ← afterWord? "int".toList (dropBlanks s)
  let s ← afterBlanks? s
  let (name, s) ← takeWord? s
  let s ← afterMark? '=' s
  let (start, s) ← integerAt? s
  let s ← afterMark? ';' s
  let (_, s) ← takeWord? (dropBlanks s)
  let (down, s) ← comparison? s
  let (stop, s) ← integerAt? s
  let s ← afterMark? ';' s
  let step := (step? s).getD (.implied (if down then -1 else 1))
  return ⟨.forLoop, [("variable", .text name), ("start", start), ("end", stop), ("step", step)]⟩

/-- The header of a branch or loop with a condition: `if (x > 1) {`.  The condition reaches to the
first closing parenthesis. -/
def conditionShape (word : String) (kind : Kind) (s : List Char) : Option Found := do
  let s ← afterWord? word.toList s
  let s ← afterMark? '(' s
  let (condition, s) ← upTo? ')' s
  if condition.isEmpty then none
  else
    let _ ← afterMark? '\x7b' s
    return ⟨kind, [("condition", .text (trimChars condition))]⟩

/-- The shapes of blocks, in the order in which they are tried. -/
def shapes : List (List Char → Option Found) :=
  [delayShape, digitalWriteShape, analogWriteShape,
   methodShape ".write" .servoWrite "angle", methodShape ".attach" .servoAttach "pin",
   printShape, forShape, conditionShape "if" .ifThen, conditionShape "while" .whileLoop]

/-- The block that a line shows. -/
def recognise (line : List Char) : Option Found :=
  shapes.findSome? fun shape => search shape line

end BlockSketch
