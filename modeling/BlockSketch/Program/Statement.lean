/-
**Programs.**

A program is what a block graph means: the statements of setup and loop, the variables and servos to
be declared, the modes of the pins, and what is wrong or doubtful about the graph.  A statement is an
action, which takes one line of a sketch, or one of the three containers.

Main definitions:

* `BlockSketch.Operand` — what stands in a numeric place;
* `BlockSketch.Action`, `BlockSketch.Statement` — statements;
* `BlockSketch.Statement.flatten`, `BlockSketch.flattenAll` — a statement with all those inside it,
  each before its bodies;
* `BlockSketch.Declaration`, `BlockSketch.Program` — declarations and programs.
-/

import BlockSketch.Number.Shortest
import BlockSketch.Program.Fault

set_option relaxedAutoImplicit false
set_option autoImplicit false

namespace BlockSketch

/-- What stands in a numeric place of a statement: a number, or a text to be written as it is.  The
programs of graphs hold finite numbers only. -/
inductive Operand where
  | number (x : Dyadic)
  /-- A number that is given in floating point. -/
  | float (x : Dyadic)
  | infinite (negative : Bool)
  | nan
  | flag (b : Bool)
  | text (s : String)
  deriving DecidableEq

namespace Operand

/-- The text of an operand. -/
def render : Operand → String
  | .number x => numberText x
  | .float x => numberText x
  | .infinite negative => if negative then "-inf" else "inf"
  | .nan => "nan"
  | .flag b => if b then "True" else "False"
  | .text s => s

/-- The number that an operand is, if it is a finite one. -/
def number? : Operand → Option Dyadic
  | .number x => some x
  | .float x => some x
  | .flag b => some (if b then 1 else 0)
  | _ => none

/-- Whether an operand is below zero. -/
def isNegative : Operand → Bool
  | .number x => x < 0
  | .float x => x < 0
  | .infinite negative => negative
  | _ => false

/-- Whether an operand is a text. -/
def isText : Operand → Bool
  | .text _ => true
  | _ => false

end Operand

/-- A statement without a body. -/
inductive Action where
  | comment (text : String)
  | delay (ms : Operand)
  | digitalWrite (pin : Operand) (level : String)
  | digitalRead (pin : Operand) (name : String)
  | analogWrite (pin : Operand) (value : String)
  | analogRead (pin name : String)
  | servoAttach (name : String) (pin : Operand)
  | servoWrite (name angle : String)
  | assign (name value : String)
  | change (name : String) (delta : Operand)
  | arithmetic (target left op right : String)
  | random (target : String) (low high : Operand)
  | serialBegin (baud : Operand)
  | serialPrint (message : String)
  | serialPrintValue (value : String) (newline : Bool)
  /-- A block whose tag names no kind. -/
  | unknown (tag : String)
  /-- Something that is no statement, known by its name. -/
  | foreign (name : String)
  deriving DecidableEq

/-- A statement. -/
inductive Statement where
  | action (a : Action)
  | branch (condition : String) (body otherwise : List Statement)
  | forLoop (name : String) (start stop step : Operand) (body : List Statement)
  | whileLoop (condition : String) (body : List Statement)
  deriving Inhabited

mutual

/-- A statement and all those inside it, each before its bodies. -/
def Statement.flatten : Statement → List Statement
  | .action a => [.action a]
  | .branch c body otherwise =>
    .branch c body otherwise :: (flattenAll body ++ flattenAll otherwise)
  | .forLoop name start stop step body => .forLoop name start stop step body :: flattenAll body
  | .whileLoop c body => .whileLoop c body :: flattenAll body

/-- The statements of a list and all those inside them. -/
def flattenAll : List Statement → List Statement
  | [] => []
  | s :: ss => s.flatten ++ flattenAll ss

end

/-- The action that a statement is, if it is one. -/
def Statement.action? : Statement → Option Action
  | .action a => some a
  | _ => none

/-- A variable to be declared for the whole sketch. -/
structure Declaration where
  name : String
  type : String := "int"
  value : String := "0"
  deriving DecidableEq, Repr

/-- A program. -/
structure Program where
  setup : List Statement := []
  loop : List Statement := []
  globals : List Declaration := []
  servos : List String := []
  usesSerial : Bool := false
  beginsSerial : Bool := false
  pinModes : List (Operand × String) := []
  faults : List Fault := []
  warnings : List Warning := []
  deriving Inhabited

/-- Whether two operands name the same pin.  What is not a number names a pin of its own each time. -/
def Operand.samePin (a b : Operand) : Bool :=
  match a.number?, b.number? with
  | some x, some y => x == y
  | _, _ => a == b && a != .nan

/-- Gives a pin a mode: at its place, or at the end if it has none. -/
def Program.setPin : List (Operand × String) → Operand → String → List (Operand × String)
  | [], pin, mode => [(pin, mode)]
  | (p, m) :: t, pin, mode =>
    if p.samePin pin then (p, mode) :: t else (p, m) :: Program.setPin t pin mode

/-- Every statement of a program: those of setup, then those of loop. -/
def Program.statements (p : Program) : List Statement :=
  flattenAll p.setup ++ flattenAll p.loop

end BlockSketch
