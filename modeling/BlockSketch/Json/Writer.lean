/-
**Writing JSON texts.**

Texts are written in ASCII: every other code point is written by its number, in two halves beyond
`U+FFFF`.  The layout is either compact or with one item a line and two blanks a level; empty arrays
and objects have no line of their own in either.

Main definitions:

* `BlockSketch.Json.Layout` — the two layouts;
* `BlockSketch.Json.write` — the text of a value.
-/

import BlockSketch.Json.Value
import BlockSketch.Number.Shortest
import BlockSketch.Text.CodePoint

set_option relaxedAutoImplicit false
set_option autoImplicit false

namespace BlockSketch.Json

/-- How the items of a value are laid out. -/
inductive Layout where
  | compact
  | indented
  deriving DecidableEq, Repr

/-- What stands before an item at a depth. -/
def Layout.break : Layout → Nat → String
  | .compact, _ => ""
  | .indented, depth => String.ofList ('\n' :: List.replicate (2 * depth) ' ')

/-- What stands between a name and its value. -/
def Layout.colon : Layout → String
  | .compact => ":"
  | .indented => ": "

/-- A code point inside a string. -/
def stringCode (n : Nat) : List Char :=
  if n = '"'.toNat ∨ n = '\\'.toNat then ['\\', Char.ofNat n]
  else if n = '\n'.toNat then ['\\', 'n']
  else if n = '\r'.toNat then ['\\', 'r']
  else if n = '\t'.toNat then ['\\', 't']
  else if n = 0x08 then ['\\', 'b']
  else if n = 0x0C then ['\\', 'f']
  else if 0x20 ≤ n ∧ n < 0x7F then [Char.ofNat n]
  else if n < 0x10000 then Text.codeEscape n
  else
    Text.codeEscape (0xD800 + (n - 0x10000) / 0x400) ++
      Text.codeEscape (0xDC00 + (n - 0x10000) % 0x400)

/-- A string with its quotes. -/
def stringLiteral (s : String) : String :=
  String.ofList ('"' :: (Text.codes s.toList).flatMap stringCode ++ ['"'])

/-- A number that is not an integer. -/
def floatLiteral : Binary64 → String
  | .infinite negative => if negative then "-Infinity" else "Infinity"
  | .nan => "NaN"
  | x => x.text

mutual

/-- The text of a value at a depth. -/
def write (layout : Layout) (depth : Nat) : Value → String
  | .null => "null"
  | .bool b => if b then "true" else "false"
  | .int n => integerText n
  | .float x => floatLiteral x
  | .string s => stringLiteral s
  | .array [] => "[]"
  | .array (x :: xs) =>
    "[" ++ layout.break (depth + 1) ++ write layout (depth + 1) x ++
      writeItems layout (depth + 1) xs ++ layout.break depth ++ "]"
  | .object [] => "\x7b\x7d"
  | .object ((key, v) :: fs) =>
    "\x7b" ++ layout.break (depth + 1) ++ stringLiteral key ++ layout.colon ++
      write layout (depth + 1) v ++ writeFields layout (depth + 1) fs ++
      layout.break depth ++ "\x7d"

/-- The items of an array after its first one. -/
def writeItems (layout : Layout) (depth : Nat) : List Value → String
  | [] => ""
  | x :: xs => "," ++ layout.break depth ++ write layout depth x ++ writeItems layout depth xs

/-- The fields of an object after its first one. -/
def writeFields (layout : Layout) (depth : Nat) : List (String × Value) → String
  | [] => ""
  | (key, v) :: fs =>
    "," ++ layout.break depth ++ stringLiteral key ++ layout.colon ++ write layout depth v ++
      writeFields layout depth fs

end

end BlockSketch.Json
