/-
**Parameters of blocks.**

A parameter is a JSON value that an editor left there, so it is read with some tolerance.  As a
number it may be a number or a text that writes one; truth values are no numbers, and neither is
anything that is not finite.  As an expression it may be a text or a number.

Main definitions:

* `BlockSketch.Value.number?` — the number that a value stands for;
* `BlockSketch.Fields.number`, `BlockSketch.Fields.text`, `BlockSketch.Fields.expression` — a
  parameter with a fallback.
-/

import BlockSketch.Json.Value
import BlockSketch.Number.Literal
import BlockSketch.Number.Shortest
import BlockSketch.Text.Blank

set_option relaxedAutoImplicit false
set_option autoImplicit false

namespace BlockSketch

/-- The number that a value stands for.  An integer counts if it does not round to infinity. -/
def Value.number? : Value → Option Dyadic
  | .int n => if n.natAbs < binary64Bound then some (Dyadic.ofInt n) else none
  | .float x => x.toDyadic?
  | .string s => (Literal.read? (Text.trimChars s.toList)).bind Binary64.toDyadic?
  | _ => none

namespace Fields

/-- A numeric parameter. -/
def number (ps : Fields) (key : String) (fallback : Dyadic) : Dyadic :=
  ((get? ps key).bind Value.number?).getD fallback

/-- A text parameter. -/
def text (ps : Fields) (key : String) (fallback : String) : String :=
  ((get? ps key).bind Value.string?).getD fallback

/-- An expression: a text as it is, or the text of a number. -/
def expression (ps : Fields) (key : String) (fallback : String) : String :=
  match get? ps key with
  | some (.string s) => s
  | some v =>
    match v.number? with
    | some x => numberText x
    | none => fallback
  | none => fallback

end Fields

end BlockSketch
