/-
**Numbers written as texts.**

A parameter may give a number as a text: a sign, digits with an optional point, an optional
exponent; or a name of an infinity or of the value that is no number, in any case.  The digits may
be those of any script, and a single underscore may stand between two digits.

Main definitions:

* `BlockSketch.Literal.joinDigits?` — the text without its underscores, if they stand between
  digits, with the digits of ASCII;
* `BlockSketch.Literal.read?` — the value of a text without outer blanks.
-/

import BlockSketch.Number.Binary64
import BlockSketch.Text.Digit

set_option relaxedAutoImplicit false
set_option autoImplicit false

namespace BlockSketch.Literal

open BlockSketch.Text

/-- A decimal digit of any script as the digit of ASCII; other characters are kept. -/
def asciiDigit (c : Char) : Char :=
  match digitValue? c with
  | some v => Nat.digitChar v
  | none => c

/-- Drops the underscores of a text; `none` if one of them does not stand between two digits.  The
flag tells whether the character before is a digit. -/
def dropUnderscores? : (afterDigit : Bool) → List Char → Option (List Char)
  | _, [] => some []
  | afterDigit, '_' :: cs =>
    match cs with
    | [] => none
    | d :: _ => if afterDigit && d.isDigit then dropUnderscores? false cs else none
  | _, c :: cs => (dropUnderscores? c.isDigit cs).map (c :: ·)

/-- The text in ASCII digits and without underscores. -/
def joinDigits? (s : List Char) : Option (List Char) :=
  dropUnderscores? false (s.map asciiDigit)

/-- A sign at the start of a text: whether it is negative, and the rest. -/
def takeSign : List Char → Bool × List Char
  | '-' :: cs => (true, cs)
  | '+' :: cs => (false, cs)
  | cs => (false, cs)

/-- The exponent part that ends a number; nothing at all is the exponent zero. -/
def exponent? : List Char → Option Int
  | [] => some 0
  | c :: cs =>
    if c = 'e' ∨ c = 'E' then
      let (negative, ds) := takeSign cs
      if ds ≠ [] ∧ ds.all Char.isDigit then
        let n : Int := digitsValue ds
        some (if negative then -n else n)
      else none
    else none

/-- A number without sign: digits with an optional point, then an optional exponent. -/
def decimal? (negative : Bool) (s : List Char) : Option Binary64 :=
  let whole := s.takeWhile Char.isDigit
  let rest := s.dropWhile Char.isDigit
  let (fraction, tail) :=
    match rest with
    | '.' :: cs => (cs.takeWhile Char.isDigit, cs.dropWhile Char.isDigit)
    | cs => ([], cs)
  if whole = [] ∧ fraction = [] then none
  else
    (exponent? tail).map fun e =>
      Binary64.ofDecimal negative (digitsValue (whole ++ fraction)) (e - fraction.length)

/-- The names of values that are not finite, in small letters. -/
def named? (negative : Bool) (s : List Char) : Option Binary64 :=
  let name := String.ofList (s.map Char.toLower)
  if name = "inf" ∨ name = "infinity" then some (.infinite negative)
  else if name = "nan" then some .nan
  else none

/-- The value of a text without outer blanks. -/
def read? (s : List Char) : Option Binary64 :=
  match joinDigits? s with
  | none => none
  | some cs =>
    let (negative, rest) := takeSign cs
    match named? negative rest with
    | some x => some x
    | none => decimal? negative rest

end BlockSketch.Literal
