/-
**Texts as code points.**

A text is a row of code points.  Editor state may hold any of them, among them surrogates: halves of a
pair, for which there is no character when they stand alone.  A `String` has no place for them, and so
a surrogate is *held* by two characters, a mark and one that stands in for it.  The mark is held by two
marks, and every other code point by its character.

No held form begins another, and held forms sort as their code points do.  Blanks, digits, letters and
signs are held by themselves, and the mark and the stand-ins are none of these.  So texts can be
compared, sorted, trimmed, split and searched character by character.  Only what counts code points
or gives each of them a form of its own has to ask for them.

Main definitions:

* `BlockSketch.Text.isSurrogate` — halves of a pair;
* `BlockSketch.Text.held`, `BlockSketch.Text.codes` — the characters that hold a code point, and the code
  points that characters hold;
* `BlockSketch.Text.ofPlain`, `BlockSketch.Text.plain` — from and to strings in which every character
  stands for itself;
* `BlockSketch.Text.legible` — a text with its surrogates written out.
-/

set_option relaxedAutoImplicit false
set_option autoImplicit false

namespace BlockSketch.Text

/-- Whether a code point is half of a pair. -/
def isSurrogate (n : Nat) : Bool :=
  0xD800 ≤ n && n < 0xE000

/-- The code point of two halves. -/
def pairCode (high low : Nat) : Nat :=
  0x10000 + (high - 0xD800) * 0x400 + (low - 0xDC00)

/-- The character before one that stands in for a surrogate: the last one below the surrogates. -/
def mark : Char :=
  '\uD7FF'

/-- The distance from a surrogate to the character that stands in for it. -/
def standInDistance : Nat :=
  0x800

/-- The characters that hold a code point. -/
def held (n : Nat) : List Char :=
  if isSurrogate n then [mark, Char.ofNat (n + standInDistance)]
  else if n = mark.toNat then [mark, mark]
  else [Char.ofNat n]

/-- The code point that is held by a character after the mark, if there is one. -/
def afterMarkCode? (c : Char) : Option Nat :=
  if c = mark then some mark.toNat
  else if isSurrogate (c.toNat - standInDistance) then some (c.toNat - standInDistance)
  else none

/-- The code points that characters hold. -/
def codes : List Char → List Nat
  | [] => []
  | [c] => [c.toNat]
  | c :: d :: cs =>
    if c = mark then
      match afterMarkCode? d with
      | some n => n :: codes cs
      | none => c.toNat :: codes (d :: cs)
    else c.toNat :: codes (d :: cs)

/-- The text of a string in which every character stands for itself. -/
def ofPlain (s : String) : String :=
  String.ofList (s.toList.flatMap fun c => held c.toNat)

/-- The string of the characters of a text. -/
def plain (s : String) : String :=
  String.ofList ((codes s.toList).map Char.ofNat)

/-- The last `width` hexadecimal digits of a number, in lower case. -/
def hexDigits : (width : Nat) → Nat → List Char
  | 0, _ => []
  | width + 1, n => hexDigits width (n / 16) ++ [Nat.digitChar (n % 16)]

/-- A code point of up to four hexadecimal digits, written out. -/
def codeEscape (n : Nat) : List Char :=
  ['\\', 'u'] ++ hexDigits 4 n

/-- A text with its surrogates written out. -/
def legible (s : String) : String :=
  String.ofList ((codes s.toList).flatMap fun n => if isSurrogate n then codeEscape n else held n)

end BlockSketch.Text
