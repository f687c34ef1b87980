/-
**Texts inside sketches.**

A message is written as a string literal: the quote, the backslash and the usual control characters
have escapes of their own, and other control characters are written with three octal digits.  A
comment is written on one line; it must not end in a backslash, which would join the next line to
it.

Main definitions:

* `BlockSketch.Sketch.literalChar`, `BlockSketch.Sketch.literal` — string literals;
* `BlockSketch.Sketch.commentText` — the text of a comment.
-/

import BlockSketch.Text.Blank

set_option relaxedAutoImplicit false
set_option autoImplicit false

namespace BlockSketch.Sketch

/-- A number below 512 in three octal digits. -/
def octalDigits (n : Nat) : List Char :=
  [Nat.digitChar (n / 64 % 8), Nat.digitChar (n / 8 % 8), Nat.digitChar (n % 8)]

/-- A character inside a string literal. -/
def literalChar (c : Char) : List Char :=
  if c = '\\' then ['\\', '\\']
  else if c = '"' then ['\\', '"']
  else if c = '\n' then ['\\', 'n']
  else if c = '\r' then ['\\', 'r']
  else if c = '\t' then ['\\', 't']
  else if c.toNat < 0x20 ∨ c.toNat = 0x7F then '\\' :: octalDigits c.toNat
  else [c]

/-- The characters of a string literal, with its quotes. -/
def literalChars (s : List Char) : List Char :=
  '"' :: s.flatMap literalChar ++ ['"']

/-- The string literal of a text. -/
def literal (s : String) : String :=
  String.ofList (literalChars s.toList)

/-- The characters of a comment: its words with single blanks between them, without backslashes
and blanks at the end. -/
def commentChars (s : List Char) : List Char :=
  Text.dropEndWhile (fun c => c == '\\' || c == ' ') (List.intercalate [' '] (Text.words s))

/-- The text of a comment, which is never empty. -/
def commentText (s : String) : String :=
  let cs := commentChars s.toList
  if cs.isEmpty then "..." else String.ofList cs

end BlockSketch.Sketch
