/-
**Scanning texts.**

Shapes are recognised at the start of a text: a scanner gives what it has found there and the rest of
the text.  A shape may stand anywhere in a text; then its first place counts.

Main definitions:

* `BlockSketch.Text.afterWord?`, `BlockSketch.Text.afterMark?` — the text after a fixed word, and
  after a character with blanks before it;
* `BlockSketch.Text.search` — the first place at which a shape is recognised.
-/

import BlockSketch.Text.Blank

set_option relaxedAutoImplicit false
set_option autoImplicit false

namespace BlockSketch.Text

/-- The text after a fixed word at its start. -/
def afterWord? : List Char → List Char → Option (List Char)
  | [], s => some s
  | _ :: _, [] => none
  | w :: ws, c :: cs => if w = c then afterWord? ws cs else none

/-- The text after the next character that is not blank, if it is the given one. -/
def afterMark? (mark : Char) (s : List Char) : Option (List Char) :=
  match dropBlanks s with
  | [] => none
  | c :: cs => if c = mark then some cs else none

/-- The text after at least one blank and all further ones. -/
def afterBlanks? : List Char → Option (List Char)
  | [] => none
  | c :: cs => if isBlank c then some (dropBlanks cs) else none

/-- What a shape gives at the first place of a text where it is recognised. -/
def search {α : Type} (shape : List Char → Option α) : List Char → Option α
  | [] => shape []
  | c :: cs =>
    match shape (c :: cs) with
    | some a => some a
    | none => search shape cs

/-- The text up to a mark, and the text after the mark. -/
def upTo? (mark : Char) : List Char → Option (List Char × List Char)
  | [] => none
  | c :: cs => if c = mark then some ([], cs) else (upTo? mark cs).map fun r => (c :: r.1, r.2)

end BlockSketch.Text
