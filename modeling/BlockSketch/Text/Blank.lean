/-
**White space in texts.**

Parameters, comments and imported lines are trimmed and split at white space.  The class used
everywhere in this library is the one fixed here: the blank characters of Unicode together with
the four information separators `U+001C` to `U+001F`.

Main definitions:

* `BlockSketch.Text.isBlank` — the class;
* `BlockSketch.Text.trim`, `BlockSketch.Text.trimChars` — a text without its outer blanks;
* `BlockSketch.Text.words` — the maximal blank-free pieces of a text, in order;
* `BlockSketch.Text.pieces`, `BlockSketch.Text.splitLines` — a text cut at a mark, and into lines.
-/

set_option relaxedAutoImplicit false
set_option autoImplicit false

namespace BlockSketch.Text

/-- The blank characters: tabs, line ends, information separators and the spaces of Unicode. -/
def isBlank (c : Char) : Bool :=
  let n := c.toNat
  (9 ≤ n && n ≤ 13) || (28 ≤ n && n ≤ 32) || n == 0x85 || n == 0xA0 || n == 0x1680 ||
    (0x2000 ≤ n && n ≤ 0x200A) || n == 0x2028 || n == 0x2029 || n == 0x202F || n == 0x205F ||
    n == 0x3000

/-- The text from its first character that is not blank. -/
def dropBlanks (s : List Char) : List Char :=
  s.dropWhile isBlank

/-- The text up to its last character that fails `p`. -/
def dropEndWhile (p : Char → Bool) (s : List Char) : List Char :=
  (s.reverse.dropWhile p).reverse

/-- The characters of a text between its outer blanks. -/
def trimChars (s : List Char) : List Char :=
  dropEndWhile isBlank (dropBlanks s)

/-- A text without its outer blanks. -/
def trim (s : String) : String :=
  String.ofList (trimChars s.toList)

/-- The maximal pieces of a text that hold no blank, in order. -/
def words : List Char → List (List Char)
  | [] => []
  | c :: cs =>
    if isBlank c then words cs
    else
      match cs with
      | [] => [[c]]
      | d :: _ =>
        if isBlank d then [c] :: words cs
        else
          match words cs with
          | [] => [[c]]
          | w :: ws => (c :: w) :: ws

/-! ### Pieces and lines -/

/-- The pieces of a text between its marks; there is always at least one. -/
def pieces (mark : Char) : List Char → List (List Char)
  | [] => [[]]
  | c :: cs =>
    if c = mark then [] :: pieces mark cs
    else
      match pieces mark cs with
      | [] => [[c]]
      | l :: ls => (c :: l) :: ls

/-- The pieces of a text between its line feeds. -/
def splitLines (s : List Char) : List (List Char) :=
  pieces '\n' s

/-- Every line end, be it `\r\n` or a lone `\r`, as a single line feed. -/
def unifyLineEnds : List Char → List Char
  | [] => []
  | '\r' :: '\n' :: cs => '\n' :: unifyLineEnds cs
  | c :: cs => (if c = '\r' then '\n' else c) :: unifyLineEnds cs

end BlockSketch.Text
