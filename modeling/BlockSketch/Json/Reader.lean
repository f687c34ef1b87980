/-
**Reading JSON texts.**

The reader takes a text to a value or to the first fault in it.  It accepts the names `NaN`,
`Infinity` and `-Infinity`; of several fields of one name the last value counts, at the place of
the first; a number beyond the binary64 range is infinite, and an integer of more than 4300 digits
is refused.  In a string, two halves of a pair that are written by their numbers are one code point,
and a half without the other stays what it is.

A fault is known by its reason and by the characters that are left where it was met, from which its
line, column and offset follow.

Main definitions:

* `BlockSketch.Json.Reason`, `BlockSketch.Json.ReadError` — what can be wrong with a text, with
  `message` for the wording;
* `BlockSketch.Json.read` — the value of a text.
-/

import BlockSketch.Json.Value
import BlockSketch.Number.Literal
import BlockSketch.Text.CodePoint
import BlockSketch.Text.Scan

set_option relaxedAutoImplicit false
set_option autoImplicit false

namespace BlockSketch

/-- The most digits that an integer may have when it is read. -/
def maxIntegerDigits : Nat :=
  4300

/-- The message for a row of digits that is too long to be read as an integer. -/
def tooManyDigitsMessage (count : Nat) : String :=
  "Exceeds the limit (" ++ toString maxIntegerDigits ++
    " digits) for integer string conversion: value has " ++ toString count ++
    " digits; use sys.set_int_max_str_digits() to increase the limit"

namespace Json

/-- What is wrong at a place of a text. -/
inductive Reason where
  | byteOrderMark
  | expectingValue
  | expectingName
  | expectingColon
  | expectingComma
  | extraData
  | unterminatedString
  | controlCharacter
  | badEscape
  | badCodeEscape
  deriving DecidableEq, Repr

/-- The wording of a reason. -/
def Reason.message : Reason → String
  | .byteOrderMark => "Unexpected UTF-8 BOM (decode using utf-8-sig)"
  | .expectingValue => "Expecting value"
  | .expectingName => "Expecting property name enclosed in double quotes"
  | .expectingColon => "Expecting ':' delimiter"
  | .expectingComma => "Expecting ',' delimiter"
  | .extraData => "Extra data"
  | .unterminatedString => "Unterminated string starting at"
  | .controlCharacter => "Invalid control character at"
  | .badEscape => "Invalid \\escape"
  | .badCodeEscape => "Invalid \\uXXXX escape"

/-- A fault together with the number of characters left where it was met. -/
inductive Fault where
  | at (reason : Reason) (left : Nat)
  | tooManyDigits (count : Nat)

/-- Why a text is not read. -/
inductive ReadError where
  | malformed (reason : Reason) (line column offset : Nat)
  | tooManyDigits (count : Nat)
  deriving DecidableEq, Repr

/-- The message of an error. -/
def ReadError.message : ReadError → String
  | .malformed reason line column offset =>
    reason.message ++ ": line " ++ toString line ++ " column " ++ toString column ++
      " (char " ++ toString offset ++ ")"
  | .tooManyDigits count => tooManyDigitsMessage count

/-- A fault with the characters that are left. -/
def Fault.here {α : Type} (reason : Reason) (rest : List Char) : Except Fault α :=
  .error (.at reason rest.length)

/-! ### Blanks and numbers -/

/-- The four characters that may stand between the tokens of a JSON text. -/
def isSpace (c : Char) : Bool :=
  c == ' ' || c == '\t' || c == '\n' || c == '\r'

/-- The text from its next token. -/
def skipSpace (s : List Char) : List Char :=
  s.dropWhile isSpace

/-- The whole part of a number: a lone zero, or digits that do not start with one. -/
def wholePart? : List Char → Option (List Char × List Char)
  | [] => none
  | c :: cs =>
    if c = '0' then some ([c], cs)
    else if c.isDigit then some (c :: cs.takeWhile Char.isDigit, cs.dropWhile Char.isDigit)
    else none

/-- A fraction at the start of the text: its digits and the rest.  A point without a digit after it
is no fraction. -/
def fractionPart : List Char → List Char × List Char
  | '.' :: cs =>
    match cs.takeWhile Char.isDigit with
    | [] => ([], '.' :: cs)
    | ds => (ds, cs.dropWhile Char.isDigit)
  | cs => ([], cs)

/-- An exponent at the start of the text, if it has a digit. -/
def exponentPart? : List Char → Option (Int × List Char)
  | [] => none
  | c :: cs =>
    if c = 'e' ∨ c = 'E' then
      let (negative, ds) := Literal.takeSign cs
      match ds.takeWhile Char.isDigit with
      | [] => none
      | es =>
        let n : Int := Text.digitsValue es
        some (if negative then -n else n, ds.dropWhile Char.isDigit)
    else none

/-- A number at the start of the text. -/
def number (s : List Char) : Except Fault (Value × List Char) :=
  let (negative, body) :=
    match s with
    | '-' :: cs => (true, cs)
    | cs => (false, cs)
  match wholePart? body with
  | none => Fault.here .expectingValue s
  | some (whole, rest) =>
    let (fraction, rest) := fractionPart rest
    match exponentPart? rest with
    | some (e, rest) =>
      .ok (.float (Binary64.ofDecimal negative (Text.digitsValue (whole ++ fraction))
        (e - fraction.length)), rest)
    | none =>
      if fraction = [] then
        if maxIntegerDigits < whole.length then .error (.tooManyDigits whole.length)
        else
          let n : Int := Text.digitsValue whole
          .ok (.int (if negative then -n else n), rest)
      else
        .ok (.float (Binary64.ofDecimal negative (Text.digitsValue (whole ++ fraction))
          (-(fraction.length : Int))), rest)

/-! ### Strings -/

/-- The value of a hexadecimal digit. -/
def hexValue? (c : Char) : Option Nat :=
  if c.isDigit then some (c.toNat - '0'.toNat)
  else if 'a' ≤ c ∧ c ≤ 'f' then some (c.toNat - 'a'.toNat + 10)
  else if 'A' ≤ c ∧ c ≤ 'F' then some (c.toNat - 'A'.toNat + 10)
  else none

/-- The number written by four hexadecimal digits. -/
def hexCode? (a b c d : Char) : Option Nat := do
  let a ← hexValue? a
  let b ← hexValue? b
  let c ← hexValue? c
  let d ← hexValue? d
  return ((a * 16 + b) * 16 + c) * 16 + d

/-- The character written by a backslash and a letter. -/
def escaped? (c : Char) : Option Char :=
  if c = '"' ∨ c = '\\' ∨ c = '/' then some c
  else if c = 'b' then some '\x08'
  else if c = 'f' then some '\x0c'
  else if c = 'n' then some '\n'
  else if c = 'r' then some '\r'
  else if c = 't' then some '\t'
  else none

/-- A piece of a string: a character, or a code point that is written by its number. -/
inductive Piece where
  | char (c : Char)
  | code (n : Nat)

/-- The pieces of a string up to its closing quote, and the rest.  The pieces read so far are passed in
reverse; `opened` is the number of characters left at the opening quote. -/
def stringPieces (opened : Nat) : List Piece → List Char → Except Fault (List Piece × List Char)
  | _, [] => .error (.at .unterminatedString opened)
  | seen, '"' :: cs => .ok (seen.reverse, cs)
  | seen, '\\' :: cs =>
    match cs with
    | [] => .error (.at .unterminatedString opened)
    | 'u' :: a :: b :: c :: d :: e :: ds =>
      match hexCode? a b c d with
      | some n => stringPieces opened (.code n :: seen) (e :: ds)
      | none => Fault.here .badCodeEscape cs
    | c :: ds =>
      if c = 'u' then Fault.here .badCodeEscape cs
      else
        match escaped? c with
        | some x => stringPieces opened (.char x :: seen) ds
        | none => Fault.here .badEscape ('\\' :: cs)
  | seen, c :: cs =>
    if c.toNat < 0x20 then Fault.here .controlCharacter (c :: cs)
    else stringPieces opened (.char c :: seen) cs

/-- The characters of some pieces.  Two halves of a pair that are written by their numbers, one after the
other, are one code point; a half alone is a surrogate. -/
def joinPieces : List Piece → List Char
  | [] => []
  | .char c :: ps => c :: joinPieces ps
  | [.code n] => Text.held n
  | .code n :: .char c :: ps => Text.held n ++ c :: joinPieces ps
  | .code n :: .code m :: ps =>
    if 0xD800 ≤ n ∧ n < 0xDC00 ∧ 0xDC00 ≤ m ∧ m < 0xE000 then
      Text.held (Text.pairCode n m) ++ joinPieces ps
    else Text.held n ++ joinPieces (.code m :: ps)

/-- A string, from the text after its opening quote. -/
def stringText (s : List Char) : Except Fault (String × List Char) := do
  let (pieces, rest) ← stringPieces (s.length + 1) [] s
  return (String.ofList (joinPieces pieces), rest)

/-! ### Values -/

/-- The values that are written as a name. -/
def names : List (List Char × Value) :=
  [("null".toList, .null), ("true".toList, .bool true), ("false".toList, .bool false),
   ("NaN".toList, .float .nan), ("Infinity".toList, .float (.infinite false)),
   ("-Infinity".toList, .float (.infinite true))]

/-- A name at the start of the text. -/
def named? (s : List Char) : Option (Value × List Char) :=
  names.findSome? fun (name, v) => (Text.afterWord? name s).map fun rest => (v, rest)

mutual

/-- The value at the start of the text, which starts with a token.  The fuel bounds the number of
tokens. -/
def value : (fuel : Nat) → List Char → Except Fault (Value × List Char)
  | 0, s => Fault.here .expectingValue s
  | fuel + 1, s =>
    match s with
    | [] => Fault.here .expectingValue s
    | c :: cs =>
      if c = '"' then do
        let (t, rest) ← stringText cs
        return (.string t, rest)
      else if c = '[' then
        match skipSpace cs with
        | ']' :: rest => .ok (.array [], rest)
        | rest => do
          let (xs, rest) ← items fuel rest
          return (.array xs, rest)
      else if c = '{' then
        match skipSpace cs with
        | '}' :: rest => .ok (.object [], rest)
        | rest => do
          let (fs, rest) ← members fuel [] rest
          return (.object fs, rest)
      else
        match named? s with
        | some r => .ok r
        | none => number s

/-- The items of an array up to its end. -/
def items : (fuel : Nat) → List Char → Except Fault (List Value × List Char)
  | 0, s => Fault.here .expectingValue s
  | fuel + 1, s => do
    let (x, rest) ← value fuel s
    match skipSpace rest with
    | ']' :: rest => return ([x], rest)
    | ',' :: rest => do
      let (xs, rest) ← items fuel (skipSpace rest)
      return (x :: xs, rest)
    | rest => Fault.here .expectingComma rest

/-- The fields of an object up to its end, added to those read so far. -/
def members : (fuel : Nat) → Fields → List Char → Except Fault (Fields × List Char)
  | 0, _, s => Fault.here .expectingValue s
  | fuel + 1, seen, s =>
    match s with
    | '"' :: cs => do
      let (key, rest) ← stringText cs
      match skipSpace rest with
      | ':' :: rest => do
        let (v, rest) ← value fuel (skipSpace rest)
        match skipSpace rest with
        | '}' :: rest => return (Fields.set seen key v, rest)
        | ',' :: rest => members fuel (Fields.set seen key v) (skipSpace rest)
        | rest => Fault.here .expectingComma rest
      | rest => Fault.here .expectingColon rest
    | _ => Fault.here .expectingName s

end

/-- The place of a fault in a text, counted in code points. -/
def locate (text : List Char) : Fault → ReadError
  | .tooManyDigits count => .tooManyDigits count
  | .at reason left =>
    let before := Text.codes (text.take (text.length - left))
    let line := before.count '\n'.toNat + 1
    let column := (before.reverse.takeWhile (· != '\n'.toNat)).length + 1
    .malformed reason line column before.length

/-- The value of a text, with no character but blanks after it. -/
def document (text : List Char) : Except Fault Value :=
  if text.head? = some '\uFEFF' then Fault.here .byteOrderMark text
  else do
    let (v, rest) ← value (2 * text.length + 2) (skipSpace text)
    match skipSpace rest with
    | [] => return v
    | rest => Fault.here .extraData rest

/-- The value of a JSON text, or the first fault in it. -/
def read (text : String) : Except ReadError Value :=
  (document text.toList).mapError (locate text.toList)

end Json

end BlockSketch
