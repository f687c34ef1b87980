/-
**Texts and bytes.**

A file is a list of bytes; as a text it has to be UTF-8.  The decoder takes one byte at a time.  After
the first byte of a longer character it knows how many bytes are owed and between which bounds the
next one lies, so that overlong forms, surrogates and values beyond the last character are refused at
their second byte.

The other way round, a text has bytes if it holds no surrogate.  The names of files are less strict:
the surrogates from `U+DC80` to `U+DCFF` stand for single bytes that are not UTF-8.

Main definitions:

* `BlockSketch.Utf8.Fault` — where and why bytes are not UTF-8, with `message`;
* `BlockSketch.Utf8.decode` — the text of a list of bytes;
* `BlockSketch.Utf8.EncodeFault` — where a text has no bytes, with `message`;
* `BlockSketch.Utf8.encode`, `BlockSketch.Utf8.encode?` — the bytes of the characters of a text, and the
  bytes of a text, if it has any;
* `BlockSketch.Utf8.nameBytes`, `BlockSketch.Utf8.checkName` — the bytes of the name of a file, if it can
  have this name.
-/

import BlockSketch.Text.Quoted

set_option relaxedAutoImplicit false
set_option autoImplicit false

namespace BlockSketch.Utf8

/-- Why bytes are not UTF-8. -/
inductive Reason where
  /-- No character starts with this byte. -/
  | start
  /-- The next byte does not continue the character. -/
  | continuation
  /-- The bytes end inside the character. -/
  | cut
  deriving DecidableEq, Repr

/-- The wording of a reason. -/
def Reason.text : Reason → String
  | .start => "invalid start byte"
  | .continuation => "invalid continuation byte"
  | .cut => "unexpected end of data"

/-- The first bytes that are not UTF-8. -/
structure Fault where
  /-- The place of the first such byte. -/
  first : Nat
  /-- How many they are. -/
  count : Nat
  /-- The first such byte. -/
  byte : UInt8
  reason : Reason
  deriving DecidableEq, Repr

/-- The message of a fault. -/
def Fault.message (f : Fault) : String :=
  "'utf-8' codec can't decode " ++
    (if f.count = 1 then
      "byte 0x" ++ String.ofList (Text.hexDigits 2 f.byte.toNat) ++ " in position " ++
        toString f.first
    else "bytes in position " ++ toString f.first ++ "-" ++ toString (f.first + f.count - 1)) ++
    ": " ++ f.reason.text

/-- A character of which some bytes are still owed. -/
structure Begun where
  /-- The first byte of the character. -/
  lead : UInt8
  /-- How many of its bytes have been read. -/
  read : Nat
  /-- The value of the bytes read. -/
  value : Nat
  /-- How many bytes are owed after the next one. -/
  owed : Nat
  /-- The least byte that may come next. -/
  low : Nat := 0x80
  /-- The greatest byte that may come next. -/
  high : Nat := 0xBF

/-- The character that a byte of at least `0x80` starts. -/
def start? (b : UInt8) : Option Begun :=
  let n := b.toNat
  if n < 0xC2 then none
  else if n < 0xE0 then some { lead := b, read := 1, value := n - 0xC0, owed := 0 }
  else if n < 0xF0 then
    some { lead := b, read := 1, value := n - 0xE0, owed := 1
           low := if n = 0xE0 then 0xA0 else 0x80, high := if n = 0xED then 0x9F else 0xBF }
  else if n < 0xF5 then
    some { lead := b, read := 1, value := n - 0xF0, owed := 2
           low := if n = 0xF0 then 0x90 else 0x80, high := if n = 0xF4 then 0x8F else 0xBF }
  else none

/-- The text of the bytes from the given place on, after the part of a character. -/
def decodeFrom : (place : Nat) → Option Begun → List UInt8 → Except Fault (List Char)
  | _, none, [] => .ok []
  | place, some p, [] => .error ⟨place - p.read, p.read, p.lead, .cut⟩
  | place, none, b :: bs =>
    if b.toNat < 0x80 then (decodeFrom (place + 1) none bs).map (Char.ofNat b.toNat :: ·)
    else
      match start? b with
      | some p => decodeFrom (place + 1) (some p) bs
      | none => .error ⟨place, 1, b, .start⟩
  | place, some p, b :: bs =>
    if p.low ≤ b.toNat ∧ b.toNat ≤ p.high then
      let value := p.value * 64 + (b.toNat - 0x80)
      match p.owed with
      | 0 => (decodeFrom (place + 1) none bs).map (Text.held value ++ ·)
      | owed + 1 =>
        decodeFrom (place + 1) (some { lead := p.lead, read := p.read + 1, value, owed }) bs
    else .error ⟨place - p.read, p.read, p.lead, .continuation⟩

/-- The text of a list of bytes. -/
def decode (bytes : List UInt8) : Except Fault String :=
  (decodeFrom 0 none bytes).map String.ofList

/-! ### Bytes of texts -/

/-- Surrogates in a row, which have no bytes. -/
structure EncodeFault where
  /-- The place of the first of them, counted in code points. -/
  first : Nat
  /-- How many they are. -/
  count : Nat
  /-- The first of them. -/
  code : Nat
  deriving DecidableEq, Repr

/-- The message of a fault. -/
def EncodeFault.message (f : EncodeFault) : String :=
  "'utf-8' codec can't encode " ++
    (if f.count = 1 then
      "character '" ++ String.ofList (Text.codeEscape f.code) ++ "' in position " ++ toString f.first
    else
      "characters in position " ++ toString f.first ++ "-" ++ toString (f.first + f.count - 1)) ++
    ": surrogates not allowed"

/-- The first code point that is refused, with the surrogates that follow it. -/
def faultAt? (refused : Nat → Bool) (ns : List Nat) : Option EncodeFault :=
  match ns.dropWhile fun n => !refused n with
  | [] => none
  | n :: rest =>
    some ⟨(ns.takeWhile fun n => !refused n).length, 1 + (rest.takeWhile Text.isSurrogate).length, n⟩

/-- The first surrogates of a text. -/
def fault? (s : String) : Option EncodeFault :=
  faultAt? Text.isSurrogate (Text.codes s.toList)

/-- The bytes of the characters of a text. -/
def encode (s : String) : List UInt8 :=
  (Text.plain s).toUTF8.toList

/-- The bytes of a text; it has none if it holds a surrogate. -/
def encode? (s : String) : Except EncodeFault (List UInt8) :=
  match fault? s with
  | some f => .error f
  | none => .ok (encode s)

/-! ### Names of files -/

/-- Whether a surrogate stands for a byte in the name of a file. -/
def isEscapedByte (n : Nat) : Bool :=
  0xDC80 ≤ n && n < 0xDD00

/-- The bytes of the name of a file. -/
def nameBytes (s : String) : List UInt8 :=
  (Text.codes s.toList).flatMap fun n =>
    if isEscapedByte n then [UInt8.ofNat (n - 0xDC00)] else String.utf8EncodeChar (Char.ofNat n)

/-- Whether a file can have a name, or why not. -/
def checkName (s : String) : Except EncodeFault Unit :=
  match faultAt? (fun n => Text.isSurrogate n && !isEscapedByte n) (Text.codes s.toList) with
  | some f => .error f
  | none => .ok ()

end BlockSketch.Utf8
