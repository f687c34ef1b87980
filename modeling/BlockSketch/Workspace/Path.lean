/-
**Paths.**

A path is written with slashes between its parts.  Empty parts and parts that are a single dot mean
nothing and are left out; a part of two dots is kept, since only the files can tell where it leads.

Main definitions:

* `BlockSketch.Path` — paths, with `ofText`, `text`, `child`, `check`;
* `BlockSketch.PathFault`, `BlockSketch.PathError` — why a path cannot be used, with `message`.
-/

import BlockSketch.Text.Blank
import BlockSketch.Text.Utf8

set_option relaxedAutoImplicit false
set_option autoImplicit false

namespace BlockSketch

/-- A path. -/
structure Path where
  /-- What it starts from, if that is not the working folder. -/
  root : String := ""
  parts : List String
  deriving DecidableEq, Repr

namespace Path

/-- The root of a path that starts with so many slashes: two stand for themselves, and any other
number for one. -/
def rootOf : (slashes : Nat) → String
  | 0 => ""
  | 2 => "//"
  | _ => "/"

/-- The path that a text gives. -/
def ofText (s : String) : Path where
  root := rootOf (s.toList.takeWhile (· = '/')).length
  parts := ((Text.pieces '/' s.toList).map String.ofList).filter fun part => part ≠ "" ∧ part ≠ "."

/-- The text of a path; the working folder is a dot. -/
def text (p : Path) : String :=
  if p.root = "" ∧ p.parts = [] then "." else p.root ++ "/".intercalate p.parts

/-- The path of something in a folder. -/
def child (p : Path) (name : String) : Path :=
  { p with parts := p.parts ++ [name] }

/-- A path can be named to the file system, or why not. -/
def check (p : Path) : Except Utf8.EncodeFault Unit :=
  Utf8.checkName p.text

end Path

/-- Why a path cannot be used. -/
inductive PathFault where
  /-- There is nothing at the path. -/
  | absent
  /-- There is something at a path that is to be made. -/
  | taken
  /-- A part of the path that is not the last is a file. -/
  | notFolder
  /-- The path of a file leads to a folder. -/
  | folder
  /-- A part, or the path, is too long. -/
  | tooLong
  /-- There is a null character in the path. -/
  | null
  deriving DecidableEq, Repr

namespace PathFault

/-- The number of a fault.  A path that leads nowhere from the start has none. -/
def code? : PathFault → Option Nat
  | .absent => some 2
  | .taken => some 17
  | .notFolder => some 20
  | .folder => some 21
  | .tooLong => some 36
  | .null => none

/-- The wording of a fault. -/
def text : PathFault → String
  | .absent => "No such file or directory"
  | .taken => "File exists"
  | .notFolder => "Not a directory"
  | .folder => "Is a directory"
  | .tooLong => "File name too long"
  | .null => "embedded null byte"

end PathFault

/-- A path that cannot be used. -/
structure PathError where
  fault : PathFault
  path : String
  deriving DecidableEq, Repr

/-- The message of an error: with the number of the fault goes the path. -/
def PathError.message (e : PathError) : String :=
  match e.fault.code? with
  | some code => "[Errno " ++ toString code ++ "] " ++ e.fault.text ++ ": " ++ Text.quoted e.path
  | none => e.fault.text

end BlockSketch
