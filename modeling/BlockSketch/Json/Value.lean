/-
**JSON values.**

Editor state is a JSON value.  The fields of an object keep their order, and integers stay apart
from numbers with a fraction: the first are exact, the second are values of the binary64 format.

Main definitions:

* `BlockSketch.Value` — the values;
* `BlockSketch.Fields` — the fields of an object, with `get?` and `set`;
* `BlockSketch.Value.string?`, `BlockSketch.Value.object?`, `BlockSketch.Value.array?` — the
  contents of a value of the given form.
-/

import BlockSketch.Number.Binary64

set_option relaxedAutoImplicit false
set_option autoImplicit false

namespace BlockSketch

/-- A JSON value. -/
inductive Value where
  | null
  | bool (b : Bool)
  | int (n : Int)
  | float (x : Binary64)
  | string (s : String)
  | array (items : List Value)
  | object (fields : List (String × Value))
  deriving Inhabited

/-- The fields of an object, in order. -/
abbrev Fields := List (String × Value)

namespace Fields

/-- The value of the first field of the given name. -/
def get? (fs : Fields) (key : String) : Option Value :=
  List.lookup key fs

/-- Gives a field a new value at its place, or adds it at the end. -/
def set : Fields → String → Value → Fields
  | [], key, v => [(key, v)]
  | (k, w) :: fs, key, v => if k = key then (k, v) :: fs else (k, w) :: set fs key v

/-- Sets one field after the other. -/
def setAll (fs : Fields) (news : Fields) : Fields :=
  news.foldl (fun acc f => set acc f.1 f.2) fs

/-- The fields whose names are not in the list. -/
def without (fs : Fields) (names : List String) : Fields :=
  fs.filter fun f => !names.contains f.1

end Fields

namespace Value

/-- The text of a string value. -/
def string? : Value → Option String
  | .string s => some s
  | _ => none

/-- The fields of an object value. -/
def object? : Value → Option Fields
  | .object fs => some fs
  | _ => none

/-- The items of an array value. -/
def array? : Value → Option (List Value)
  | .array xs => some xs
  | _ => none

/-- A field of an object value. -/
def field? (v : Value) (key : String) : Option Value :=
  v.object?.bind fun fs => Fields.get? fs key

/-- A field of an object value that holds a text. -/
def text? (v : Value) (key : String) : Option String :=
  (v.field? key).bind string?

end Value

end BlockSketch
