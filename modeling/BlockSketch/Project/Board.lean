/-
**Boards.**

A project is made for one board, and a board belongs to one platform of the build tool.

Main definitions:

* `BlockSketch.Board` — a board with its platform and the port that it is connected to;
* `BlockSketch.Board.find` — the board of a name, with `BlockSketch.BoardError` if there is none;
* `BlockSketch.Board.settings` — the settings file of a project for the board.
-/

set_option relaxedAutoImplicit false
set_option autoImplicit false

namespace BlockSketch

/-- A board, its platform and its port. -/
structure Board where
  name : String
  platform : String
  port : String
  deriving DecidableEq, Repr

/-- Why there is no board. -/
inductive BoardError where
  | unknown (name : String)
  /-- The board belongs to another platform than the given one. -/
  | platform (name required given : String)
  deriving DecidableEq, Repr

namespace Board

/-- The names of the supported boards, sorted, with their platforms. -/
def platforms : List (String × String) :=
  [("due", "atmelsam"), ("esp32dev", "espressif32"), ("esp32doit-devkit-v1", "espressif32"),
    ("megaatmega2560", "atmelavr"), ("nano", "atmelavr"), ("uno", "atmelavr")]

/-- The supported board of a name.  A platform may be given, and then it has to be the right one. -/
def find (name port : String) (platform : Option String) : Except BoardError Board :=
  match platforms.lookup name with
  | none => .error (.unknown name)
  | some required =>
    match platform with
    | none => .ok ⟨name, required, port⟩
    | some given =>
      if given = required then .ok ⟨name, required, port⟩
      else .error (.platform name required given)

/-! ### Settings -/

/-- The characters of environment names. -/
def isNameChar (c : Char) : Bool :=
  c.isAlphanum || c == '_'

/-- A name with each run of other characters as one underscore. -/
def joinOthers : List Char → List Char
  | [] => []
  | c :: cs =>
    if isNameChar c then c :: joinOthers cs
    else
      match cs with
      | [] => ['_']
      | d :: _ => if isNameChar d then '_' :: joinOthers cs else joinOthers cs

/-- The name of the build environment of a board. -/
def environment (b : Board) : String :=
  String.ofList (joinOthers b.name.toList)

/-- The lines of the settings file of a project.  Each of the given libraries is named once. -/
def settingLines (b : Board) (libraries : List String) : List String :=
  ["[env:" ++ b.environment ++ "]", "platform = " ++ b.platform, "board = " ++ b.name,
    "framework = arduino", "upload_port = " ++ b.port] ++
    (if libraries.isEmpty then []
    else ["", "lib_deps ="] ++ libraries.eraseDups.map fun name => "  " ++ name)

/-- The settings file of a project with the given libraries. -/
def settings (b : Board) (libraries : List String) : String :=
  "\n".intercalate (b.settingLines libraries) ++ "\n"

end Board

/-- The message of an error. -/
def BoardError.message : BoardError → String
  | .unknown name =>
    "Unsupported PlatformIO board '" ++ name ++ "'. Supported boards: " ++
      ", ".intercalate (Board.platforms.map Prod.fst) ++ "."
  | .platform name required given =>
    "Board '" ++ name ++ "' requires PlatformIO platform '" ++ required ++ "', not '" ++ given ++
      "'."

end BlockSketch
