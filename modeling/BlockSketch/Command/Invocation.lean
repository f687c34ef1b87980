/-
**Commands.**

The program has three commands: one compiles a graph to a sketch, one imports a sketch as a graph, and
one prepares a project for a board.

Main definitions:

* `BlockSketch.Command` — the commands with their settings, and `BlockSketch.Destination` for where a
  result goes;
* `BlockSketch.Invocation` — a command and how much is told about it;
* `BlockSketch.Invocation.ofArguments` — the invocation that a command line asks for.
-/

import BlockSketch.Command.Options
import BlockSketch.Graph.Load
import BlockSketch.Workspace.Path

set_option relaxedAutoImplicit false
set_option autoImplicit false

namespace BlockSketch

/-! ### Forms -/

/-- The option that asks for help. -/
def helpOption : OptionForm where
  key := .help
  names := ["-h", "--help"]
  takesValue := false

/-- The option that names a file for the result. -/
def outputOption : OptionForm where
  key := .output
  names := ["-o", "--output"]

/-- The form of the whole command line. -/
def programForm : CommandForm where
  name := "blockduino"
  options := [helpOption, { key := .verbose, names := ["-v", "--verbose"], takesValue := false }]
  operand := "command"

/-- The form of the command that compiles. -/
def compileForm : CommandForm where
  name := "blockduino compile"
  options := [helpOption, outputOption,
    { key := .mode, names := ["--mode"], choices := Mode.all.map Mode.tag },
    { key := .strict, names := ["--strict"], takesValue := false }]
  operand := "graph"

/-- The form of the command that imports. -/
def importForm : CommandForm where
  name := "blockduino import"
  options := [helpOption, outputOption]
  operand := "sketch"

/-- The form of the command that prepares a project. -/
def projectForm : CommandForm where
  name := "blockduino project"
  options := [helpOption, { key := .port, names := ["--port"], required := true },
    { key := .platform, names := ["--platform"] }, { key := .board, names := ["--board"] },
    { key := .folder, names := ["--dir"] },
    { key := .upload, names := ["--upload"], takesValue := false }]
  operand := "graph"

/-! ### Invocations -/

/-- Where the result of a command goes. -/
inductive Destination where
  /-- It is put out. -/
  | printed
  | file (p : Path)
  /-- To a file whose path is left blank. -/
  | blank
  deriving DecidableEq, Repr

/-- The destination that an option gives. -/
def Destination.ofSetting? : Option Setting → Destination
  | none => .printed
  | some .blank => .blank
  | some (.text value) => .file (.ofText value)

/-- A command with its settings. -/
inductive Command where
  /-- Compiles a graph in the mode with a tag. -/
  | compile (graph : Path) (output : Destination) (mode : String) (strict : Bool)
  | importSketch (sketch : Path) (output : Destination)
  | project (graph : Path) (port : String) (platform : Option String) (board folder : Setting)
      (upload : Bool)
  deriving DecidableEq, Repr

namespace Command

/-- The command that compiles, with the settings of a line. -/
def ofCompileLine (l : Line) : Command :=
  .compile (.ofText (l.operand.getD "")) (.ofSetting? (l.value? .output))
    (((l.value? .mode).map Setting.shown).getD Mode.auto.tag) (l.has .strict)

/-- The command that imports, with the settings of a line. -/
def ofImportLine (l : Line) : Command :=
  .importSketch (.ofText (l.operand.getD "")) (.ofSetting? (l.value? .output))

/-- The command that prepares a project, with the settings of a line. -/
def ofProjectLine (l : Line) : Command :=
  .project (.ofText (l.operand.getD "")) (((l.value? .port).map Setting.shown).getD "")
    ((l.value? .platform).map Setting.shown) ((l.value? .board).getD (.text "uno"))
    ((l.value? .folder).getD (.text "blockduino-project")) (l.has .upload)

/-- The names of the commands, each with its form and the command that a line of it gives. -/
def table : List (String × CommandForm × (Line → Command)) :=
  [("compile", compileForm, ofCompileLine), ("import", importForm, ofImportLine),
    ("project", projectForm, ofProjectLine)]

end Command

/-- A command and how it is to be carried out. -/
structure Invocation where
  command : Command
  /-- Whether the steps of the work are told. -/
  verbose : Bool := false
  deriving DecidableEq, Repr

/-- The invocation that a command line asks for. -/
def Invocation.ofArguments (arguments : List String) : Except UsageError Invocation := do
  let words ← (programForm.sortWords arguments).mapError (.refused programForm.name)
  let (top, rest) ← programForm.readName false {} words
  match top.operand with
  | none => programForm.refuse (.missing (programForm.lacking top))
  | some name =>
    match Command.table.lookup name with
    | none =>
      programForm.refuse (.invalidChoice programForm.operand name (Command.table.map Prod.fst))
    | some (form, command) =>
      let l ← form.readLine rest
      match top.extras ++ l.extras with
      | [] => return { command := command l, verbose := top.has .verbose }
      | extras => programForm.refuse (.unrecognized extras)

end BlockSketch
