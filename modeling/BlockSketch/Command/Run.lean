/-
**Running commands.**

A command line is carried out in a session, with its files and given outcomes of the build tool.  It
has an exit status: 0 for success, 1 for a failure, and 2 for a command line that is refused.  A value
that is left blank where the work cannot go on without it breaks the program off.

Main definitions:

* `BlockSketch.Command.perform` — the work of a command, which gives its exit status;
* `BlockSketch.Outcome` — what a command line comes to;
* `BlockSketch.runArguments` — carrying out a command line.
-/

import BlockSketch.Command.Invocation
import BlockSketch.Json.Writer
import BlockSketch.Project.Prepare

set_option relaxedAutoImplicit false
set_option autoImplicit false

namespace BlockSketch

namespace Work

/-- The JSON value in a file. -/
def readJson (p : Path) : Work Value := do
  let text ← readText p
  ofExcept Failure.json (Json.read text)

/-- Brings a text to its destination. -/
def deliver (text : String) : Destination → Work Unit
  | .printed => print text
  | .file p => writeText p text
  | .blank => throw .blankOutput

end Work

/-- The name of a board. -/
def boardName : Setting → Work String
  | .blank => throw .blankBoard
  | .text name => pure name

/-- The folder of a project; a blank one stands for a temporary folder. -/
def folderOf : Setting → Option Path
  | .blank => none
  | .text value => some (.ofText value)

/-- The text of the folder of a project in messages. -/
def folderText (folder : Setting) : String :=
  ((folderOf folder).map Path.text).getD folder.shown

/-- The work of a command, which gives its exit status. -/
def Command.perform : Command → Work Nat
  | .compile graph output mode strict => do
    let state ← Work.readJson graph
    let mode ← Work.ofExcept Failure.load (Mode.ofTag mode)
    let compiled ← Work.ofExcept Failure.load (BlockSketch.compile state mode)
    Work.tell (compiled.notes ++ compiled.program.reports)
    Work.deliver compiled.sketch output
    return if strict && !compiled.program.faults.isEmpty then 1 else 0
  | .importSketch sketch output => do
    let text ← Work.readText sketch
    let imported ← Work.ofExcept Failure.sketch (importGraph text)
    Work.tell imported.notes
    Work.deliver (Json.write .indented 0 imported.graph.toValue ++ "\n") output
    return 0
  | .project graph port platform board folder upload => do
    let state ← Work.readJson graph
    let board ← boardName board
    let _ ← prepare { state, port, board, platform, folder := folderOf folder, upload }
    Work.tell [.projectReady (folderText folder)]
    return 0

/-- What a command line comes to. -/
structure Outcome where
  /-- The exit status, or the failure that breaks the program off. -/
  exit : Except Failure Nat
  output : String := ""
  /-- The lines that go beside the output. -/
  messages : String := ""
  /-- The files afterwards. -/
  tree : FileTree
  /-- The runs of the build tool. -/
  runs : List ToolRun := []

/-- The exit status of a result and the last note on it. -/
def ending : Except Failure Nat → Except Failure Nat × List Note
  | .ok status => (.ok status, [])
  | .error e => if e.isBreak then (.error e, []) else (.ok 1, [.failed e.message])

/-- Carries out an invocation. -/
def Invocation.run (i : Invocation) (start : Session) : Outcome :=
  let (result, s) := i.command.perform.start start
  let (exit, last) := ending result
  { exit, output := s.output, messages := Note.lines i.verbose (s.notes ++ last)
    tree := s.tree, runs := s.runs }

/-- How the program is called. -/
def usage : String :=
  "usage: blockduino [-h] [-v] \x7bcompile,import,project\x7d ...\n"

/-- Carries out a command line. -/
def runArguments (arguments : List String) (start : Session) : Outcome :=
  match Invocation.ofArguments arguments with
  | .ok i => i.run start
  | .error (.help _) => { exit := .ok 0, output := usage, tree := start.tree }
  | .error (.refused command fault) =>
    { exit := .ok 2, messages := Text.legible (command ++ ": error: " ++ fault.message) ++ "\n"
      tree := start.tree }

end BlockSketch
