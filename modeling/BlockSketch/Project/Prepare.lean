/-
**Projects for the build tool.**

A project is a folder with the sketch as a source file and the settings for a board.  Preparing one
compiles editor state, writes the two files and, if asked to, lets the build tool build and upload.
Before an upload the tool is asked for its version, so that nothing is written if it is missing.

Main definitions:

* `BlockSketch.ProjectRequest` — what is to be prepared;
* `BlockSketch.writeProject` — writing the files;
* `BlockSketch.prepare` — preparing a project.
-/

import BlockSketch.Workspace.Session

set_option relaxedAutoImplicit false
set_option autoImplicit false

namespace BlockSketch

/-- A project to be prepared. -/
structure ProjectRequest where
  /-- The editor state. -/
  state : Value
  port : String
  board : String := "uno"
  /-- The platform, if it is not to be that of the board. -/
  platform : Option String := none
  /-- The folder of the project, if it is not to be a temporary one. -/
  folder : Option Path
  upload : Bool := false

/-- The source file of a sketch. -/
def sourceText (sketch : String) : String :=
  "#include <Arduino.h>\n\n" ++ sketch

/-- The folder of the source file. -/
def sourceFolder (folder : Path) : Path :=
  folder.child "src"

/-- The path of the source file. -/
def sourcePath (folder : Path) : Path :=
  (sourceFolder folder).child "main.cpp"

/-- The path of the settings file. -/
def settingsPath (folder : Path) : Path :=
  folder.child "platformio.ini"

/-- Writes the files of a project: the source of the sketch, then the settings. -/
def writeProject (folder : Path) (libraries : List String) (board : Board) (sketch : String) :
    Work Unit := do
  Work.makeFolders (sourceFolder folder)
  Work.writeText (sourcePath folder) (sourceText sketch)
  Work.writeText (settingsPath folder) (board.settings libraries)
  Work.tell [.wroteProject board.name folder.text]

/-- Asks the build tool for its version. -/
def probeTool : Work Unit :=
  tryCatch (Work.runTool ["--version"] none) fun _ => throw .noTool

/-- Runs the build tool on a project. -/
def runOn (folder : Path) (arguments : List String) : Work Unit := do
  Work.tell [.runsTool arguments]
  Work.runTool arguments (some folder)

/-- Prepares a project and gives its sketch. -/
def prepare (r : ProjectRequest) : Work String := do
  let board ← Work.ofExcept Failure.board (Board.find r.board r.port r.platform)
  let compiled ← Work.ofExcept Failure.load (compile r.state .auto)
  Work.tell (compiled.notes ++ compiled.program.faults.map Note.alert)
  if r.upload then probeTool
  let s ← get
  let folder := r.folder.getD s.temporary
  writeProject folder compiled.program.libraries board compiled.sketch
  if r.upload then do
    runOn folder ["run"]
    runOn folder ["run", "-t", "upload"]
  return compiled.sketch

end BlockSketch
