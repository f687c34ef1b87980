/-
**Work on files.**

A command reads and writes files, runs the build tool and tells notes.  Its session holds all of this,
and what has been done by the time of a failure stays done.

Main definitions:

* `BlockSketch.Session` — files, outcomes of the runs to come, runs made, notes and output;
* `BlockSketch.Failure` — why a command fails, with `message` and `isBreak`;
* `BlockSketch.Work` — an action in a session, with the basic actions `tell`, `print`, `readText`,
  `writeBytes`, `writeText`, `makeFolders` and `runTool`.
-/

import BlockSketch.Json.Reader
import BlockSketch.Project.Board
import BlockSketch.Sketch.Compile
import BlockSketch.Text.Utf8
import BlockSketch.Workspace.FileTree
import BlockSketch.Workspace.Note
import BlockSketch.Workspace.Tool

set_option relaxedAutoImplicit false
set_option autoImplicit false

namespace BlockSketch

/-- Why a command fails. -/
inductive Failure where
  | path (e : PathError)
  /-- The bytes of a file are no text. -/
  | encoding (f : Utf8.Fault)
  /-- A text, or the name of a file, has no bytes. -/
  | unencodable (f : Utf8.EncodeFault)
  | json (e : Json.ReadError)
  | load (e : LoadError)
  | sketch (e : ImportError)
  | board (e : BoardError)
  | tool (e : ToolFailure)
  /-- The build tool does not answer. -/
  | noTool
  /-- The path of the file for the result is left blank. -/
  | blankOutput
  /-- The name of the board is left blank. -/
  | blankBoard

/-- The message of a failure. -/
def Failure.message : Failure → String
  | .path e => e.message
  | .encoding f => f.message
  | .unencodable f => f.message
  | .json e => e.message
  | .load e => e.message
  | .sketch e => e.message
  | .board e => e.message
  | .tool e => e.message
  | .noTool => "PlatformIO (pio) not found. Install with: pip install platformio"
  | .blankOutput => "'list' object has no attribute 'write_text'"
  | .blankBoard => "unhashable type: 'list'"

/-- Whether a failure breaks the program off, so that it is not reported and has no exit status. -/
def Failure.isBreak : Failure → Bool
  | .blankOutput => true
  | .blankBoard => true
  | _ => false

/-- What a command works with. -/
structure Session where
  tree : FileTree := {}
  /-- A fresh folder outside the tree, for a project that has no folder of its own. -/
  temporary : Path := .ofText "/tmp"
  /-- The outcomes of the runs to come.  When there is none left, the tool is missing. -/
  outcomes : List ToolOutcome := []
  /-- The runs that have been made. -/
  runs : List ToolRun := []
  notes : List Note := []
  output : String := ""

/-- An action in a session.  A failure keeps the session. -/
abbrev Work := ExceptT Failure (StateM Session)

namespace Work

/-- The result of an action and the session after it. -/
def start {α : Type} (w : Work α) (s : Session) : Except Failure α × Session :=
  (w.run).run s

/-- The value of a computation, or its error as a failure. -/
def ofExcept {ε α : Type} (wrap : ε → Failure) : Except ε α → Work α
  | .ok a => pure a
  | .error e => throw (wrap e)

/-- Tells notes. -/
def tell (notes : List Note) : Work Unit :=
  modify fun s => { s with notes := s.notes ++ notes }

/-- Puts a text out. -/
def print (text : String) : Work Unit := do
  let _ ← ofExcept Failure.unencodable (Utf8.encode? text)
  modify fun s => { s with output := s.output ++ text }

/-- The text of a file, with every line end a single line feed. -/
def readText (p : Path) : Work String := do
  ofExcept Failure.unencodable p.check
  let s ← get
  let bytes ← ofExcept Failure.path (s.tree.read p)
  let text ← ofExcept Failure.encoding (Utf8.decode bytes)
  return String.ofList (Text.unifyLineEnds text.toList)

/-- Gives the file at a path a content. -/
def writeBytes (p : Path) (content : Bytes) : Work Unit := do
  let s ← get
  let tree ← ofExcept Failure.path (s.tree.write p content)
  set { s with tree }

/-- Writes a text to a file.  The file is empty before its new content is known, and it stays so if the
text has no bytes. -/
def writeText (p : Path) (text : String) : Work Unit := do
  ofExcept Failure.unencodable p.check
  writeBytes p []
  let content ← ofExcept Failure.unencodable (Utf8.encode? text)
  writeBytes p content

/-- Makes a folder and those above it that are missing. -/
def makeFolders (p : Path) : Work Unit := do
  ofExcept Failure.unencodable p.check
  let s ← get
  let tree ← ofExcept Failure.path (s.tree.makeFolders p)
  set { s with tree }

/-- Runs the build tool, which takes the next outcome. -/
def runTool (arguments : List String) (folder : Option Path) : Work Unit := do
  let s ← get
  let run : ToolRun := ⟨arguments, folder.map Path.text⟩
  set { s with outcomes := s.outcomes.tail, runs := s.runs ++ [run] }
  match run.failure? (s.outcomes.headD .missing) with
  | some e => throw (.tool e)
  | none => pure ()

end Work

end BlockSketch
