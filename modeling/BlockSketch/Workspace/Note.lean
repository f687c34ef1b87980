/-
**Notes.**

What a command tells beside its result.  Steps of the work are told only to those who ask for them,
faults of a program that is prepared for upload always, and reports go out as they are.

Main definitions:

* `BlockSketch.Note` — the notes;
* `BlockSketch.Note.line?` — the line that tells a note, if it is told.
-/

import BlockSketch.Program.Fault
import BlockSketch.Workspace.Tool

set_option relaxedAutoImplicit false
set_option autoImplicit false

namespace BlockSketch

/-- What there is to tell. -/
inductive Note where
  /-- State is taken as a linear graph. -/
  | linearState (nodes : Nat)
  /-- The chain of a root comes back to a block. -/
  | revisit (root id : String)
  /-- A linear graph has been upgraded. -/
  | upgraded (linear typed endBlocks : Nat)
  /-- A program has been built. -/
  | built (setup loop faults warnings : Nat)
  /-- A sketch has no loop function that can be read. -/
  | noLoop
  /-- The files of a project have been written. -/
  | wroteProject (board folder : String)
  /-- The build tool is about to run. -/
  | runsTool (arguments : List String)
  /-- A program that is prepared for upload has a fault. -/
  | alert (fault : Fault)
  /-- A compiled program has a fault. -/
  | fault (f : Fault)
  /-- A compiled program has a warning. -/
  | warning (w : Warning)
  /-- A project is complete. -/
  | projectReady (folder : String)
  /-- The command failed. -/
  | failed (message : String)

namespace Note

/-- The text of a note. -/
def text : Note → String
  | .linearState nodes => "parsing " ++ toString nodes ++ " nodes as a legacy graph"
  | .revisit root id => "legacy chain from '" ++ root ++ "' revisits '" ++ id ++ "'; stopping"
  | .upgraded linear typed endBlocks =>
    "migrated legacy graph: " ++ toString linear ++ " linear edges -> " ++ toString typed ++
      " typed edges, " ++ toString endBlocks ++ " end blocks dropped"
  | .built setup loop faults warnings =>
    "built program: " ++ toString setup ++ " setup / " ++ toString loop ++ " loop statements, " ++
      toString faults ++ " errors, " ++ toString warnings ++ " warnings"
  | .noLoop => "no loop() body found in imported source"
  | .wroteProject board folder => "wrote PlatformIO project for " ++ board ++ " to " ++ folder
  | .runsTool arguments => "running " ++ " ".intercalate (toolName :: arguments)
  | .alert f => f.message
  | .fault f => "[error] " ++ f.message
  | .warning w => "[warning] " ++ w.message
  | .projectReady folder => "PlatformIO project written to " ++ folder
  | .failed message => "[error] " ++ message

/-- The part of the program that a step of the work belongs to. -/
def step? : Note → Option String
  | .linearState _ => some "Blockduino.transpile.parser"
  | .revisit .. | .upgraded .. => some "Blockduino.transpile.migrate"
  | .built .. => some "Blockduino.transpile.builder"
  | .noLoop => some "Blockduino.transpile.importer"
  | .wroteProject .. | .runsTool _ => some "Blockduino.toolchain.pio"
  | .alert _ | .fault _ | .warning _ | .projectReady _ | .failed _ => none

/-- The line that tells a note.  Without detail, steps of the work are not told. -/
def line? (detailed : Bool) (n : Note) : Option String :=
  match n.step?, n with
  | some part, n => if detailed then some ("DEBUG:" ++ part ++ ":" ++ n.text) else none
  | none, .alert f => some (if detailed then "WARNING:Blockduino:" ++ f.message else f.message)
  | none, n => some n.text

/-- The lines that tell some notes, each with its line end.  Surrogates are written out in them. -/
def lines (detailed : Bool) (ns : List Note) : String :=
  String.join ((ns.filterMap (line? detailed)).map fun line => Text.legible line ++ "\n")

end Note

end BlockSketch
