/-
**The program.**

Reads the files that a command line is about, carries the command out, and writes the files that it
has changed.  The build tool is not called from here: to a command it is missing.
-/

import BlockSketch.Command.Run

set_option relaxedAutoImplicit false
set_option autoImplicit false

namespace BlockSketch

/-- The path of the file that a result goes to. -/
def Destination.path? : Destination → Option Path
  | .file p => some p
  | _ => none

/-- The paths of the files that a command may read or write. -/
def Command.paths (temporary : Path) : Command → List Path
  | .compile graph output _ _ => graph :: output.path?.toList
  | .importSketch sketch output => sketch :: output.path?.toList
  | .project graph _ _ _ folder _ =>
    let folder := (folderOf folder).getD temporary
    [graph, sourcePath folder, settingsPath folder]

/-- Whether a command works in a temporary folder. -/
def Command.isTemporary : Command → Bool
  | .project _ _ _ _ folder _ => (folderOf folder).isNone
  | _ => false

/-- The paths on the way to a path, and the path itself. -/
def Path.onWay (p : Path) : List Path :=
  (List.range (p.parts.length + 1)).map fun n => { p with parts := p.parts.take n }

/-- The place that a path leads to if there is a folder at each step. -/
def Path.place (p : Path) : Place :=
  p.parts.foldl (fun here part => if part = ".." then Place.parent here else here ++ [part])
    (if p.root = "" then [] else ["/"])

/-- The text of the path that leads to a place. -/
def Place.text : Place → String
  | "/" :: parts => "/" ++ "/".intercalate parts
  | parts => "/".intercalate parts

/-- Whether there is a folder at a path of the file system. -/
def isFolderOnDisk (path : String) : IO Bool := do
  try
    (← IO.FS.realPath (Text.plain path)).isDir
  catch _ => return false

/-- Adds what is at a path of the file system to a tree. -/
def addFromDisk (t : FileTree) (p : Path) : IO FileTree := do
  if ← isFolderOnDisk p.text then return { t with folders := t.folders ++ [p.place] }
  try
    let bytes ← IO.FS.readBinFile (Text.plain p.text)
    return { t with files := t.files ++ [(p.place, bytes.toList)] }
  catch _ => return t

/-- The part of the file system that some paths are about. -/
def treeOnDisk (paths : List Path) : IO FileTree :=
  (paths.flatMap Path.onWay).foldlM addFromDisk {}

/-- Writes the files of a tree that differ from those of another. -/
def writeToDisk (t old : FileTree) : IO Unit := do
  for (place, content) in t.changedFrom old do
    if 1 < place.length then IO.FS.createDirAll (Text.plain (Place.text place.dropLast))
    IO.FS.writeBinFile (Text.plain (Place.text place)) ⟨content.toArray⟩

/-- The session that a command line starts with. -/
def sessionOnDisk (arguments : List String) : IO Session := do
  match Invocation.ofArguments arguments with
  | .error _ => return {}
  | .ok i =>
    let temporary : Path ←
      if i.command.isTemporary then do
        let folder ← IO.FS.createTempDir
        pure (.ofText (Text.ofPlain folder.toString))
      else pure (.ofText "/tmp")
    let tree ← treeOnDisk (i.command.paths temporary)
    return { tree, temporary }

end BlockSketch

open BlockSketch in
/-- Carries out the command line. -/
def main (arguments : List String) : IO UInt32 := do
  let arguments := arguments.map Text.ofPlain
  let start ← sessionOnDisk arguments
  let outcome := runArguments arguments start
  writeToDisk outcome.tree start.tree
  (← IO.getStderr).putStr (Text.plain outcome.messages)
  (← IO.getStdout).putStr (Text.plain outcome.output)
  match outcome.exit with
  | .ok status => return UInt32.ofNat status
  | .error e =>
    (← IO.getStderr).putStrLn (Text.plain e.message)
    return 1
