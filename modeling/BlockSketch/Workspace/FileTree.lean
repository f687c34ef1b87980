/-
**Files and folders.**

The files that a command works on are a value.  A path is followed part by part from the working
folder: each step needs a folder to start from, two dots lead to the folder above, and the last part
may name something that is not there yet.

Main definitions:

* `BlockSketch.Place` — where a file or folder is, without any detours;
* `BlockSketch.FileTree` — files and folders, with `resolve`, `read`, `write`, `makeFolders`;
* `BlockSketch.FileTree.changedFrom` — the files that another tree does not have.
-/

import BlockSketch.Workspace.Path

set_option relaxedAutoImplicit false
set_option autoImplicit false

namespace BlockSketch

/-- Where a file or folder is: the names on the way to it from the working folder.  Places outside
start with the topmost folder `/`, or with as many double dots as lead up. -/
abbrev Place := List String

namespace Place

/-- Whether a place is the working folder, a folder above it, or the topmost one. -/
def isAbove (here : Place) : Bool :=
  here == ["/"] || here.all (· == "..")

/-- The folder above a place. -/
def parent (here : Place) : Place :=
  if here = ["/"] then here
  else if here.all (· == "..") then ".." :: here
  else here.dropLast

end Place

/-- The content of a file. -/
abbrev Bytes := List UInt8

/-- Files and folders. -/
structure FileTree where
  files : List (Place × Bytes) := []
  folders : List Place := []
  deriving DecidableEq, Repr

namespace FileTree

/-- The folders on the way to a place. -/
def foldersOnWay (place : Place) : List Place :=
  (List.range place.length).map fun n => place.take n

/-- The tree with the given files and the folders that they need. -/
def ofFiles (files : List (Place × Bytes)) : FileTree where
  files := files
  folders := files.flatMap fun f => foldersOnWay f.1

/-- The content of the file at a place. -/
def file? (t : FileTree) (place : Place) : Option Bytes :=
  (t.files.find? fun f => f.1 == place).map Prod.snd

/-- Whether there is a folder at a place. -/
def isFolder (t : FileTree) (place : Place) : Bool :=
  place.isAbove || t.folders.contains place

/-- The greatest number of bytes of a part of a path. -/
def maxPartSize : Nat :=
  255

/-- The greatest number of bytes of a path. -/
def maxPathSize : Nat :=
  4095

/-- The place that the parts of a path lead to from a place. -/
def walk (t : FileTree) : Place → List String → Except PathFault Place
  | here, [] => .ok here
  | here, part :: parts =>
    if !t.isFolder here then .error (if (t.file? here).isSome then .notFolder else .absent)
    else if part = ".." then walk t here.parent parts
    else if maxPartSize < (Utf8.nameBytes part).length then .error .tooLong
    else walk t (here ++ [part]) parts

/-- The place that a path leads to. -/
def resolve (t : FileTree) (p : Path) : Except PathFault Place :=
  if p.text.toList.contains '\x00' then .error .null
  else if maxPathSize < (Utf8.nameBytes p.text).length then .error .tooLong
  else t.walk (if p.root = "" then [] else ["/"]) p.parts

/-- Whether a path leads to a folder. -/
def isFolderAt (t : FileTree) (p : Path) : Bool :=
  match t.resolve p with
  | .ok place => t.isFolder place
  | .error _ => false

/-! ### Reading and writing -/

/-- The content of the file at a path. -/
def read (t : FileTree) (p : Path) : Except PathError Bytes := do
  let place ← (t.resolve p).mapError (⟨·, p.text⟩)
  if t.isFolder place then .error ⟨.folder, p.text⟩
  else
    match t.file? place with
    | some content => .ok content
    | none => .error ⟨.absent, p.text⟩

/-- Gives the file at a place a content: at its position, or at the end if it is new. -/
def setFile (place : Place) (content : Bytes) : List (Place × Bytes) → List (Place × Bytes)
  | [] => [(place, content)]
  | f :: fs => if f.1 = place then (place, content) :: fs else f :: setFile place content fs

/-- Writes the file at a path.  The folder that it is in has been met on the way. -/
def write (t : FileTree) (p : Path) (content : Bytes) : Except PathError FileTree := do
  let place ← (t.resolve p).mapError (⟨·, p.text⟩)
  if t.isFolder place then .error ⟨.folder, p.text⟩
  else .ok { t with files := setFile place content t.files }

/-! ### Making folders -/

/-- Makes the folder at a path, where nothing may be. -/
def makeFolder (t : FileTree) (p : Path) : Except PathFault FileTree := do
  let place ← t.resolve p
  if t.isFolder place || (t.file? place).isSome then .error .taken
  else .ok { t with folders := t.folders ++ [place] }

/-- Makes the folder with the parts in reverse, and those above it that are missing. -/
def makeFoldersUp (t : FileTree) (root : String) : List String → Except PathError FileTree
  | [] => .ok t
  | part :: above => do
    let p : Path := ⟨root, (part :: above).reverse⟩
    match t.makeFolder p with
    | .ok t => .ok t
    | .error .absent =>
      let t ← makeFoldersUp t root above
      match t.makeFolder p with
      | .ok t => .ok t
      | .error fault => if t.isFolderAt p then .ok t else .error ⟨fault, p.text⟩
    | .error fault => if t.isFolderAt p then .ok t else .error ⟨fault, p.text⟩

/-- Makes the folder at a path, and those above it that are missing, unless it is there. -/
def makeFolders (t : FileTree) (p : Path) : Except PathError FileTree :=
  makeFoldersUp t p.root p.parts.reverse

/-! ### Changes -/

/-- The files of a tree that another tree does not have with the same content. -/
def changedFrom (t old : FileTree) : List (Place × Bytes) :=
  t.files.filter fun f => old.file? f.1 ≠ some f.2

end FileTree

end BlockSketch
