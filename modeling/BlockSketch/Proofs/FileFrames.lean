/-
**What work on files leaves as it was.**

A path leads to a place by the folders on its way, whatever the files are.  Writing a file changes the
content at the place of its path and at no other, and making folders changes no content at all.  So the
places of paths are known before anything is written, and what is written at one of them stays when
something is written at another.

Main definitions:

* `BlockSketch.FileTree.Keeps` — the files of a tree are those of another but for some places;
* `BlockSketch.FileTree.CanWrite` — a file can be written at a path, which leads to a place.

Main results:

* `BlockSketch.FileTree.keeps_put` — writing changes one place;
* `BlockSketch.FileTree.makeFolders_files` — making folders changes no file;
* `BlockSketch.FileTree.CanWrite.congr` — where a path leads depends on the folders only;
* `BlockSketch.FileTree.CanWrite.eq_append` — files of different names have different places.
-/

import BlockSketch.Workspace.FileTree

set_option relaxedAutoImplicit false
set_option autoImplicit false

namespace BlockSketch

namespace FileTree

variable {t t' : FileTree} {p : Path} {place : Place} {content : Bytes}

/-! ### Contents -/

/-- The files of a tree are those of another but for some places. -/
def Keeps (places : List Place) (t t' : FileTree) : Prop :=
  ∀ place, place ∉ places → t'.file? place = t.file? place

theorem Keeps.trans {places places' : List Place} {t'' : FileTree} (h : Keeps places t t')
    (h' : Keeps places' t' t'') : Keeps (places ++ places') t t'' := by
  intro place hplace
  rw [List.mem_append, not_or] at hplace
  rw [h' place hplace.2, h place hplace.1]

theorem keeps_of_files_eq (h : t'.files = t.files) : Keeps [] t t' := by
  intro place _
  rw [file?, file?, h]

/-- The tree with a content at a place. -/
def put (t : FileTree) (place : Place) (content : Bytes) : FileTree :=
  { t with files := setFile place content t.files }

theorem find?_setFile_self (place : Place) (content : Bytes) (fs : List (Place × Bytes)) :
    (setFile place content fs).find? (fun f => f.1 == place) = some (place, content) := by
  induction fs with
  | nil => simp [setFile]
  | cons f fs ih =>
      rw [setFile]
      split <;> rename_i h
      · simp
      · rw [List.find?_cons_of_neg (by simpa using h), ih]

theorem find?_setFile_of_ne {other : Place} (hne : other ≠ place) (fs : List (Place × Bytes)) :
    (setFile place content fs).find? (fun f => f.1 == other) = fs.find? fun f => f.1 == other := by
  induction fs with
  | nil => simp [setFile, hne.symm]
  | cons f fs ih =>
      rw [setFile]
      split <;> rename_i h
      · subst h
        rw [List.find?_cons_of_neg (by simpa using hne.symm),
          List.find?_cons_of_neg (by simpa using hne.symm)]
      · rw [List.find?_cons, List.find?_cons, ih]

theorem file?_put (t : FileTree) (place : Place) (content : Bytes) :
    (t.put place content).file? place = some content := by
  rw [file?, put, find?_setFile_self]
  rfl

/-- The content that a place is given last counts. -/
theorem put_put (t : FileTree) (place : Place) (old content : Bytes) :
    (t.put place old).put place content = t.put place content := by
  have hset (fs : List (Place × Bytes)) :
      setFile place content (setFile place old fs) = setFile place content fs := by
    induction fs with
    | nil => simp [setFile]
    | cons f fs ih =>
        by_cases hf : f.1 = place
        · simp [setFile, hf]
        · rw [setFile, if_neg hf, setFile, if_neg hf, setFile, if_neg hf, ih]
  simp only [put, hset]

/-- **Writing changes one place.** -/
theorem keeps_put (t : FileTree) (place : Place) (content : Bytes) :
    Keeps [place] t (t.put place content) := by
  intro other hother
  rw [file?, put, find?_setFile_of_ne (mt List.mem_singleton.2 hother), file?]

/-! ### Folders -/

theorem isFolder_congr (h : t'.folders = t.folders) (place : Place) :
    t'.isFolder place = t.isFolder place := by
  rw [isFolder, isFolder, h]

theorem makeFolder_files (h : t.makeFolder p = .ok t') : t'.files = t.files := by
  unfold makeFolder at h
  cases hp : t.resolve p with
  | error e =>
      rw [hp] at h
      cases h
  | ok place =>
      rw [hp] at h
      change (if _ then _ else _) = _ at h
      split at h
      · cases h
      · rw [← Except.ok.inj h]

theorem makeFoldersUp_files {root : String} {parts : List String}
    (h : t.makeFoldersUp root parts = .ok t') : t'.files = t.files := by
  induction parts generalizing t' with
  | nil => rw [← Except.ok.inj h]
  | cons part above ih =>
      rw [makeFoldersUp] at h
      split at h
      · rename_i t₁ hmake
        rw [← Except.ok.inj h, makeFolder_files hmake]
      · cases hup : t.makeFoldersUp root above with
        | error e =>
            rw [hup] at h
            cases h
        | ok t₁ =>
            simp only [hup, bind, Except.bind] at h
            rw [← ih hup]
            split at h
            · rename_i t₂ hmake
              rw [← Except.ok.inj h, makeFolder_files hmake]
            · split at h
              · rw [← Except.ok.inj h]
              · cases h
      · split at h
        · rw [← Except.ok.inj h]
        · cases h

/-- **Making folders changes no file.** -/
theorem makeFolders_files (h : t.makeFolders p = .ok t') : t'.files = t.files :=
  makeFoldersUp_files h

/-! ### Places -/

theorem walk_congr (hf : t'.folders = t.folders) {here : Place} {parts : List String}
    (h : t.walk here parts = .ok place) : t'.walk here parts = .ok place := by
  induction parts generalizing here with
  | nil => exact h
  | cons part parts ih =>
      rw [walk] at h ⊢
      rw [isFolder_congr hf]
      split at h
      · cases h
      · rename_i hfolder
        rw [if_neg hfolder]
        split at h <;> rename_i hup
        · rw [if_pos hup]
          exact ih h
        · rw [if_neg hup]
          split at h <;> rename_i hlong
          · cases h
          · rw [if_neg hlong]
            exact ih h

theorem resolve_congr (hf : t'.folders = t.folders) (h : t.resolve p = .ok place) :
    t'.resolve p = .ok place := by
  unfold resolve at h ⊢
  split at h
  · cases h
  · rename_i hnull
    rw [if_neg hnull]
    split at h <;> rename_i hlong
    · cases h
    · rw [if_neg hlong]
      exact walk_congr hf h

/-- The last part of a way is the last name of its place. -/
theorem exists_of_walk_append {here : Place} {parts : List String} {name : String}
    (hname : name ≠ "..") (h : t.walk here (parts ++ [name]) = .ok place) :
    ∃ above, place = above ++ [name] := by
  induction parts generalizing here with
  | nil =>
      rw [List.nil_append, walk, if_neg hname] at h
      split at h
      · cases h
      · split at h
        · cases h
        · exact ⟨here, (Except.ok.inj h).symm⟩
  | cons part parts ih =>
      rw [List.cons_append, walk] at h
      split at h
      · cases h
      · split at h
        · exact ih h
        · split at h
          · cases h
          · exact ih h

/-! ### Reading and writing -/

/-- A file can be written at a path, which can be named and leads to the place. -/
structure CanWrite (t : FileTree) (p : Path) (place : Place) : Prop where
  check_eq : p.check = .ok ()
  resolve_eq : t.resolve p = .ok place
  free : t.isFolder place = false

namespace CanWrite

theorem write_eq (h : t.CanWrite p place) (content : Bytes) :
    t.write p content = .ok (t.put place content) := by
  unfold write
  rw [h.resolve_eq]
  change (if _ then _ else _) = _
  rw [h.free]
  rfl

theorem read_eq (h : t.CanWrite p place) (hfile : t.file? place = some content) :
    t.read p = .ok content := by
  unfold read
  rw [h.resolve_eq]
  change (if _ then _ else _) = _
  rw [h.free, hfile]
  rfl

/-- **Where a path leads depends on the folders only.** -/
theorem congr (h : t.CanWrite p place) (hf : t'.folders = t.folders) : t'.CanWrite p place :=
  ⟨h.check_eq, resolve_congr hf h.resolve_eq, by rw [isFolder_congr hf, h.free]⟩

theorem put (h : t.CanWrite p place) (other : Place) (content : Bytes) :
    (t.put other content).CanWrite p place :=
  h.congr rfl

/-- **Files of different names have different places**: the name is the last of its place. -/
theorem eq_append {name : String} (h : t.CanWrite (p.child name) place) (hname : name ≠ "..") :
    ∃ above, place = above ++ [name] := by
  have hresolve := h.resolve_eq
  unfold resolve at hresolve
  split at hresolve
  · cases hresolve
  · split at hresolve
    · cases hresolve
    · exact exists_of_walk_append hname hresolve

end CanWrite

end FileTree

end BlockSketch
