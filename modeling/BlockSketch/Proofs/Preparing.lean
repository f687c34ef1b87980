/-
**Projects are prepared in order.**

Preparing a project is a row of steps, each of which can fail: the board is looked up, the state is
compiled, the build tool is asked for its version, the files are written, and the tool builds and
uploads.  What has been done by then stays done.  So the order of the steps is what keeps failures clean:
the board, the state and the tool are tried before anything is written, and the tool is not run on a
project that is not complete.

One failure is not clean.  A file is emptied before its text is encoded, and a text that holds a surrogate
cannot be.  So a sketch with a surrogate, which editor state may well have, costs the source file that
was there, and a port with one costs the settings.

The steps up to the files and those after them are taken apart.  Between them stands a session in which
both files have been written and no other file has changed; what follows only runs the tool.

Main definitions:

* `BlockSketch.toolRuns` — the runs for an upload, in their order;
* `BlockSketch.issued` — the runs that are made if each waits for the success of the one before;
* `BlockSketch.finishProject` — what is left to do when the files have been written;
* `BlockSketch.FileTree.HoldsProject` — a project can be written to a folder.

Main results:

* `BlockSketch.issued_prefix`, `BlockSketch.issued_waits`, `BlockSketch.issued_complete` — runs are made
  in order, after success only, and for as long as they succeed;
* `BlockSketch.FileTree.HoldsProject.start_writeProject` — writing a project changes two files;
* `BlockSketch.hasSurrogate_sourceText`, `BlockSketch.hasSurrogate_settings` — where surrogates in these
  files come from;
* `BlockSketch.start_finishProject` — building and uploading changes no file;
* `BlockSketch.prepare_in_order` — **preparing a project fails cleanly and runs the tool in order**, but
  for texts that have no bytes.
-/

import BlockSketch.Project.Prepare
import BlockSketch.Proofs.CodePoints
import BlockSketch.Proofs.FileFrames

set_option relaxedAutoImplicit false
set_option autoImplicit false

namespace BlockSketch

/-! ### Actions in a row -/

/-- The session in which notes have been told. -/
def Session.told (s : Session) (notes : List Note) : Session :=
  { s with notes := s.notes ++ notes }

/-- The session in which the tool has been run once more. -/
def Session.ran (s : Session) (run : ToolRun) : Session :=
  { s with outcomes := s.outcomes.tail, runs := s.runs ++ [run] }

namespace Work

section Sequence

variable {α β : Type} {w : Work α} {f : α → Work β} {s s' : Session}

theorem start_bind_of_ok {a : α} (h : w.start s = (.ok a, s')) :
    (w >>= f).start s = (f a).start s' := by
  change w s = _ at h
  change ExceptT.bind w f s = _
  simp only [ExceptT.bind, ExceptT.mk, bind, StateT.bind, h]
  rfl

theorem start_bind_of_error {e : Failure} (h : w.start s = (.error e, s')) :
    (w >>= f).start s = (.error e, s') := by
  change w s = _ at h
  change ExceptT.bind w f s = _
  simp only [ExceptT.bind, ExceptT.mk, bind, StateT.bind, h]
  rfl

theorem start_tryCatch_of_ok {recover : Failure → Work α} {a : α} (h : w.start s = (.ok a, s')) :
    (tryCatch w recover).start s = (.ok a, s') := by
  change w s = _ at h
  change ExceptT.tryCatch w recover s = _
  simp only [ExceptT.tryCatch, ExceptT.mk, bind, StateT.bind, h]
  rfl

theorem start_tryCatch_of_error {recover : Failure → Work α} {e : Failure}
    (h : w.start s = (.error e, s')) : (tryCatch w recover).start s = (recover e).start s' := by
  change w s = _ at h
  change ExceptT.tryCatch w recover s = _
  simp only [ExceptT.tryCatch, ExceptT.mk, bind, StateT.bind, h]
  rfl

end Sequence

theorem start_get (s : Session) : (get : Work Session).start s = (.ok s, s) := rfl

theorem start_set (s s' : Session) : (set s' : Work PUnit).start s = (.ok ⟨⟩, s') := rfl

theorem start_tell (notes : List Note) (s : Session) :
    (tell notes).start s = (.ok (), s.told notes) := rfl

theorem start_ofExcept_ok {ε α : Type} (wrap : ε → Failure) (a : α) (s : Session) :
    (ofExcept wrap (.ok a)).start s = (.ok a, s) := rfl

theorem start_ofExcept_error {ε α : Type} (wrap : ε → Failure) (e : ε) (s : Session) :
    (ofExcept wrap (.error e) : Work α).start s = (.error (wrap e), s) := rfl

/-- Folders that can be named and made are made. -/
theorem start_makeFolders {s : Session} {p : Path} {t : FileTree} (hp : p.check = .ok ())
    (h : s.tree.makeFolders p = .ok t) :
    (makeFolders p).start s = (.ok (), { s with tree := t }) := by
  rw [makeFolders, hp, start_bind_of_ok (start_ofExcept_ok _ () s), start_bind_of_ok (start_get s), h,
    start_bind_of_ok (start_ofExcept_ok _ t s)]
  exact start_set s _

section Writing

variable {s : Session} {p : Path} {place : Place} (h : s.tree.CanWrite p place) {text : String}
include h

theorem start_writeBytes (content : Bytes) : (writeBytes p content).start s =
    (.ok (), { s with tree := s.tree.put place content }) := by
  rw [writeBytes, start_bind_of_ok (start_get s), h.write_eq,
    start_bind_of_ok (start_ofExcept_ok _ _ s)]
  exact start_set s _

/-- A text that has bytes is written. -/
theorem start_writeText_of_ok {content : Bytes} (htext : Utf8.encode? text = .ok content) :
    (writeText p text).start s = (.ok (), { s with tree := s.tree.put place content }) := by
  rw [writeText, h.check_eq, start_bind_of_ok (start_ofExcept_ok _ () s),
    start_bind_of_ok (start_writeBytes h []), htext, start_bind_of_ok (start_ofExcept_ok _ _ _),
    start_writeBytes (h.put place []), FileTree.put_put]

/-- A text that has none leaves its file empty. -/
theorem start_writeText_of_error {f : Utf8.EncodeFault} (htext : Utf8.encode? text = .error f) :
    (writeText p text).start s =
      (.error (.unencodable f), { s with tree := s.tree.put place [] }) := by
  rw [writeText, h.check_eq, start_bind_of_ok (start_ofExcept_ok _ () s),
    start_bind_of_ok (start_writeBytes h []), htext,
    start_bind_of_error (start_ofExcept_error _ f _)]

end Writing

section Runs

variable {s : Session}

theorem start_runTool_of_success (h : s.outcomes.head? = some (.ended 0)) (arguments : List String)
    (folder : Option Path) : (runTool arguments folder).start s =
      (.ok (), s.ran ⟨arguments, folder.map Path.text⟩) := by
  have hhead : s.outcomes.headD .missing = .ended 0 := by rw [List.headD_eq_head?_getD, h]; rfl
  rw [runTool, start_bind_of_ok (start_get s)]
  dsimp only
  rw [start_bind_of_ok (start_set s _), hhead]
  rfl

/-- A run that does not succeed is made nevertheless. -/
theorem start_runTool_of_failure (h : s.outcomes.head? ≠ some (.ended 0)) (arguments : List String)
    (folder : Option Path) : ∃ e, (runTool arguments folder).start s =
      (.error (.tool e), s.ran ⟨arguments, folder.map Path.text⟩) := by
  obtain ⟨e, he⟩ : ∃ e, (ToolRun.mk arguments (folder.map Path.text)).failure?
      (s.outcomes.headD .missing) = some e := by
    rw [List.headD_eq_head?_getD]
    cases hhead : s.outcomes.head? with
    | none => exact ⟨_, rfl⟩
    | some outcome =>
        cases outcome with
        | missing => exact ⟨_, rfl⟩
        | ended status =>
            have hstatus : status ≠ 0 := fun hzero => h (by rw [hhead, hzero])
            exact ⟨_, if_neg hstatus⟩
  refine ⟨e, ?_⟩
  rw [runTool, start_bind_of_ok (start_get s)]
  dsimp only
  rw [start_bind_of_ok (start_set s _), he]
  rfl

end Runs

end Work

/-! ### Runs of the tool -/

/-- The runs for an upload, in their order. -/
def toolRuns (folder : Path) : List ToolRun :=
  [⟨["--version"], none⟩, ⟨["run"], some folder.text⟩, ⟨["run", "-t", "upload"], some folder.text⟩]

/-- The runs that are made of some, if each waits for the success of the one before. -/
def issued : List ToolOutcome → List ToolRun → List ToolRun
  | _, [] => []
  | outcomes, run :: runs =>
    run :: if outcomes.head? = some (.ended 0) then issued outcomes.tail runs else []

/-- Runs are made in order. -/
theorem issued_prefix (outcomes : List ToolOutcome) (runs : List ToolRun) :
    issued outcomes runs <+: runs := by
  induction runs generalizing outcomes with
  | nil => exact List.prefix_refl _
  | cons run runs ih =>
      rw [issued, List.cons_prefix_cons]
      refine ⟨rfl, ?_⟩
      split
      · exact ih _
      · exact List.nil_prefix

/-- A run is made after success of all the runs before it only. -/
theorem issued_waits {outcomes : List ToolOutcome} {runs : List ToolRun} {i j : Nat} (hj : j < i)
    (hi : i < (issued outcomes runs).length) : outcomes[j]? = some (.ended 0) := by
  induction runs generalizing outcomes i j with
  | nil => exact absurd hi (Nat.not_lt_zero _)
  | cons run runs ih =>
      rw [issued, List.length_cons] at hi
      split at hi <;> rename_i hhead
      · cases j with
        | zero => rw [← List.head?_eq_getElem?, hhead]
        | succ j =>
            obtain ⟨i, rfl⟩ := Nat.exists_eq_succ_of_ne_zero (Nat.ne_of_gt (Nat.zero_lt_of_lt hj))
            rw [← List.getElem?_tail]
            exact ih (Nat.lt_of_succ_lt_succ hj) (Nat.lt_of_succ_lt_succ hi)
      · rw [List.length_nil] at hi
        omega

/-- Runs are made for as long as they succeed. -/
theorem issued_complete {outcomes : List ToolOutcome} {runs : List ToolRun}
    (h : ∀ j < (issued outcomes runs).length, outcomes[j]? = some (.ended 0)) :
    issued outcomes runs = runs := by
  induction runs generalizing outcomes with
  | nil => rfl
  | cons run runs ih =>
      have hhead : outcomes.head? = some (.ended 0) := by
        rw [List.head?_eq_getElem?]
        exact h 0 (Nat.succ_pos _)
      rw [issued, if_pos hhead] at h ⊢
      rw [ih]
      intro j hj
      rw [List.getElem?_tail]
      exact h (j + 1) (Nat.succ_lt_succ hj)

/-- The first outcomes of a row that starts with a success. -/
theorem forall_lt_succ_iff {outcomes : List ToolOutcome} (h : outcomes.head? = some (.ended 0))
    {n : Nat} :
    (∀ j < n + 1, outcomes[j]? = some (.ended 0)) ↔
      ∀ j < n, outcomes.tail[j]? = some (.ended 0) := by
  rw [Nat.forall_lt_succ_left, ← List.head?_eq_getElem?]
  simp only [h, true_and, List.getElem?_tail]

section Runs

variable {s : Session}

theorem start_probeTool_of_success (h : s.outcomes.head? = some (.ended 0)) :
    probeTool.start s = (.ok (), s.ran ⟨["--version"], none⟩) :=
  Work.start_tryCatch_of_ok (Work.start_runTool_of_success h _ _)

/-- However the tool fails to give its version, it is taken as missing. -/
theorem start_probeTool_of_failure (h : s.outcomes.head? ≠ some (.ended 0)) :
    probeTool.start s = (.error .noTool, s.ran ⟨["--version"], none⟩) := by
  obtain ⟨e, he⟩ := Work.start_runTool_of_failure h ["--version"] none
  exact Work.start_tryCatch_of_error he

theorem start_runOn_of_success (folder : Path) (h : s.outcomes.head? = some (.ended 0))
    (arguments : List String) : (runOn folder arguments).start s =
      (.ok (), (s.told [.runsTool arguments]).ran ⟨arguments, some folder.text⟩) :=
  (Work.start_bind_of_ok (Work.start_tell _ s)).trans
    (Work.start_runTool_of_success (s := s.told [.runsTool arguments]) h arguments (some folder))

theorem start_runOn_of_failure (folder : Path) (h : s.outcomes.head? ≠ some (.ended 0))
    (arguments : List String) : ∃ e, (runOn folder arguments).start s =
      (.error (.tool e), (s.told [.runsTool arguments]).ran ⟨arguments, some folder.text⟩) := by
  obtain ⟨e, he⟩ := Work.start_runTool_of_failure (s := s.told [.runsTool arguments]) h arguments
    (some folder)
  exact ⟨e, (Work.start_bind_of_ok (Work.start_tell _ s)).trans he⟩

end Runs

/-- What is left to do when the files have been written. -/
def finishProject (upload : Bool) (folder : Path) (sketch : String) : Work String := do
  if upload then do
    runOn folder ["run"]
    runOn folder ["run", "-t", "upload"]
  return sketch

/-- **Building and uploading changes no file**, and it succeeds exactly if both runs do. -/
theorem start_finishProject (folder : Path) (sketch : String) (s : Session) :
    ((finishProject true folder sketch).start s).2.tree = s.tree ∧
    ((finishProject true folder sketch).start s).2.runs =
      s.runs ++ issued s.outcomes (toolRuns folder).tail ∧
    ((∀ j < 2, s.outcomes[j]? = some (.ended 0)) ∧
        ((finishProject true folder sketch).start s).1 = .ok sketch ∨
      (¬ ∀ j < 2, s.outcomes[j]? = some (.ended 0)) ∧
        ∃ e, ((finishProject true folder sketch).start s).1 = .error (.tool e)) := by
  have hwork : finishProject true folder sketch = (do
    runOn folder ["run"]
    runOn folder ["run", "-t", "upload"]
    return sketch) := rfl
  rw [hwork, toolRuns, List.tail_cons, issued, issued, issued, ite_self]
  by_cases hbuild : s.outcomes.head? = some (.ended 0)
  · rw [Work.start_bind_of_ok (start_runOn_of_success folder hbuild _), if_pos hbuild]
    have hfirst : s.outcomes[0]? = some (.ended 0) := by rw [← List.head?_eq_getElem?, hbuild]
    by_cases hupload : s.outcomes.tail.head? = some (.ended 0)
    · rw [Work.start_bind_of_ok (start_runOn_of_success folder hupload _)]
      have hsecond : s.outcomes[1]? = some (.ended 0) := by
        rw [← List.getElem?_tail, ← List.head?_eq_getElem?, hupload]
      refine ⟨rfl, List.append_assoc _ _ _, Or.inl ⟨fun j hj => ?_, rfl⟩⟩
      obtain rfl | rfl : j = 0 ∨ j = 1 := by omega
      · exact hfirst
      · exact hsecond
    · obtain ⟨e, he⟩ := start_runOn_of_failure folder
        (s := (s.told [.runsTool ["run"]]).ran ⟨["run"], some folder.text⟩) hupload
        ["run", "-t", "upload"]
      rw [Work.start_bind_of_error he]
      refine ⟨rfl, List.append_assoc _ _ _, Or.inr ⟨fun h => hupload ?_, e, rfl⟩⟩
      rw [List.head?_eq_getElem?, List.getElem?_tail]
      exact h 1 Nat.one_lt_two
  · obtain ⟨e, he⟩ := start_runOn_of_failure folder hbuild ["run"]
    rw [Work.start_bind_of_error he, if_neg hbuild]
    refine ⟨rfl, rfl, Or.inr ⟨fun h => hbuild ?_, e, rfl⟩⟩
    rw [List.head?_eq_getElem?]
    exact h 0 Nat.two_pos

/-! ### The files of a project -/

/-- A project can be written to a folder: the folder of its source can be named and made, and then files
can be written at both paths, which lead to the given places. -/
def FileTree.HoldsProject (t : FileTree) (folder : Path) (source settings : Place) : Prop :=
  (sourceFolder folder).check = .ok () ∧ ∃ t', t.makeFolders (sourceFolder folder) = .ok t' ∧
    t'.CanWrite (sourcePath folder) source ∧ t'.CanWrite (settingsPath folder) settings

/-- The files of a project are at different places. -/
theorem source_ne_settings {t : FileTree} {folder : Path} {source settings : Place}
    (hsource : t.CanWrite (sourcePath folder) source)
    (hsettings : t.CanWrite (settingsPath folder) settings) : source ≠ settings := by
  rintro rfl
  obtain ⟨above, habove⟩ := hsource.eq_append (by decide)
  obtain ⟨above', habove'⟩ := hsettings.eq_append (by decide)
  have hnames := congrArg List.getLast? (habove.symm.trans habove')
  rw [List.getLast?_concat, List.getLast?_concat] at hnames
  exact absurd hnames (by decide)

/-- Both files of a project have what was written to them, and no other file has changed. -/
theorem FileTree.CanWrite.read_put_put {t : FileTree} {folder : Path} {source settings : Place}
    (hsource : t.CanWrite (sourcePath folder) source)
    (hsettings : t.CanWrite (settingsPath folder) settings) (src ini : Bytes) :
    ((t.put source src).put settings ini).read (sourcePath folder) = .ok src ∧
      ((t.put source src).put settings ini).read (settingsPath folder) = .ok ini ∧
      Keeps [source, settings] t ((t.put source src).put settings ini) := by
  have hne := source_ne_settings hsource hsettings
  refine ⟨((hsource.put _ _).put _ _).read_eq ?_,
    ((hsettings.put _ _).put _ _).read_eq (file?_put _ _ _),
    (keeps_put _ _ _).trans (keeps_put _ _ _)⟩
  rw [keeps_put _ _ _ _ (mt List.mem_singleton.1 hne), file?_put]

namespace FileTree.HoldsProject

variable {s : Session} {folder : Path} {source settings : Place}
  (h : s.tree.HoldsProject folder source settings) {libraries : List String} {board : Board}
  {sketch : String}
include h

/-- **Writing a project changes two files**, if both texts have bytes. -/
theorem start_writeProject {src ini : Bytes} (hsrc : Utf8.encode? (sourceText sketch) = .ok src)
    (hini : Utf8.encode? (board.settings libraries) = .ok ini) :
    ∃ t, (writeProject folder libraries board sketch).start s =
        (.ok (), ({ s with tree := t } : Session).told [.wroteProject board.name folder.text]) ∧
      t.read (sourcePath folder) = .ok src ∧ t.read (settingsPath folder) = .ok ini ∧
      Keeps [source, settings] s.tree t := by
  obtain ⟨hfolder, t', hmade, hsource, hsettings⟩ := h
  obtain ⟨hreadsrc, hreadini, hkeeps⟩ := hsource.read_put_put hsettings src ini
  refine ⟨_, ?_, hreadsrc, hreadini, (keeps_of_files_eq (makeFolders_files hmade)).trans hkeeps⟩
  rw [writeProject, Work.start_bind_of_ok (Work.start_makeFolders hfolder hmade),
    Work.start_bind_of_ok (Work.start_writeText_of_ok hsource hsrc),
    Work.start_bind_of_ok (Work.start_writeText_of_ok (hsettings.put _ _) hini)]
  rfl

/-- If the source has no bytes, its file is left empty, and that is all. -/
theorem start_writeProject_of_source_error {f : Utf8.EncodeFault}
    (hsrc : Utf8.encode? (sourceText sketch) = .error f) :
    ∃ t, (writeProject folder libraries board sketch).start s =
        (.error (.unencodable f), { s with tree := t }) ∧
      t.read (sourcePath folder) = .ok [] ∧ Keeps [source] s.tree t := by
  obtain ⟨hfolder, t', hmade, hsource, -⟩ := h
  refine ⟨t'.put source [], ?_, (hsource.put _ _).read_eq (file?_put _ _ _),
    (keeps_of_files_eq (makeFolders_files hmade)).trans (keeps_put _ _ _)⟩
  rw [writeProject, Work.start_bind_of_ok (Work.start_makeFolders hfolder hmade),
    Work.start_bind_of_error (Work.start_writeText_of_error hsource hsrc)]

/-- If only the settings have no bytes, the source is written and the file of the settings is left
empty. -/
theorem start_writeProject_of_settings_error {src : Bytes} {f : Utf8.EncodeFault}
    (hsrc : Utf8.encode? (sourceText sketch) = .ok src)
    (hini : Utf8.encode? (board.settings libraries) = .error f) :
    ∃ t, (writeProject folder libraries board sketch).start s =
        (.error (.unencodable f), { s with tree := t }) ∧
      t.read (sourcePath folder) = .ok src ∧ t.read (settingsPath folder) = .ok [] ∧
      Keeps [source, settings] s.tree t := by
  obtain ⟨hfolder, t', hmade, hsource, hsettings⟩ := h
  obtain ⟨hreadsrc, hreadini, hkeeps⟩ := hsource.read_put_put hsettings src []
  refine ⟨_, ?_, hreadsrc, hreadini, (keeps_of_files_eq (makeFolders_files hmade)).trans hkeeps⟩
  rw [writeProject, Work.start_bind_of_ok (Work.start_makeFolders hfolder hmade),
    Work.start_bind_of_ok (Work.start_writeText_of_ok hsource hsrc),
    Work.start_bind_of_error (Work.start_writeText_of_error (hsettings.put _ _) hini)]

end FileTree.HoldsProject

/-- The settings name the library for servos exactly if the program has one. -/
theorem Board.settings_libraries (b : Board) (p : Program) : b.settings p.libraries =
    "[env:" ++ b.environment ++ "]\nplatform = " ++ b.platform ++ "\nboard = " ++ b.name ++
      "\nframework = arduino\nupload_port = " ++ b.port ++ "\n" ++
      if p.servos = [] then "" else "\nlib_deps =\n  Servo\n" := by
  have hservo : ["Servo"].eraseDups = ["Servo"] := rfl
  unfold Program.libraries settings settingLines
  rw [← String.toList_inj]
  cases p.servos with
  | nil => simp
  | cons v vs => simp [hservo]

/-- There is no board exactly if its name is unknown or another platform than its own is given. -/
theorem Board.exists_find_error_iff {name port : String} {platform : Option String} :
    (∃ e, Board.find name port platform = .error e) ↔
      Board.platforms.lookup name = none ∨ ∃ required given,
        Board.platforms.lookup name = some required ∧ platform = some given ∧ given ≠ required := by
  unfold Board.find
  cases Board.platforms.lookup name with
  | none => simp
  | some required =>
      cases platform with
      | none => simp
      | some given => by_cases h : given = required <;> simp [h]

/-- The board that is found has the port that is asked for, and a name and a platform of the list. -/
theorem Board.find_eq_ok {name port : String} {platform : Option String} {b : Board}
    (h : Board.find name port platform = .ok b) : b.port = port ∧ (b.name, b.platform) ∈ platforms := by
  unfold find at h
  cases hlookup : platforms.lookup name with
  | none =>
      rw [hlookup] at h
      cases h
  | some required =>
      rw [hlookup] at h
      have hmem : (name, required) ∈ platforms := by
        obtain ⟨l₁, l₂, hl, -⟩ := List.lookup_eq_some_iff.1 hlookup
        rw [hl]
        simp
      cases platform with
      | none =>
          obtain rfl := Except.ok.inj h
          exact ⟨rfl, hmem⟩
      | some given =>
          dsimp only at h
          split at h
          · obtain rfl := Except.ok.inj h
            exact ⟨rfl, hmem⟩
          · cases h

/-- The source holds a surrogate if the sketch does. -/
theorem hasSurrogate_sourceText {sketch : String} :
    Text.HasSurrogate (sourceText sketch) ↔ Text.HasSurrogate sketch :=
  Text.hasSurrogate_append_left (by decide) sketch

/-- The settings hold a surrogate if the port does: everything else in them comes from lists. -/
theorem hasSurrogate_settings {name port : String} {platform : Option String} {b : Board}
    (h : Board.find name port platform = .ok b) (p : Program) :
    Text.HasSurrogate (b.settings p.libraries) ↔ Text.HasSurrogate port := by
  obtain ⟨rfl, hmem⟩ := Board.find_eq_ok h
  have hlist : ∀ np ∈ Board.platforms, Text.mark ∉ ("[env:" ++ (⟨np.1, np.2, ""⟩ : Board).environment ++
      "]\nplatform = " ++ np.2 ++ "\nboard = " ++ np.1 ++
      "\nframework = arduino\nupload_port = ").toList := by
    decide +kernel
  obtain ⟨rest, ⟨ds, hds⟩, hmark, htext⟩ : ∃ rest : String, (∃ ds, rest.toList = '\n' :: ds) ∧
      Text.mark ∉ rest.toList ∧
      b.settings p.libraries = "[env:" ++ (⟨b.name, b.platform, ""⟩ : Board).environment ++
        "]\nplatform = " ++ b.platform ++ "\nboard = " ++ b.name ++
        "\nframework = arduino\nupload_port = " ++ (b.port ++ rest) := by
    rw [b.settings_libraries]
    by_cases hp : p.servos = []
    · refine ⟨"\n", ⟨_, rfl⟩, by decide, ?_⟩
      rw [if_pos hp, String.append_empty, ← String.append_assoc]
      rfl
    · refine ⟨"\n" ++ "\nlib_deps =\n  Servo\n", ⟨_, rfl⟩, by decide, ?_⟩
      rw [if_neg hp, ← String.append_assoc, ← String.append_assoc]
      rfl
  rw [htext, Text.hasSurrogate_append_left (hlist _ hmem),
    Text.hasSurrogate_append_right hds (by decide) hmark]

/-! ### All steps -/

/-- The steps of the preparation, one after the other. -/
theorem prepare_eq (r : ProjectRequest) : prepare r = (do
    let board ← Work.ofExcept Failure.board (Board.find r.board r.port r.platform)
    let compiled ← Work.ofExcept Failure.load (compile r.state .auto)
    Work.tell (compiled.notes ++ compiled.program.faults.map Note.alert)
    let () ← (if r.upload then probeTool else pure ())
    let s ← get
    let folder := r.folder.getD s.temporary
    writeProject folder compiled.program.libraries board compiled.sketch
    finishProject r.upload folder compiled.sketch) := by
  unfold prepare finishProject
  cases r.upload <;> rfl

section Steps

variable {r : ProjectRequest} {s : Session} {b : Board} {c : Compiled}

/-- Without a board nothing is done. -/
theorem start_prepare_of_board_error {e : BoardError}
    (h : Board.find r.board r.port r.platform = .error e) :
    (prepare r).start s = (.error (.board e), s) := by
  rw [prepare_eq, h, Work.start_bind_of_error (Work.start_ofExcept_error _ e s)]

variable (hboard : Board.find r.board r.port r.platform = .ok b)
  (hcompile : compile r.state .auto = .ok c)
include hboard hcompile

/-- The steps after the state has been compiled. -/
theorem start_prepare_of_compile : (prepare r).start s = (do
      let () ← (if r.upload then probeTool else pure ())
      let s ← get
      let folder := r.folder.getD s.temporary
      writeProject folder c.program.libraries b c.sketch
      finishProject r.upload folder c.sketch : Work String).start
        (s.told (c.notes ++ c.program.faults.map Note.alert)) := by
  rw [prepare_eq, hboard, Work.start_bind_of_ok (Work.start_ofExcept_ok _ b s), hcompile,
    Work.start_bind_of_ok (Work.start_ofExcept_ok _ c s), Work.start_bind_of_ok (Work.start_tell _ s)]

/-- If the tool does not give its version, nothing is written. -/
theorem start_prepare_of_no_tool (hupload : r.upload = true)
    (hprobe : s.outcomes.head? ≠ some (.ended 0)) : (prepare r).start s = (.error .noTool,
      (s.told (c.notes ++ c.program.faults.map Note.alert)).ran ⟨["--version"], none⟩) := by
  have hstart := start_probeTool_of_failure
    (s := s.told (c.notes ++ c.program.faults.map Note.alert)) hprobe
  rw [start_prepare_of_compile hboard hcompile, if_pos hupload, Work.start_bind_of_error hstart]

variable {folder : Path} (hfolder : r.folder.getD s.temporary = folder)
  (hprobe : r.upload = true → s.outcomes.head? = some (.ended 0))
include hfolder hprobe

/-- The session before the files are written: the tool has given its version if it was asked. -/
theorem exists_start_writing : ∃ s' : Session, (prepare r).start s = (do
      writeProject folder c.program.libraries b c.sketch
      finishProject r.upload folder c.sketch : Work String).start s' ∧
    s'.tree = s.tree ∧ s'.outcomes = (if r.upload then s.outcomes.tail else s.outcomes) ∧
    s'.runs = s.runs ++ (if r.upload then [⟨["--version"], none⟩] else []) := by
  -- the probe keeps the files and the name of the temporary folder
  obtain ⟨s', hstart, htree, htemporary, houtcomes, hruns⟩ : ∃ s' : Session,
      (if r.upload then probeTool else pure ()).start
        (s.told (c.notes ++ c.program.faults.map Note.alert)) = (.ok (), s') ∧
      s'.tree = s.tree ∧ s'.temporary = s.temporary ∧
      s'.outcomes = (if r.upload then s.outcomes.tail else s.outcomes) ∧
      s'.runs = s.runs ++ (if r.upload then [⟨["--version"], none⟩] else []) := by
    cases hupload : r.upload with
    | true => exact ⟨_, start_probeTool_of_success (hprobe hupload), rfl, rfl, rfl, rfl⟩
    | false => exact ⟨_, rfl, rfl, rfl, rfl, (List.append_nil _).symm⟩
  refine ⟨s', ?_, htree, houtcomes, hruns⟩
  rw [start_prepare_of_compile hboard hcompile, Work.start_bind_of_ok hstart,
    Work.start_bind_of_ok (Work.start_get s')]
  dsimp only
  rw [htemporary, hfolder]

variable {source settings : Place} (hholds : s.tree.HoldsProject folder source settings)
include hholds

/-- A sketch with a surrogate leaves the source file empty and the settings as they were. -/
theorem start_prepare_of_sketch (hsketch : Text.HasSurrogate c.sketch) :
    ∃ f : Utf8.EncodeFault, f.Locates (Text.codes (sourceText c.sketch).toList) ∧
      ((prepare r).start s).1 = .error (.unencodable f) ∧
      ((prepare r).start s).2.runs = s.runs ++ (if r.upload then [⟨["--version"], none⟩] else []) ∧
      ((prepare r).start s).2.tree.read (sourcePath folder) = .ok [] ∧
      FileTree.Keeps [source] s.tree ((prepare r).start s).2.tree := by
  obtain ⟨f, hf, herror⟩ := Utf8.encode?_of_hasSurrogate (hasSurrogate_sourceText.2 hsketch)
  obtain ⟨s', hstart, htree, -, hruns⟩ := exists_start_writing hboard hcompile hfolder hprobe
  rw [← htree] at hholds
  obtain ⟨t, hwrite, hread, hkeeps⟩ := hholds.start_writeProject_of_source_error herror
  rw [hstart, Work.start_bind_of_error hwrite]
  exact ⟨f, hf, rfl, hruns, hread, htree ▸ hkeeps⟩

variable (hsketch : ¬Text.HasSurrogate c.sketch)
include hsketch

/-- A port with a surrogate leaves the file of the settings empty when the source has been written. -/
theorem start_prepare_of_port (hport : Text.HasSurrogate r.port) :
    ∃ f : Utf8.EncodeFault, f.Locates (Text.codes (b.settings c.program.libraries).toList) ∧
      ((prepare r).start s).1 = .error (.unencodable f) ∧
      ((prepare r).start s).2.runs = s.runs ++ (if r.upload then [⟨["--version"], none⟩] else []) ∧
      ((prepare r).start s).2.tree.read (sourcePath folder) =
        .ok (Utf8.encode (sourceText c.sketch)) ∧
      ((prepare r).start s).2.tree.read (settingsPath folder) = .ok [] ∧
      FileTree.Keeps [source, settings] s.tree ((prepare r).start s).2.tree := by
  have hsource := Utf8.encode?_of_not_hasSurrogate (mt hasSurrogate_sourceText.1 hsketch)
  obtain ⟨f, hf, herror⟩ :=
    Utf8.encode?_of_hasSurrogate ((hasSurrogate_settings hboard c.program).2 hport)
  obtain ⟨s', hstart, htree, -, hruns⟩ := exists_start_writing hboard hcompile hfolder hprobe
  rw [← htree] at hholds
  obtain ⟨t, hwrite, hread, hread', hkeeps⟩ :=
    hholds.start_writeProject_of_settings_error hsource herror
  rw [hstart, Work.start_bind_of_error hwrite]
  exact ⟨f, hf, rfl, hruns, hread, hread', htree ▸ hkeeps⟩

/-- The session between the files and the runs that follow them. -/
theorem exists_start_prepare (hport : ¬Text.HasSurrogate r.port) :
    ∃ mid : Session, (prepare r).start s = (finishProject r.upload folder c.sketch).start mid ∧
      mid.outcomes = (if r.upload then s.outcomes.tail else s.outcomes) ∧
      mid.runs = s.runs ++ (if r.upload then [⟨["--version"], none⟩] else []) ∧
      mid.tree.read (sourcePath folder) = .ok (Utf8.encode (sourceText c.sketch)) ∧
      mid.tree.read (settingsPath folder) = .ok (Utf8.encode (b.settings c.program.libraries)) ∧
      FileTree.Keeps [source, settings] s.tree mid.tree := by
  have hsource := Utf8.encode?_of_not_hasSurrogate (mt hasSurrogate_sourceText.1 hsketch)
  have hsettings :=
    Utf8.encode?_of_not_hasSurrogate (mt (hasSurrogate_settings hboard c.program).1 hport)
  obtain ⟨s', hstart, htree, houtcomes, hruns⟩ :=
    exists_start_writing hboard hcompile hfolder hprobe
  rw [← htree] at hholds
  obtain ⟨t, hwrite, hread, hread', hkeeps⟩ := hholds.start_writeProject hsource hsettings
  rw [hstart, Work.start_bind_of_ok hwrite]
  exact ⟨_, rfl, houtcomes, hruns, hread, hread', htree ▸ hkeeps⟩

end Steps

section Runs

variable {r : ProjectRequest} {s : Session} {b : Board} {c : Compiled} {folder : Path}
  {source settings : Place} (hboard : Board.find r.board r.port r.platform = .ok b)
  (hcompile : compile r.state .auto = .ok c) (hfolder : r.folder.getD s.temporary = folder)
  (hholds : s.tree.HoldsProject folder source settings)
include hboard hcompile hfolder hholds

/-- Without an upload there is no run. -/
theorem runs_start_prepare_of_no_upload (hupload : r.upload = false) :
    ((prepare r).start s).2.runs = s.runs := by
  have hprobe : r.upload = true → s.outcomes.head? = some (.ended 0) :=
    fun hyes => absurd (hupload.symm.trans hyes) Bool.false_ne_true
  have hnone : s.runs ++ (if r.upload then [⟨["--version"], none⟩] else []) = s.runs := by
    rw [hupload, if_neg Bool.false_ne_true, List.append_nil]
  by_cases hsketch : Text.HasSurrogate c.sketch
  · obtain ⟨f, -, -, hruns, -⟩ :=
      start_prepare_of_sketch hboard hcompile hfolder hprobe hholds hsketch
    exact hruns.trans hnone
  · by_cases hport : Text.HasSurrogate r.port
    · obtain ⟨f, -, -, hruns, -⟩ :=
        start_prepare_of_port hboard hcompile hfolder hprobe hholds hsketch hport
      exact hruns.trans hnone
    · obtain ⟨mid, hstart, -, hruns, -⟩ :=
        exists_start_prepare hboard hcompile hfolder hprobe hholds hsketch hport
      rw [hstart, hupload]
      exact hruns.trans hnone

/-- With a board and an upload the runs go on for as long as they succeed; only the version is asked for
if a text has no bytes. -/
theorem runs_start_prepare (hupload : r.upload = true) :
    ((prepare r).start s).2.runs = s.runs ++ issued s.outcomes
      (if Text.HasSurrogate c.sketch ∨ Text.HasSurrogate r.port then (toolRuns folder).take 1
      else toolRuns folder) := by
  have hversion : issued s.outcomes ((toolRuns folder).take 1) = [⟨["--version"], none⟩] := by
    rw [toolRuns, List.take_succ_cons, List.take_zero, issued, issued, ite_self]
  by_cases hprobe : s.outcomes.head? = some (.ended 0)
  · by_cases hsketch : Text.HasSurrogate c.sketch
    · obtain ⟨f, -, -, hruns, -⟩ :=
        start_prepare_of_sketch hboard hcompile hfolder (fun _ => hprobe) hholds hsketch
      rw [hruns, if_pos hupload, if_pos (Or.inl hsketch), hversion]
    · by_cases hport : Text.HasSurrogate r.port
      · obtain ⟨f, -, -, hruns, -⟩ :=
          start_prepare_of_port hboard hcompile hfolder (fun _ => hprobe) hholds hsketch hport
        rw [hruns, if_pos hupload, if_pos (Or.inr hport), hversion]
      · obtain ⟨mid, hstart, houtcomes, hruns, -⟩ :=
          exists_start_prepare hboard hcompile hfolder (fun _ => hprobe) hholds hsketch hport
        rw [hupload] at hstart houtcomes hruns
        rw [hstart, (start_finishProject folder c.sketch mid).2.1, hruns, houtcomes,
          if_neg (not_or.2 ⟨hsketch, hport⟩), List.append_assoc, toolRuns, issued, if_pos hprobe]
        rfl
  · rw [start_prepare_of_no_tool hboard hcompile hupload hprobe]
    split
    · rw [hversion]
      rfl
    · rw [toolRuns, issued, if_neg hprobe]
      rfl

end Runs

/-- **Preparing a project fails cleanly and runs the tool in order**, but for texts that have no bytes.
Let the state compile, and let the folder of the project be one that it can be written to.  Then the runs
are the first of those for an upload, each made after success of all before it, and there is none without
an upload.  There is no board if its name is unknown or another platform is given; then, or if the tool
does not give its version, no file is changed.

In all other cases the files are written.  A sketch with a surrogate empties the source file and leaves
the settings as they were, and a port with one empties the settings when the source has been written; the
failure names the first surrogates, and the tool is not run on the project.  If neither has one, there is
a session in which both files have been written and no other has changed, the tool has not been run on
the project, and what is left is to run it.  This goes on for as long as the runs succeed, and it changes
no file, whether it succeeds or not. -/
theorem prepare_in_order (r : ProjectRequest) (s : Session) {c : Compiled} {folder : Path}
    {source settings : Place} (hcompile : compile r.state .auto = .ok c)
    (hfolder : r.folder.getD s.temporary = folder)
    (hholds : s.tree.HoldsProject folder source settings) :
    (∃ runs, ((prepare r).start s).2.runs = s.runs ++ runs ∧ runs <+: toolRuns folder ∧
      (∀ i j, j < i → i < runs.length → s.outcomes[j]? = some (.ended 0)) ∧
      (r.upload = false → runs = []) ∧
      (r.upload = true → (Board.find r.board r.port r.platform).isOk = true → runs ≠ [] ∧
        (¬Text.HasSurrogate c.sketch → ¬Text.HasSurrogate r.port →
          (∀ j < runs.length, s.outcomes[j]? = some (.ended 0)) → runs = toolRuns folder))) ∧
    ((∃ e, Board.find r.board r.port r.platform = .error e) ↔
      Board.platforms.lookup r.board = none ∨ ∃ required given,
        Board.platforms.lookup r.board = some required ∧ r.platform = some given ∧ given ≠ required) ∧
    (∀ e, Board.find r.board r.port r.platform = .error e →
      (prepare r).start s = (.error (.board e), s)) ∧
    ∀ b, Board.find r.board r.port r.platform = .ok b →
      ∀ src ini, src = "#include <Arduino.h>\n\n" ++ c.sketch →
      ini = "[env:" ++ b.environment ++ "]\nplatform = " ++ b.platform ++ "\nboard = " ++ b.name ++
        "\nframework = arduino\nupload_port = " ++ b.port ++ "\n" ++
        (if c.program.servos = [] then "" else "\nlib_deps =\n  Servo\n") →
      (r.upload = true → s.outcomes.head? ≠ some (.ended 0) →
        ((prepare r).start s).1 = .error .noTool ∧ ((prepare r).start s).2.tree = s.tree) ∧
      ((r.upload = true → s.outcomes.head? = some (.ended 0)) →
        (Text.HasSurrogate c.sketch → ∃ f : Utf8.EncodeFault, f.Locates (Text.codes src.toList) ∧
          ((prepare r).start s).1 = .error (.unencodable f) ∧
          ((prepare r).start s).2.runs =
            s.runs ++ (if r.upload then [⟨["--version"], none⟩] else []) ∧
          ((prepare r).start s).2.tree.read (sourcePath folder) = .ok [] ∧
          ∀ place, place ≠ source →
            ((prepare r).start s).2.tree.file? place = s.tree.file? place) ∧
        (¬Text.HasSurrogate c.sketch → Text.HasSurrogate r.port →
          ∃ f : Utf8.EncodeFault, f.Locates (Text.codes ini.toList) ∧
          ((prepare r).start s).1 = .error (.unencodable f) ∧
          ((prepare r).start s).2.runs =
            s.runs ++ (if r.upload then [⟨["--version"], none⟩] else []) ∧
          ((prepare r).start s).2.tree.read (sourcePath folder) = .ok (Utf8.encode src) ∧
          ((prepare r).start s).2.tree.read (settingsPath folder) = .ok [] ∧
          ∀ place, place ≠ source → place ≠ settings →
            ((prepare r).start s).2.tree.file? place = s.tree.file? place) ∧
        (¬Text.HasSurrogate c.sketch → ¬Text.HasSurrogate r.port → ∃ mid : Session,
          mid.tree.read (sourcePath folder) = .ok (Utf8.encode src) ∧
          mid.tree.read (settingsPath folder) = .ok (Utf8.encode ini) ∧
          (∀ place, place ≠ source → place ≠ settings →
            mid.tree.file? place = s.tree.file? place) ∧
          mid.runs = s.runs ++ (if r.upload then [⟨["--version"], none⟩] else []) ∧
          (prepare r).start s = (finishProject r.upload folder c.sketch).start mid ∧
          ((prepare r).start s).2.tree = mid.tree ∧
          (if r.upload = true → ∀ j < 3, s.outcomes[j]? = some (.ended 0)
            then ((prepare r).start s).1 = .ok c.sketch
            else ∃ e, ((prepare r).start s).1 = .error (.tool e)))) := by
  refine ⟨?_, Board.exists_find_error_iff, fun e => start_prepare_of_board_error,
    fun b hboard src ini hsrc hini => ⟨fun hupload hprobe => ?_, fun hprobe => ⟨fun hsketch => ?_,
      fun hsketch hport => ?_, fun hsketch hport => ?_⟩⟩⟩
  · cases hboard : Board.find r.board r.port r.platform with
    | error e =>
        rw [start_prepare_of_board_error hboard]
        refine ⟨[], (List.append_nil _).symm, List.nil_prefix, ?_, fun _ => rfl, ?_⟩
        · intro i j _ hi
          cases hi
        · intro _ hok
          cases hok
    | ok b =>
        cases hupload : r.upload with
        | false =>
            rw [runs_start_prepare_of_no_upload hboard hcompile hfolder hholds hupload]
            refine ⟨[], (List.append_nil _).symm, List.nil_prefix, ?_, fun _ => rfl, ?_⟩
            · intro i j _ hi
              cases hi
            · intro hyes
              cases hyes
        | true =>
            have hwanted : (if Text.HasSurrogate c.sketch ∨ Text.HasSurrogate r.port
                then (toolRuns folder).take 1 else toolRuns folder) <+: toolRuns folder := by
              split
              · exact List.take_prefix _ _
              · exact List.prefix_refl _
            refine ⟨_, runs_start_prepare hboard hcompile hfolder hholds hupload,
              List.IsPrefix.trans ?_ hwanted, fun i j => issued_waits, ?_, fun _ _ => ⟨?_, ?_⟩⟩
            · exact issued_prefix _ _
            · intro hno
              cases hno
            · split
              · exact List.cons_ne_nil _ _
              · exact List.cons_ne_nil _ _
            · intro hsketch hport
              rw [if_neg (not_or.2 ⟨hsketch, hport⟩)]
              exact issued_complete
  · rw [start_prepare_of_no_tool hboard hcompile hupload hprobe]
    exact ⟨rfl, rfl⟩
  · obtain ⟨f, hf, hresult, hruns, hread, hkeeps⟩ :=
      start_prepare_of_sketch hboard hcompile hfolder hprobe hholds hsketch
    refine ⟨f, hsrc ▸ hf, hresult, hruns, hread, fun place hplace => ?_⟩
    exact hkeeps place (mt List.mem_singleton.1 hplace)
  · obtain ⟨f, hf, hresult, hruns, hread, hread', hkeeps⟩ :=
      start_prepare_of_port hboard hcompile hfolder hprobe hholds hsketch hport
    rw [b.settings_libraries, ← hini] at hf
    refine ⟨f, hf, hresult, hruns, hsrc ▸ hread, hread', fun place hsource hsettings => ?_⟩
    exact hkeeps place (by simp [hsource, hsettings])
  · obtain ⟨mid, hstart, houtcomes, hruns, hread, hread', hkeeps⟩ :=
      exists_start_prepare hboard hcompile hfolder hprobe hholds hsketch hport
    rw [b.settings_libraries, ← hini] at hread'
    refine ⟨mid, hsrc ▸ hread, hread', ?_, hruns, hstart, ?_, ?_⟩
    · intro place hsource hsettings
      exact hkeeps place (by simp [hsource, hsettings])
    · rw [hstart]
      cases r.upload with
      | false => rfl
      | true => exact (start_finishProject folder c.sketch mid).1
    · rw [hstart]
      cases hupload : r.upload with
      | false =>
          rw [if_pos (fun hyes => absurd hyes Bool.false_ne_true)]
          rfl
      | true =>
          rw [hupload, if_pos rfl] at houtcomes
          have hall : (∀ j < 3, s.outcomes[j]? = some (.ended 0)) ↔
              ∀ j < 2, mid.outcomes[j]? = some (.ended 0) := by
            rw [houtcomes]
            exact forall_lt_succ_iff (hprobe hupload)
          rcases (start_finishProject folder c.sketch mid).2.2 with ⟨hyes, hok⟩ | ⟨hno, herror⟩
          · rw [if_pos fun _ => hall.2 hyes]
            exact hok
          · rw [if_neg fun h => hno (hall.1 (h rfl))]
            exact herror

/-- A request to upload a program with a servo. -/
def armRequest : ProjectRequest where
  state := .object [("nodes", .array [
      .object [("id", .string "loop"), ("data", .object [("blockType", .string "loop")])],
      .object [("id", .string "a"), ("data", .object [("blockType", .string "servo_attach"),
        ("params", .object [("variable", .string "arm")])])]]),
    ("edges", .array [
      .object [("id", .string "e"), ("source", .string "loop"), ("target", .string "a")]])]
  port := "COM3"
  folder := some (.ofText "proj")
  upload := true

/-- A session with an old source file and another file, in which the tool will fail to build. -/
def workshop : Session where
  tree := .ofFiles [(["proj", "src", "main.cpp"], [47]), (["notes.txt"], [33])]
  outcomes := [.ended 0, .ended 1]

/-- The build fails, and the files of the project are there for the next attempt. -/
theorem armRequest_prepare : ∃ c mid, compile armRequest.state .auto = .ok c ∧
    workshop.tree.HoldsProject (.ofText "proj") ["proj", "src", "main.cpp"] ["proj", "platformio.ini"] ∧
    c.program.servos = ["arm"] ∧ ¬Text.HasSurrogate c.sketch ∧
    (prepare armRequest).start workshop = (finishProject true (.ofText "proj") c.sketch).start mid ∧
    mid.runs = [⟨["--version"], none⟩] ∧
    mid.tree.read (sourcePath (.ofText "proj")) =
      .ok (Utf8.encode ("#include <Arduino.h>\n\n" ++ c.sketch)) ∧
    mid.tree.file? ["notes.txt"] = some [33] ∧
    ((prepare armRequest).start workshop).2.tree = mid.tree ∧
    ∃ e, ((prepare armRequest).start workshop).1 = .error (.tool e) := by
  have hcompiled : (compile armRequest.state .auto).toOption.map
      (fun c => (c.program.servos, decide (Text.HasSurrogate c.sketch))) = some (["arm"], false) := by
    decide +kernel
  cases hcompile : compile armRequest.state .auto with
  | error e =>
      rw [hcompile] at hcompiled
      cases hcompiled
  | ok c =>
      rw [hcompile] at hcompiled
      have hc := Prod.mk.inj (Option.some.inj hcompiled)
      have hsketch : ¬Text.HasSurrogate c.sketch := of_decide_eq_false hc.2
      have hholds : workshop.tree.HoldsProject (.ofText "proj") ["proj", "src", "main.cpp"]
          ["proj", "platformio.ini"] :=
        ⟨rfl, workshop.tree, rfl, ⟨rfl, rfl, rfl⟩, ⟨rfl, rfl, rfl⟩⟩
      obtain ⟨-, -, -, hboard⟩ := prepare_in_order armRequest workshop hcompile rfl hholds
      obtain ⟨mid, hsource, -, hkeeps, hruns, hstart, htree, hresult⟩ :=
        ((hboard ⟨"uno", "atmelavr", "COM3"⟩ rfl _ _ rfl rfl).2 fun _ => rfl).2.2 hsketch (by decide)
      rw [if_neg (by decide +kernel)] at hresult
      exact ⟨c, mid, rfl, hholds, hc.1, hsketch, hstart, hruns, hsource,
        hkeeps ["notes.txt"] (by decide) (by decide), htree, hresult⟩

/-- A request for a program that prints half of a pair. -/
def halvedRequest : ProjectRequest where
  state := .object [("nodes", .array [
      .object [("id", .string "loop"), ("data", .object [("blockType", .string "loop")])],
      .object [("id", .string "p"), ("data", .object [("blockType", .string "serial_print"),
        ("params", .object [("message", .string (String.ofList (Text.held 0xD800)))])])]]),
    ("edges", .array [
      .object [("id", .string "e"), ("source", .string "loop"), ("target", .string "p")]])]
  port := "COM3"
  folder := some (.ofText "proj")

/-- The state compiles, there is such a board, and the folder can be written to.  Still the source that
was there is lost, and there are no settings. -/
theorem halvedRequest_prepare : (compile halvedRequest.state .auto).isOk = true ∧
    (Board.find halvedRequest.board halvedRequest.port halvedRequest.platform).isOk = true ∧
    workshop.tree.HoldsProject (.ofText "proj") ["proj", "src", "main.cpp"] ["proj", "platformio.ini"] ∧
    workshop.tree.read (sourcePath (.ofText "proj")) = .ok [47] ∧
    (∃ f, ((prepare halvedRequest).start workshop).1 = .error (.unencodable f)) ∧
    ((prepare halvedRequest).start workshop).2.tree.read (sourcePath (.ofText "proj")) = .ok [] ∧
    ((prepare halvedRequest).start workshop).2.tree.file? ["proj", "platformio.ini"] = none := by
  have hcompiled : (compile halvedRequest.state .auto).toOption.map
      (fun c => decide (Text.HasSurrogate c.sketch)) = some true := by
    decide +kernel
  have hholds : workshop.tree.HoldsProject (.ofText "proj") ["proj", "src", "main.cpp"]
      ["proj", "platformio.ini"] :=
    ⟨rfl, workshop.tree, rfl, ⟨rfl, rfl, rfl⟩, ⟨rfl, rfl, rfl⟩⟩
  cases hcompile : compile halvedRequest.state .auto with
  | error e =>
      rw [hcompile] at hcompiled
      cases hcompiled
  | ok c =>
      rw [hcompile] at hcompiled
      have hsketch : Text.HasSurrogate c.sketch := of_decide_eq_true (Option.some.inj hcompiled)
      obtain ⟨f, -, hresult, -, hread, hkeeps⟩ := start_prepare_of_sketch (r := halvedRequest)
        (b := ⟨"uno", "atmelavr", "COM3"⟩) rfl hcompile rfl Bool.noConfusion hholds hsketch
      exact ⟨rfl, rfl, hholds, rfl, ⟨f, hresult⟩, hread, hkeeps ["proj", "platformio.ini"] (by decide)⟩

end BlockSketch
