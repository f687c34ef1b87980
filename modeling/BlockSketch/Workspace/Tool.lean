/-
**The build tool.**

Building and uploading a project is the work of an external program.  Its runs and how they end are
values: the outcomes are given beforehand, one for each run.

Main definitions:

* `BlockSketch.ToolOutcome` — how a run ends;
* `BlockSketch.ToolRun` — a run: its arguments and its working folder;
* `BlockSketch.ToolFailure` — a run that failed, with `message`.
-/

import BlockSketch.Text.Quoted

set_option relaxedAutoImplicit false
set_option autoImplicit false

namespace BlockSketch

/-- How a run of the build tool ends. -/
inductive ToolOutcome where
  /-- The tool is not installed. -/
  | missing
  /-- The tool ends with a status; a negative one is that of a signal. -/
  | ended (status : Int)
  deriving DecidableEq, Repr

/-- A run of the build tool. -/
structure ToolRun where
  /-- The arguments after the name of the tool. -/
  arguments : List String
  /-- The folder that it runs in, if it is not the working folder. -/
  folder : Option String
  deriving DecidableEq, Repr

/-- The name of the build tool. -/
def toolName : String :=
  "pio"

/-- The command of a run, word by word. -/
def ToolRun.command (r : ToolRun) : List String :=
  toolName :: r.arguments

/-- The names of the signals, by their numbers. -/
def signalNames : List (Nat × String) :=
  [(1, "SIGHUP"), (2, "SIGINT"), (3, "SIGQUIT"), (4, "SIGILL"), (5, "SIGTRAP"), (6, "SIGABRT"),
    (7, "SIGBUS"), (8, "SIGFPE"), (9, "SIGKILL"), (10, "SIGUSR1"), (11, "SIGSEGV"), (12, "SIGUSR2"),
    (13, "SIGPIPE"), (14, "SIGALRM"), (15, "SIGTERM"), (16, "SIGSTKFLT"), (17, "SIGCHLD"),
    (18, "SIGCONT"), (19, "SIGSTOP"), (20, "SIGTSTP"), (21, "SIGTTIN"), (22, "SIGTTOU"),
    (23, "SIGURG"), (24, "SIGXCPU"), (25, "SIGXFSZ"), (26, "SIGVTALRM"), (27, "SIGPROF"),
    (28, "SIGWINCH"), (29, "SIGIO"), (30, "SIGPWR"), (31, "SIGSYS"), (34, "SIGRTMIN"),
    (64, "SIGRTMAX")]

/-- What a status other than zero tells. -/
def statusText (status : Int) : String :=
  if 0 ≤ status then "returned non-zero exit status " ++ toString status
  else
    match signalNames.lookup status.natAbs with
    | some name => "died with <Signals." ++ name ++ ": " ++ toString status.natAbs ++ ">"
    | none => "died with unknown signal " ++ toString status.natAbs

/-- A run of the build tool that failed. -/
inductive ToolFailure where
  | missing
  | ended (run : ToolRun) (status : Int)
  deriving DecidableEq, Repr

/-- The message of a failed run. -/
def ToolFailure.message : ToolFailure → String
  | .missing => "[Errno 2] No such file or directory: " ++ Text.quoted toolName
  | .ended run status =>
    "Command '" ++ Text.quotedList run.command ++ "' " ++ statusText status ++ "."

/-- The failure of a run with the given outcome, if it failed. -/
def ToolRun.failure? (run : ToolRun) : ToolOutcome → Option ToolFailure
  | .missing => some .missing
  | .ended status => if status = 0 then none else some (.ended run status)

end BlockSketch
