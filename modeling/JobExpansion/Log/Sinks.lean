import JobExpansion.Log.Remark
import JobExpansion.Log.Settings

/-!
# Where remarks go

A run opens its log before anything else. What the filter lets through goes to the console and to
the log file, if there is one, as it is said; each of the two puts its own time in front.
-/

namespace JobExpansion.Log

/-! ### Opening the log -/

/-- Where remarks go, and which of them. -/
structure Sinks where
  filter : Filter
  console : Console := .stderr
  /-- The path of the log file. -/
  file : Option String := none
  deriving Repr, DecidableEq

/-- The sinks that are asked for in a workspace. -/
def plan (files : FileTree) (env : Environment) (workspace : Option String) :
    Except Trouble Sinks := do
  let s ← Settings.load files env workspace
  let filter ← match Filter.choose? (env.lookup Environment.logFilter) s.level with
    | some f => pure f
    | none => throw .badFilter
  let path ← s.logFile env workspace
  return ⟨filter, s.console.getD .stderr, if s.toFile then some path else none⟩

/-- The sinks of a run in a workspace, with the log file opened. -/
def openSinks (env : Environment) (workspace : Option String) :
    EStateM Trouble FileTree Sinks := do
  match plan (← get) env workspace with
  | .error t => throw t
  | .ok sinks =>
    match sinks.file with
    | some path => openFile path
    | none => pure ()
    return sinks

/-! ### Entries -/

/-- The texts of the times at which the console and the log file get a remark. -/
structure Times where
  console : String
  file : String
  deriving Repr, DecidableEq

/-- The times of a run, by the number of things that were said before. -/
abbrev Clock := Nat → Times

/-- A remark at its times. -/
structure Entry where
  remark : Remark
  times : Times
  deriving Repr, DecidableEq

namespace Sinks

/-- The line of a remark at a time, if it is let through. -/
def line (s : Sinks) (time : String) (r : Remark) : String :=
  if r.passes s.filter then r.line time ++ "\n" else ""

/-- What is shown of an entry on a console. -/
def shown (s : Sinks) (c : Console) (e : Entry) : String :=
  if s.console = c then s.line e.times.console e.remark else ""

/-- The files with an entry in the log file. -/
def record (s : Sinks) (e : Entry) (files : FileTree) : FileTree :=
  match s.file with
  | some path => files.leftBy (FileTree.append path (s.line e.times.file e.remark).toUTF8)
  | none => files

end Sinks

/-- The files with an entry in the log file of a run, unless it has no log. -/
def record (sinks : Option Sinks) (e : Entry) (files : FileTree) : FileTree :=
  match sinks with
  | some s => s.record e files
  | none => files

/-- The log of a run: where remarks go, unless it could not be opened, and at which times. -/
structure Journal where
  sinks : Option Sinks := none
  clock : Clock

end JobExpansion.Log
