import JobExpansion.Command.Session

/-!
# Runs

A run opens its log, does what its arguments ask for and ends with an exit code: 0 if all is well,
1 after a problem, 2 if the arguments do not fit.
-/

namespace JobExpansion.Command

open Log (Clock Entry Journal Sinks)

/-- The name and the version of the program. -/
def versionText : String := "raptor-taskgen 0.1.0"

/-- How the program is used. -/
def usage : String :=
  versionText ++ "\n" ++ "Expand raptor test definitions into concrete CI job descriptions\n\n"
    ++ "USAGE:\n    raptor-taskgen <COMMAND>\n\n"
    ++ "COMMANDS:\n"
    ++ "  expand    Run the full transform pipeline over a kind file\n"
    ++ "  validate  Check job definitions against the raptor schema\n"
    ++ "  stages    List the pipeline stages in the order they run\n"
    ++ "  help      Print this message or the help of the given subcommand(s)\n"

/-- The directory whose settings a command logs by: that of the kind file if it is named, or else
the current one. -/
def workspace (current : String) : Command → String
  | .expand args => directoryOf args.kindFile
  | .validate path => directoryOf path
  | .stages => current
where
  /-- The directory of a path. -/
  directoryOf (path : String) : String :=
    ((Path.parent? path).filter (· ≠ "")).getD current

/-- The paths of the files that a command reads or writes, those of the log apart. -/
def paths : Command → List String
  | .expand args => args.kindFile :: (args.parameters.toList ++ args.output.toList)
  | .validate path => [path]
  | .stages => []

/-- Everything that is said during a run, where remarks go, the files after it, and what stopped it,
if anything. -/
structure Transcript where
  events : List Event
  sinks : Option Sinks := none
  files : FileTree
  problem : Option Problem := none
  exitCode : Nat := 0

/-- What a run leaves behind. -/
structure Outcome where
  exitCode : Nat
  stdout : String
  stderr : String
  files : FileTree

/-- Where remarks go, and where a run stands once its log is open. Without a log it goes on all the
same. -/
def begin (files : FileTree) (env : Environment) (current : String) (c : Command) :
    Option Sinks × Session :=
  match (Log.openSinks env (some (workspace current c))).run files with
  | .ok sinks files => (some sinks, { files := files })
  | .error t files => (none, { events := [.noLog t], files := files })

/-- The session at the end of a run that stops at a problem. -/
def Session.stop (journal : Journal) (p : Problem) (s : Session) : Session :=
  (s.say journal (.stopped p)).tell (.report p)

/-- The run of a command. -/
def transcript (files : FileTree) (env : Environment) (current : String) (clock : Clock)
    (c : Command) : Transcript :=
  let (sinks, before) := begin files env current c
  let journal : Journal := ⟨sinks, clock⟩
  match (c.act env journal).run before with
  | .ok () s => ⟨s.events, sinks, s.files, none, 0⟩
  | .error p s => ⟨(s.stop journal p).events, sinks, (s.stop journal p).files, some p, 1⟩

/-- The run that arguments ask for. -/
def Request.transcript (files : FileTree) (env : Environment) (current : String) (clock : Clock) :
    Request → Transcript
  | .run c => c.transcript files env current clock
  | .help => { events := [.output usage], files := files }
  | .version => { events := [.output (versionText ++ "\n")], files := files }
  | .misuse => { events := [.misuse], files := files, exitCode := 2 }

namespace Transcript

/-- Lines as a text. -/
def unlines (lines : List String) : String := String.join (lines.map (· ++ "\n"))

/-- What an event puts on the standard output. -/
def onStdout (sinks : Option Sinks) : Event → String
  | .output text => text
  | .remark e => (sinks.map (·.shown .stdout e)).getD ""
  | _ => ""

/-- What an event puts on the standard error. -/
def onStderr (sinks : Option Sinks) : Event → String
  | .remark e => (sinks.map (·.shown .stderr e)).getD ""
  | .noLog t => unlines ["[WARNING] logging disabled", "  Context: " ++ t.fullMessage]
  | .report p => unlines (p.report.lines "")
  | .misuse => "error: the arguments do not fit\n\n" ++ usage
  | .output _ => ""

/-- The entries of the log of a run. -/
def entries (t : Transcript) : List Entry :=
  t.events.filterMap fun e =>
    match e with
    | .remark e => some e
    | _ => none

/-- What a run leaves behind. -/
def outcome (t : Transcript) : Outcome where
  exitCode := t.exitCode
  stdout := String.join (t.events.map (onStdout t.sinks))
  stderr := String.join (t.events.map (onStderr t.sinks))
  files := t.files

/-- What is said during a run, with other words for what a reader of formats has to say. -/
def mapDetail (f : String → String) (t : Transcript) : Transcript :=
  { t with events := t.events.map fun e =>
      match e with
      | .remark e => .remark { e with remark := e.remark.mapDetail f }
      | .report p => .report (p.mapDetail f)
      | e => e }

end Transcript

/-- What a run with some arguments leaves behind. -/
def run (files : FileTree) (env : Environment) (current : String) (clock : Clock)
    (args : List String) : Outcome :=
  ((Request.ofArguments args).transcript files env current clock).outcome

end JobExpansion.Command
