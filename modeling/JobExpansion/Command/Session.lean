import JobExpansion.Command.Arguments
import JobExpansion.Expansion.Remarks
import JobExpansion.Kind.File
import JobExpansion.Log.Sinks
import JobExpansion.Parameters.Loading

/-!
# Commands

What a command does to the files, and what it says while it runs: remarks for the log and text for
the standard output. A remark is in the log file before the command goes on; where a worker writes
them instead it may come later, which shows only if the command reads or writes the log file itself.
A command stops at its first problem; what it has done by then stays.
-/

namespace JobExpansion.Command

open Log (Journal Remark)

/-- What is said during a run. -/
inductive Event where
  | remark (e : Log.Entry)
  | output (text : String)
  /-- There is no log. -/
  | noLog (trouble : Log.Trouble)
  /-- The run has failed. -/
  | report (problem : Problem)
  /-- The arguments do not fit. -/
  | misuse
  deriving Repr, DecidableEq

/-- Where a run stands: what was said so far, and the files. -/
structure Session where
  events : List Event := []
  files : FileTree

/-- A part of a run. -/
abbrev Act := EStateM Problem Session

namespace Session

/-- The session after something was said. -/
def tell (e : Event) (s : Session) : Session := { s with events := s.events ++ [e] }

/-- A remark at the times that a session has come to. -/
def entry (journal : Journal) (r : Remark) (s : Session) : Log.Entry :=
  ⟨r, journal.clock s.events.length⟩

/-- The session after an entry of the log. -/
def log (journal : Journal) (e : Log.Entry) (s : Session) : Session :=
  { events := s.events ++ [.remark e], files := Log.record journal.sinks e s.files }

/-- The session after a remark. -/
def say (journal : Journal) (r : Remark) (s : Session) : Session :=
  s.log journal (s.entry journal r)

end Session

/-- A remark is made. -/
def say (journal : Journal) (r : Remark) : Act Unit := modify (Session.say journal r)

/-- The result of a step that looks at no file; a failure stops the run. -/
def orStop (e : Except Failure α) : Act α :=
  match e with
  | .ok a => return a
  | .error f => throw (.failure f)

/-- The files are changed. -/
def change (x : EStateM Problem FileTree Unit) : Act Unit := fun s =>
  match x.run s.files with
  | .ok () files => .ok () { s with files := files }
  | .error p files => .error p { s with files := files }

/-- The parameters of an expansion: a file, then the environment, then the arguments. -/
def ExpandArguments.resolve (args : ExpandArguments) (files : FileTree) (env : Environment) :
    Except Failure Parameters := do
  let p ← Parameters.gather files env args.parameters
  let p := p.override args.project args.tryMode
  p.check
  return p

/-- What an expansion is run with. -/
def ExpandArguments.settings (args : ExpandArguments) (p : Parameters) : Settings :=
  ⟨Kind.nameOf args.kindFile, p⟩

/-- The jobs of a kind file; it is remarked that they were read. -/
def loadJobs (journal : Journal) (path : String) : Act (List Job) := do
  let js ← orStop (Kind.load (← get).files path)
  say journal (.loaded path js.length)
  return js

/-- The jobs of an expansion: parameters, kind file and stages. -/
def makeJobs (args : ExpandArguments) (env : Environment) (journal : Journal) :
    Act (List Job) := do
  let p ← orStop (args.resolve (← get).files env)
  let settings := args.settings p
  say journal (.started settings.kind p.project p.isTry)
  let js ← loadJobs journal args.kindFile
  (remarks settings js).forM (say journal)
  orStop (JobExpansion.expand settings js)

/-- The jobs of an expansion are put out. -/
def putOut (args : ExpandArguments) (journal : Journal) (js : List Job) : Act Unit := do
  let text := args.format.write (.list (js.map Job.value))
  match args.output with
  | none => modify (Session.tell (.output text))
  | some path =>
    change (FileTree.output path text)
    say journal (.written path js.length)

/-- An expansion. -/
def runExpand (args : ExpandArguments) (env : Environment) (journal : Journal) : Act Unit := do
  putOut args journal (← makeJobs args env journal)

/-- A check of a kind file. -/
def runValidate (path : String) (journal : Journal) : Act Unit := do
  let js ← loadJobs journal path
  orStop (Schema.validateAll js)
  modify (Session.tell (.output s!"{path}: {js.length} job definition(s) valid\n"))

/-- The lines of a numbered list, the numbers being two characters wide. -/
def numbered (names : List String) : String :=
  String.join (names.zipIdx.map fun (name, i) =>
    let number := toString (i + 1)
    (if number.length < 2 then " " else "") ++ s!"{number}. {name}\n")

/-- What a command does. -/
def act (env : Environment) (journal : Journal) : Command → Act Unit
  | .expand args => runExpand args env journal
  | .validate path => runValidate path journal
  | .stages => modify (Session.tell (.output (numbered (Stage.all.map Stage.name))))

end JobExpansion.Command
