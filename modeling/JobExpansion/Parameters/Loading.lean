import JobExpansion.Environment
import JobExpansion.Files.Tree
import JobExpansion.Parameters.Document

/-!
# Where parameters come from

A file if there is one, then the environment, then the command line: each overrides what comes
before it. The project of a run is a word.
-/

namespace JobExpansion.Parameters

/-- The parameters of a file. -/
def load (files : FileTree) (path : String) : Except Failure Parameters := do
  let text ← (files.readText path).mapError fun e =>
    .ofCause (.parametersUnreadable path e.message)
  parse text path

/-- The parameters with others for the project and the try mode. -/
def override (project tryMode : Option String) (p : Parameters) : Parameters :=
  { p with project := project.getD p.project, tryMode := tryMode <|> p.tryMode }

/-- The parameters with those that the environment sets. -/
def inEnvironment (env : Environment) (p : Parameters) : Parameters :=
  p.override (env.filled? Environment.project) (env.filled? Environment.tryMode)

/-- The parameters of a file, if there is one, and the environment. -/
def gather (files : FileTree) (env : Environment) (path : Option String) :
    Except Failure Parameters := do
  let p ← match path with
    | some path => load files path
    | none => pure {}
  return p.inEnvironment env

/-- The project is a word. -/
def check (p : Parameters) : Except Failure Unit :=
  if Text.isBlankText p.project then .error (.ofCause .projectEmpty)
  else if p.project.toList.any Text.isBlank then .error (.ofCause (.projectBlank p.project))
  else .ok ()

end JobExpansion.Parameters
