import JobExpansion.Failure.Report
import JobExpansion.Files.Tree

/-!
# Problems of a command

A command stops at a failure of the jobs or their parameters, or because its output cannot be
written.
-/

namespace JobExpansion

/-- Why a command stops. -/
inductive Problem where
  | failure (f : Failure)
  | directoryNotMade (path : String) (error : AccessError)
  | outputNotMade (path : String) (error : AccessError)
  deriving Repr, DecidableEq

namespace Problem

/-- The wording of a problem. -/
def message : Problem → String
  | .failure f => f.cause.message
  | .directoryNotMade path _ => s!"failed to create directory {path}"
  | .outputNotMade path _ => s!"failed to create {path}"

/-- The report of a problem. -/
def report : Problem → Report
  | .failure f => .ofFailure f
  | p => .ofMessage p.message

/-- The problem with other words for what a reader of formats has to say about it. -/
def mapDetail (f : String → String) : Problem → Problem
  | .failure e => .failure { e with cause := e.cause.mapDetail f }
  | p => p

end Problem

namespace FileTree

/-- The directory that a path is in is made, with all directories above it. -/
def makeParent (path : String) : EStateM Problem FileTree Unit :=
  match (Path.parent? path).filter (· ≠ "") with
  | some directory =>
    (makeDirectories directory).adaptExcept (Problem.directoryNotMade directory)
  | none => pure ()

/-- The output of a command is written. -/
def output (path content : String) : EStateM Problem FileTree Unit := do
  makeParent path
  (write path content.toUTF8).adaptExcept (Problem.outputNotMade path)

end FileTree

end JobExpansion
