import JobExpansion.Files.Tree
import JobExpansion.Kind.Document

/-!
# Kind files

A kind file holds a kind document. The kind is called after the file, or after its directory if
the file has just the name of a kind file.
-/

namespace JobExpansion.Kind

/-- The jobs of a file. -/
def load (files : FileTree) (path : String) : Except Failure (List Job) := do
  let text ← (files.readText path).mapError fun e => .ofCause (.kindUnreadable path e.message)
  parse text path

/-- The stem of files that are called after their directory. -/
def commonStem : String := "kind"

/-- The name of a kind whose file tells none. -/
def defaultName : String := "raptor"

/-- The name of the kind of a file. -/
def nameOf (path : String) : String :=
  let named := match (Path.fileName? path).map Path.stem with
    | some s => if s = commonStem then (Path.parent? path).bind Path.fileName? else some s
    | none => none
  named.getD defaultName

end JobExpansion.Kind
