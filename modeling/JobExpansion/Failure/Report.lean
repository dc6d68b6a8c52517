import JobExpansion.Failure.Cause

/-!
# Reports

What is told about a failure: its category, code, message, where it happened, what may help, and
what caused it. A report that was given no code is known by a name of its own.
-/

namespace JobExpansion

/-- A failure as it is told. -/
structure Report where
  category : Category
  /-- No code was given. -/
  code : Option String := none
  message : String
  /-- Where it happened, in the order of the keys. -/
  context : List (String × String) := []
  suggestions : List String := []
  source : Option String := none
  deriving Repr, DecidableEq

namespace Report

/-- Rows with one more, in the order of their keys; a known key takes the new value. -/
def insertSorted (key value : String) : List (String × String) → List (String × String)
  | [] => [(key, value)]
  | (k, v) :: rest =>
    if key = k then (key, value) :: rest
    else if key < k then (key, value) :: (k, v) :: rest
    else (k, v) :: insertSorted key value rest

/-- The report with a code. -/
def withCode (code : String) (r : Report) : Report := { r with code := some code }

/-- The report with one more row of context. -/
def addContext (key value : String) (r : Report) : Report :=
  { r with context := insertSorted key value r.context }

/-- The report for a job. -/
def forJob (testName : String) (r : Report) : Report := r.addContext "test-name" testName

/-- The report for a field. -/
def atField (field : String) (r : Report) : Report := r.addContext "field" field

/-- The report with one more suggestion. -/
def withSuggestion (suggestion : String) (r : Report) : Report :=
  { r with suggestions := r.suggestions ++ [suggestion] }

/-- The report of a failure. -/
def ofFailure (f : Failure) : Report where
  category := f.cause.category
  code := some f.cause.code
  message := f.cause.message
  context := f.context
  suggestions := f.cause.suggestions

/-- The report of something that has only a message. -/
def ofMessage (message : String) : Report where
  category := .internal
  code := some "ANYHOW_ERROR"
  message := message
  suggestions := ["Check the error details"]
  source := some message

/-- The report of a failed access to a file. -/
def ofAccess (message : String) : Report where
  category := .io
  code := some "IO_ERROR"
  message := message
  suggestions := ["Check file permissions and paths"]
  source := some message

/-- The word for how grave a report is. -/
def severity (r : Report) : String := if r.category.isError then "Error" else "Info"

/-- The report in one line, with a second one for its source; `fallback` stands for a code that
was not given. -/
def display (fallback : String) (r : Report) : String :=
  let rows := r.context.map fun (k, v) => Text.quoted k ++ ": " ++ Text.quoted v
  let context := if rows.isEmpty then ""
    else " (Context: \x7b" ++ ", ".intercalate rows ++ "\x7d)"
  let source := match r.source with
    | some s => "\nCaused by: " ++ s
    | none => ""
  s!"[{r.code.getD fallback}] {r.category.name}: {r.message}{context}{source}"

/-- The lines in which a report is told at the end of a run. -/
def lines (fallback : String) (r : Report) : List String :=
  [s!"[ERROR] {r.code.getD fallback}: {r.message}"]
    ++ r.context.map (fun (k, v) => s!"  {k}: {v}")
    ++ r.suggestions.map (fun s => s!"  hint: {s}")
    ++ (r.source.map fun s => s!"  Caused by: {s}").toList

end Report

end JobExpansion
