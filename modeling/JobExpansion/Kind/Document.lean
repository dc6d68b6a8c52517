import JobExpansion.Job.Record
import JobExpansion.Kind.Merge
import JobExpansion.Text.Blank
import JobExpansion.Yaml.Document

/-!
# Kind documents

A kind document is a list of jobs, a mapping with the jobs by name under `jobs`, or just such a
mapping. In the mapping forms `job-defaults` is laid under every job, and a job without a name of
its own takes its key.
-/

namespace JobExpansion.Kind

/-- The key of the defaults. -/
def defaultsKey : String := "job-defaults"

/-- The key of the jobs. -/
def jobsKey : String := "jobs"

/-- The jobs of a list, a failure naming the position. -/
def ofItems (i : Nat) : List Value → Except Failure (List Job)
  | [] => .ok []
  | v :: vs => do
    let j ← (Job.ofValue v).mapError (Failure.atField s!"[{i}]")
    return j :: (← ofItems (i + 1) vs)

/-- The job of an entry. -/
def ofEntry (defaults : Option Value) (name : String) (v : Value) : Except Failure Job := do
  let merged := match defaults with
    | some base => merge base v
    | none => v
  let j ← (Job.ofValue merged).mapError (Failure.atField name)
  return j.setDefault Field.testName (.text name)

/-- The jobs of the entries of a mapping. -/
def ofEntries (defaults : Option Value) : List (String × Value) → Except Failure (List Job)
  | [] => .ok []
  | (name, v) :: rest => do
    let j ← ofEntry defaults name v
    return j :: (← ofEntries defaults rest)

/-- The jobs of a document that comes from some place. -/
def ofValue (origin : String) : Value → Except Failure (List Job)
  | .null => .ok []
  | .list items => ofItems 0 items
  | .mapping entries =>
    let defaults := entries.lookup defaultsKey
    let rest := Entries.erase defaultsKey entries
    match rest.lookup jobsKey with
    | some (.mapping jobs) => ofEntries defaults jobs
    | some v => .error ((Failure.ofCause (.jobsNotMapping origin v.tag)).atField jobsKey)
    | none => ofEntries defaults rest
  | v => .error (.ofCause (.kindNotJobs origin v.tag))

/-- The jobs of the text of a document. -/
def parse (text origin : String) : Except Failure (List Job) :=
  if Text.isBlankText text then .ok []
  else
    match Yaml.read text with
    | .ok v => ofValue origin v
    | .error fault => .error (.ofCause (.kindMalformed origin fault.message))

end JobExpansion.Kind
