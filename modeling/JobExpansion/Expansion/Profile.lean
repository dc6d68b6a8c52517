import JobExpansion.Job.Record
import JobExpansion.Text.Search

/-!
# Conditioned profiles

A job that asks for a conditioned profile gets a twin that runs with one, except where no such
profile is made.
-/

namespace JobExpansion.Job

/-- Parts of the names of tests for which no conditioned profile is made. -/
def unprofiledNames : List String := ["chrome", "chromium"]

/-- The start of the platforms for which no conditioned profile is made. -/
def unprofiledPlatform : String := "windows10-aarch64"

/-- The option that asks for a conditioned profile. -/
def profileOption : String := "--with-conditioned-profile"

/-- No conditioned profile is made for this job. -/
def unprofiled (j : Job) : Bool :=
  unprofiledNames.any (Text.contains j.testName)
    || Text.startsWith j.testPlatform unprofiledPlatform

/-- The twin of a job that runs with a conditioned profile. -/
def profiled (j : Job) : Except Failure Job := do
  let j ← j.addOptions [profileOption]
  let j ← j.suffixLeaf "-condprof"
  let j ← j.append Field.description " with condprof"
  let j ← j.append Field.tryName "-condprof"
  j.append Field.testName "-condprof"

/-- The job, and its twin if it asks for one. -/
def splitProfile (j : Job) : Except Failure (List Job) := do
  let rest := j.erase Field.condprof
  if !j.flag Field.condprof || rest.unprofiled then return [rest]
  return [rest, ← rest.profiled]

end JobExpansion.Job
