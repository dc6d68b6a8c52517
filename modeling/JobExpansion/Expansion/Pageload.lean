import JobExpansion.Job.Record
import JobExpansion.Text.Search

/-!
# Page loads

Pages are loaded warm, cold or both ways. A cold job runs longer and says so in its names, its
symbol and its description; tests of the `browsertime-tp6` family keep their test and are told by
a flag, all others by the name of the test.
-/

namespace JobExpansion

/-- How pages are loaded. -/
inductive PageloadMode where
  | warm | cold | both
  deriving DecidableEq, Repr

namespace PageloadMode

/-- The mode a field asks for; anything but `cold` and `both` is warm. -/
def ofValue? (v : Option Value) : PageloadMode :=
  match v.bind Value.text? with
  | some "cold" => .cold
  | some "both" => .both
  | _ => .warm

/-- The name of a mode. -/
def name : PageloadMode → String
  | .warm => "Warm"
  | .cold => "Cold"
  | .both => "Both"

end PageloadMode

namespace Job

/-- The start of the names of tests that are told by a flag to run cold. -/
def browsertimePrefix : String := "browsertime-tp6"

/-- The seconds that a cold job may run. -/
def coldMaxRunTime : Int := 3000

/-- The job is told to run cold. -/
def tellCold (j : Job) : Except Failure Job := do
  if Text.startsWith (← j.requireText Field.testName) browsertimePrefix then
    return j.set Field.cold (.bool true)
  else j.append Field.raptorTest "-cold"

/-- The job that loads pages cold. -/
def cold (j : Job) : Except Failure Job := do
  if !j.has Field.raptorTest then throw (j.failure Field.raptorTest .coldWithoutTest)
  let j ← j.append Field.description " using cold pageload"
  let j ← j.tellCold
  let j := j.set Field.maxRunTime (.number (.int coldMaxRunTime))
  let j ← j.append Field.testName "-cold"
  let j ← j.append Field.tryName "-cold"
  j.suffixLeaf "-c"

/-- The jobs for the modes that a job asks for. -/
def splitPageload (j : Job) : Except Failure (List Job) := do
  let rest := j.erase Field.pageload
  match PageloadMode.ofValue? (j.get? Field.pageload) with
  | .warm => return [rest]
  | .cold => return [← rest.cold]
  | .both => return [rest, ← rest.cold]

end Job

end JobExpansion
