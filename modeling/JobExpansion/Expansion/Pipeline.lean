import JobExpansion.Expansion.Apps
import JobExpansion.Expansion.Chunks
import JobExpansion.Expansion.Options
import JobExpansion.Expansion.Profile
import JobExpansion.Job.Schema

/-!
# The expansion

Each stage takes a job to the jobs that replace it. `Stage.apply` does so for all jobs in order
and stops at the first that fails; `expandThrough` runs stages one after another on the whole
list, and `expand` runs all of them.
-/

namespace JobExpansion

/-- The jobs that replace each job of a list, one after another, with positions from `i` on. -/
def replaceAll (f : Nat → Job → Except Failure (List Job)) :
    Nat → List Job → Except Failure (List Job)
  | _, [] => .ok []
  | i, j :: js => do
    let first ← f i j
    return first ++ (← replaceAll f (i + 1) js)

namespace Stage

/-- The jobs that a stage makes of a job at some position. -/
def replace (s : Stage) (settings : Settings) (i : Nat) (j : Job) : Except Failure (List Job) :=
  match s with
  | .schema => ((Schema.validate j).mapError (Failure.atIndex i)).map fun _ => [j]
  | .defaults => .ok [j.withDefaults]
  | .apps => j.splitApps settings
  | .keyed => (j.resolved settings).map fun j => [j]
  | .pageload => j.splitPageload
  | .condprof => j.splitProfile
  | .subtests => j.splitSubtests
  | .options => (j.withOptions settings).map fun j => [j]

/-- The jobs that a stage makes of a list of jobs. -/
def apply (s : Stage) (settings : Settings) (js : List Job) : Except Failure (List Job) :=
  replaceAll (s.replace settings) 0 js

end Stage

/-- The jobs after some stages; a failure names the stage it happened in. -/
def expandThrough (settings : Settings) : List Stage → List Job → Except Failure (List Job)
  | [], js => .ok js
  | s :: stages, js => do
    let js ← (s.apply settings js).mapError (Failure.inStage s)
    expandThrough settings stages js

/-- The jobs after all stages. -/
def expand (settings : Settings) (js : List Job) : Except Failure (List Job) :=
  expandThrough settings Stage.all js

end JobExpansion
