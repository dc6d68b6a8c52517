import JobExpansion.Expansion.Pipeline
import JobExpansion.Log.Remark

/-!
# Remarks on an expansion

What there is to say about each job that a stage makes, and about each stage. A stage that fails is
remarked on up to the job that fails.
-/

namespace JobExpansion

open Log (Remark)

namespace Job

/-- The jobs for the entries of a list of apps up to the first that has none. -/
def madeForApps (j : Job) : List Value → List Job
  | .text app :: apps =>
    match j.forApp app with
    | .ok first => first :: madeForApps j apps
    | .error _ => []
  | _ => []

/-- The number of extra options of a job. -/
def optionCount (j : Job) : Nat :=
  (((j.mapping Field.mozharness).bind j.optionList).toOption.getD []).length

/-- The name of a job, if there is one. -/
def nameOf (made : Except Failure Job) : Option String := (made.map testName).toOption

end Job

namespace Stage

/-- The remarks on a job while a stage replaces it. -/
def remarksOn (s : Stage) (settings : Settings) (j : Job) : List Remark :=
  match s with
  | .apps =>
    match j.withApps settings with
    | .ok resolved =>
      ((resolved.erase Field.apps).madeForApps resolved.appList).map fun made =>
        .appSplit j.testName made.testName
    | .error _ => []
  | .pageload =>
    if PageloadMode.ofValue? (j.get? Field.pageload) = .both then
      ((Job.nameOf (j.erase Field.pageload).cold).map Remark.coldSplit).toList
    else []
  | .condprof =>
    let rest := j.erase Field.condprof
    if !j.flag Field.condprof || rest.unprofiled then []
    else ((Job.nameOf rest.profiled).map Remark.profileAdded).toList
  | .options =>
    match j.withOptions settings with
    | .ok made => [.optionsBuilt made.testName made.optionCount]
    | .error _ => []
  | .schema | .defaults | .keyed | .subtests => []

/-- The remarks on the jobs of a list, with positions from `i` on, up to the first that fails. -/
def remarks (s : Stage) (settings : Settings) : Nat → List Job → List Remark
  | _, [] => []
  | i, j :: js =>
    s.remarksOn settings j ++
      match s.replace settings i j with
      | .ok _ => remarks s settings (i + 1) js
      | .error _ => []

end Stage

/-- The remarks on an expansion through some stages. -/
def remarksThrough (settings : Settings) : List Stage → List Job → List Remark
  | [], _ => []
  | s :: stages, js =>
    s.remarks settings 0 js ++
      match s.apply settings js with
      | .ok made => .applied s js.length made.length :: remarksThrough settings stages made
      | .error _ => []

/-- The remarks on a whole expansion. -/
def remarks (settings : Settings) (js : List Job) : List Remark :=
  remarksThrough settings Stage.all js ++
    match expand settings js with
    | .ok made =>
      [.expanded settings.kind settings.parameters.project js.length made.length]
    | .error _ => []

end JobExpansion
