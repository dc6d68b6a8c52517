import JobExpansion.Expansion.Settings
import JobExpansion.Job.Record
import JobExpansion.Keyed.Resolution

/-!
# Defaults and keyed fields

Before jobs are split, fields that later stages rely on get their defaults. Once the app of a job
is known, its keyed fields are resolved one after another, each seeing what the ones before it
became.
-/

namespace JobExpansion.Job

/-- The job with the defaults of the fields that are read later. -/
def withDefaults (j : Job) : Job :=
  let j := (j.setDefault Field.pageload (.text "warm")).setDefault Field.runVisualMetrics
    (.bool false)
  match j.text? Field.testName with
  | some name => j.setDefault Field.tryName (.text name)
  | none => j

/-- The job with a keyed field resolved. -/
def resolveField (settings : Settings) (item field : String) (j : Job) : Except Failure Job :=
  match Keyed.resolve field item settings.attributes j.entries with
  | .ok entries => .ok ⟨entries⟩
  | .error e => .error ⟨.keyed e, some item, some field, none, none⟩

/-- The job with several keyed fields resolved, in order. -/
def resolveFields (settings : Settings) (item : String) : List String → Job → Except Failure Job
  | [], j => .ok j
  | field :: fields, j => do
    let j ← j.resolveField settings item field
    resolveFields settings item fields j

/-- The fields that are resolved once the app is known. -/
def keyedFields : List String := [
  Field.condprof, Field.variants, Field.limitPlatforms, Field.activity, Field.binaryPath,
  Field.pageload, Field.maxRunTime, Field.runOnProjects, Field.target, Field.runVisualMetrics]

/-- The job with its keyed fields resolved. -/
def resolved (settings : Settings) (j : Job) : Except Failure Job :=
  j.resolveFields settings j.testName keyedFields

end JobExpansion.Job
