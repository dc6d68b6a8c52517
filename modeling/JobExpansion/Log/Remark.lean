import JobExpansion.Failure.Problem
import JobExpansion.Log.Filter

/-!
# Remarks

What a run has to say about itself. Each kind of remark has a level, a target by which directives
know it, a message and fields with their values.
-/

namespace JobExpansion.Log

/-- A remark of a run. -/
inductive Remark where
  /-- An expansion starts. -/
  | started (kind project : String) (isTry : Bool)
  /-- The jobs of a kind were read. -/
  | loaded (path : String) (jobs : Nat)
  /-- A stage is through with some jobs and made others of them. -/
  | applied (stage : Stage) (before after : Nat)
  /-- All stages are through. -/
  | expanded (kind project : String) (before after : Nat)
  | appSplit (job made : String)
  | coldSplit (made : String)
  | profileAdded (made : String)
  /-- A job has all its options. -/
  | optionsBuilt (job : String) (count : Nat)
  /-- The output was written. -/
  | written (path : String) (jobs : Nat)
  | stopped (problem : Problem)
  deriving Repr, DecidableEq

namespace Remark

/-- The level of a remark. -/
def level : Remark → Level
  | .started .. | .loaded .. | .applied .. => .debug
  | .expanded .. | .written .. => .info
  | .appSplit .. | .coldSplit _ | .profileAdded _ | .optionsBuilt .. => .trace
  | .stopped _ => .error

/-- The target of a remark. -/
def target : Remark → String
  | .started .. | .written .. => "raptor_taskgen::cli::commands"
  | .loaded .. => "raptor_taskgen::core::job::loader"
  | .applied .. | .expanded .. => "raptor_taskgen::core::transform::pipeline"
  | .appSplit .. => "raptor_taskgen::core::transform::apps"
  | .coldSplit _ => "raptor_taskgen::core::transform::pageload"
  | .profileAdded _ => "raptor_taskgen::core::transform::condprof"
  | .optionsBuilt .. => "raptor_taskgen::core::transform::extra_options"
  | .stopped _ => "raptor_taskgen"

/-- The message of a remark. -/
def message : Remark → String
  | .started .. => "expanding kind file"
  | .loaded .. => "loaded kind file"
  | .applied .. => "applied transform"
  | .expanded .. => "expanded job descriptions"
  | .appSplit .. => "split app"
  | .coldSplit _ => "split cold pageload"
  | .profileAdded _ => "added conditioned profile job"
  | .optionsBuilt .. => "built extra options"
  | .written .. => "wrote expanded jobs"
  | .stopped p => p.message

/-- The fields of a remark and the texts of their values. -/
def fields : Remark → List (String × String)
  | .started kind project isTry =>
    [("kind", kind), ("project", project), ("is_try", toString isTry)]
  | .loaded path jobs | .written path jobs => [("path", path), ("jobs", toString jobs)]
  | .applied stage before after =>
    [("stage", Text.quoted stage.name), ("jobs_in", toString before), ("jobs_out", toString after)]
  | .expanded kind project before after =>
    [("kind", kind), ("project", project), ("jobs_in", toString before),
      ("jobs_out", toString after)]
  | .appSplit job made => [("from", job), ("to", Text.quoted made)]
  | .coldSplit made => [("cold", Text.quoted made)]
  | .profileAdded made => [("condprof", Text.quoted made)]
  | .optionsBuilt job count => [("job", job), ("count", toString count)]
  | .stopped p => [("code", p.report.code.getD "")]

/-- The names that a directive may ask for: those of the fields and that of the message. -/
def fieldNames (r : Remark) : List String := "message" :: r.fields.map (·.1)

/-- A filter lets a remark through. -/
def passes (f : Filter) (r : Remark) : Bool := f.allows r.target r.fieldNames r.level

/-- A character of a message; those that could steer a terminal are written by their numbers. -/
def safeChar (c : Char) : String :=
  if c = '\x1b' ∨ c = '\x07' ∨ c = '\x08' ∨ c = '\x0c' ∨ c = '\x7f' then
    "\\x" ++ (if c.toNat < 16 then "0" else "") ++ Text.hexText c.toNat
  else if 0x80 ≤ c.toNat ∧ c.toNat ≤ 0x9f then "\\u\x7b" ++ Text.hexText c.toNat ++ "\x7d"
  else c.toString

/-- The line of a remark at a time. -/
def line (time : String) (r : Remark) : String :=
  " ".intercalate ([time, r.level.label, String.join (r.message.toList.map safeChar)]
    ++ r.fields.map fun (name, value) => name ++ "=" ++ value)

/-- The remark with other words for what a reader of formats has to say. -/
def mapDetail (f : String → String) : Remark → Remark
  | .stopped p => .stopped (p.mapDetail f)
  | r => r

end Remark

end JobExpansion.Log
