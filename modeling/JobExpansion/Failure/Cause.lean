import JobExpansion.Expansion.Stage
import JobExpansion.Job.Shape
import JobExpansion.Keyed.Basic

/-!
# Failures

A `Cause` says what went wrong; its category, code and wording follow from it. A `Failure` adds
where: the job, the field, the position in the list of jobs and the stage, as far as they are
known.
-/

namespace JobExpansion

/-- The kinds of failures. -/
inductive Category where
  | validation | invariant | resolution | serialization | io | config | internal | unknown
  deriving DecidableEq, Repr

namespace Category

/-- The name of a category. -/
def name : Category → String
  | .validation => "ValidationError"
  | .invariant => "InvariantViolation"
  | .resolution => "ResolutionError"
  | .serialization => "SerializationError"
  | .io => "IoError"
  | .config => "ConfigError"
  | .internal => "InternalError"
  | .unknown => "Unknown"

/-- All categories. -/
def all : List Category :=
  [.validation, .invariant, .resolution, .serialization, .io, .config, .internal, .unknown]

/-- The category of a name. -/
def named? (name : String) : Option Category := all.find? fun c => c.name = name

/-- What is not of a known category is reported as information only. -/
def isError (c : Category) : Bool := c ≠ .unknown

end Category

/-- What went wrong. -/
inductive Cause where
  /-- A job description is not a mapping. -/
  | jobNotMapping (found : Value.Tag)
  /-- A field that every job carries is not there or not a string. -/
  | stringMissing (field : String)
  /-- Text was to be appended to a field that is not a string. -/
  | notAppendable (present : Bool) (field : String)
  /-- A field is not a mapping. -/
  | fieldNotMapping (field : String)
  /-- The extra options are not a list. -/
  | optionsNotList
  /-- A required field is not there. -/
  | fieldMissing (field : String)
  /-- A value has the wrong shape. -/
  | wrongShape (path : String) (shape : Shape) (found : Value)
  /-- A field is keyed by an attribute that it may not be keyed by. -/
  | notKeyable (path attr : String) (allowed : List String)
  /-- An entry of the list of apps is not a string. -/
  | appNotString (found : Value)
  /-- The subtests are not a list. -/
  | subtestsNotList (found : Value)
  /-- An entry of the list of subtests is not a string. -/
  | subtestNotString (found : Value)
  /-- A job is to load pages cold and names no test. -/
  | coldWithoutTest
  /-- A keyed value has no alternative to take. -/
  | keyed (failure : Keyed.Failure)
  /-- A kind file cannot be read. -/
  | kindUnreadable (path reason : String)
  /-- A kind document is not well formed. -/
  | kindMalformed (origin detail : String)
  /-- The jobs of a kind document are not a mapping. -/
  | jobsNotMapping (origin : String) (found : Value.Tag)
  /-- A kind document is neither a list nor a mapping. -/
  | kindNotJobs (origin : String) (found : Value.Tag)
  /-- A parameters file cannot be read. -/
  | parametersUnreadable (path reason : String)
  /-- A parameters file is not well formed. -/
  | parametersMalformed (path detail : String)
  | projectEmpty
  | projectBlank (project : String)
  deriving Repr, DecidableEq

namespace Cause

/-- The category of a cause. -/
def category : Cause → Category
  | jobNotMapping _ | fieldMissing _ | wrongShape .. | notKeyable .. | jobsNotMapping ..
  | kindNotJobs .. => .validation
  | stringMissing _ | notAppendable .. | fieldNotMapping _ | optionsNotList | appNotString _
  | subtestsNotList _ | subtestNotString _ | coldWithoutTest => .invariant
  | keyed _ => .resolution
  | kindUnreadable .. | parametersUnreadable .. => .io
  | kindMalformed .. => .serialization
  | parametersMalformed .. | projectEmpty | projectBlank _ => .config

/-- The code of a cause. -/
def code : Cause → String
  | fieldMissing _ => "RAPTOR-SCHEMA-001"
  | jobNotMapping _ | wrongShape .. => "RAPTOR-SCHEMA-002"
  | notKeyable .. => "RAPTOR-SCHEMA-003"
  | coldWithoutTest => "RAPTOR-INVARIANT-001"
  | stringMissing _ | notAppendable .. | fieldNotMapping _ | optionsNotList | appNotString _
  | subtestsNotList _ | subtestNotString _ => "RAPTOR-INVARIANT-002"
  | keyed f =>
    match f.trouble with
    | .missing | .noMatch _ => "RAPTOR-KEYED-001"
    | .ambiguous _ => "RAPTOR-KEYED-002"
    | .invalid .. => "RAPTOR-KEYED-003"
  | kindUnreadable .. | kindMalformed .. | jobsNotMapping .. | kindNotJobs .. => "RAPTOR-LOAD-001"
  | parametersUnreadable .. | parametersMalformed .. | projectEmpty | projectBlank _ =>
    "RAPTOR-CONFIG-001"

/-- A value as it is named in a message about its shape. -/
def describe : Value → String
  | .text s => "'" ++ s ++ "'"
  | v => v.tag.name

/-- The wording of a cause. -/
def message : Cause → String
  | jobNotMapping found => s!"job description must be a mapping, got {found.name}"
  | stringMissing field => s!"job record is missing string field '{field}'"
  | notAppendable present field =>
    let kind := if present then "non-string" else "missing"
    s!"cannot append to {kind} field '{field}'"
  | fieldNotMapping field => s!"field '{field}' must be a mapping"
  | optionsNotList => "mozharness.extra-options must be a list"
  | fieldMissing field => s!"required key '{field}' not provided"
  | wrongShape path shape found =>
    s!"'{path}' must be {shape.description}, got {describe found}"
  | notKeyable path attr allowed =>
    let hint := if allowed.isEmpty then "it cannot be keyed"
      else "allowed: by-" ++ ", by-".intercalate allowed
    s!"'{path}' may not be keyed by '{attr}' ({hint})"
  | appNotString found => "apps entries must be strings, got " ++ Json.compact found
  | subtestsNotList found => "raptor-subtests must be a list, got " ++ Json.compact found
  | subtestNotString found => "raptor-subtests entries must be strings, got " ++ Json.compact found
  | coldWithoutTest => "cold pageload requires 'raptor-test' to be set"
  | keyed f => f.message
  | kindUnreadable path reason => s!"failed to read kind file {path}: {reason}"
  | kindMalformed origin detail => s!"failed to parse kind file {origin}: {detail}"
  | jobsNotMapping origin found =>
    s!"'jobs' in {origin} must be a mapping of job name to job, got {found.name}"
  | kindNotJobs origin found =>
    s!"kind file {origin} must contain a list or mapping of jobs, got {found.name}"
  | parametersUnreadable path reason => s!"Failed to read parameters file {path}: {reason}"
  | parametersMalformed path detail => s!"Failed to parse parameters file {path}: {detail}"
  | projectEmpty => "project parameter cannot be empty"
  | projectBlank project => s!"project '{project}' must not contain whitespace"

/-- What may help. -/
def suggestions : Cause → List String
  | keyed _ => ["add a 'default' alternative or a key matching this job"]
  | _ => []

/-- The cause with other words for what a library of formats has to say about it. -/
def mapDetail (f : String → String) : Cause → Cause
  | kindMalformed origin detail => kindMalformed origin (f detail)
  | parametersMalformed path detail => parametersMalformed path (f detail)
  | keyed ⟨attr, item, .invalid pattern reason⟩ =>
    keyed ⟨attr, item, .invalid pattern (f reason)⟩
  | cause => cause

end Cause

/-- What went wrong, and where. -/
structure Failure where
  cause : Cause
  testName : Option String := none
  field : Option String := none
  index : Option Nat := none
  stage : Option Stage := none
  deriving Repr, DecidableEq

namespace Failure

/-- The failure of which nothing but the cause is known. -/
def ofCause (cause : Cause) : Failure := { cause }

/-- The rows that tell where, in the order of their keys. -/
def context (f : Failure) : List (String × String) :=
  (f.field.map ("field", ·)).toList ++ (f.index.map fun i => ("index", toString i)).toList
    ++ (f.stage.map fun s => ("stage", s.name)).toList
    ++ (f.testName.map ("test-name", ·)).toList

/-- The failure at a place in the list of jobs. -/
def atIndex (i : Nat) (f : Failure) : Failure := { f with index := some i }

/-- The failure of a stage. -/
def inStage (s : Stage) (f : Failure) : Failure := { f with stage := some s }

/-- The failure of a field. -/
def atField (field : String) (f : Failure) : Failure := { f with field := some field }

end Failure

end JobExpansion
