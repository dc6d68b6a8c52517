import JobExpansion.Job.Record

/-!
# The schema of jobs

Each `Rule` is about one field: whether it is required, what shape its value has, and which
attributes it may be keyed by. A keyed value is checked in all its alternatives, at every depth.
Fields without a rule pass unchecked. The first offence in the order of rules is the one that is
told.
-/

namespace JobExpansion

/-- What the schema says about a field. -/
structure Rule where
  field : String
  required : Bool := false
  shape : Shape
  /-- The attributes that the field may be keyed by. -/
  keyedBy : List String := []
  deriving Repr, DecidableEq

namespace Schema

/-- The modes in which pages can be loaded. -/
def pageloadModes : List String := ["cold", "warm", "both"]

/-- The rules, in the order in which they are checked. -/
def rules : List Rule := [
  ⟨Field.testName, true, .string, []⟩,
  ⟨Field.testPlatform, true, .string, []⟩,
  ⟨Field.requireSignedExtensions, true, .boolean, []⟩,
  ⟨Field.symbol, true, .string, []⟩,
  ⟨Field.description, true, .string, []⟩,
  ⟨Field.tryName, false, .string, []⟩,
  ⟨Field.apps, false, .stringList, ["test-platform"]⟩,
  ⟨Field.raptorTest, false, .string, []⟩,
  ⟨Field.raptorSubtests, false, .stringList, []⟩,
  ⟨Field.activity, false, .string, ["app"]⟩,
  ⟨Field.binaryPath, false, .string, ["app"]⟩,
  ⟨Field.pageload, false, .oneOf pageloadModes, ["test-platform", "app"]⟩,
  ⟨Field.condprof, false, .boolean, ["app"]⟩,
  ⟨Field.maxRunTime, false, .integer, ["app", "test-platform"]⟩,
  ⟨Field.runOnProjects, false, .stringOrList, ["app", "test-platform"]⟩,
  ⟨Field.variants, false, .stringList, ["app"]⟩,
  ⟨Field.target, false, .target, ["app", "test-platform"]⟩,
  ⟨Field.runVisualMetrics, false, .boolean, ["app"]⟩]

/-- An offence against a rule: what is wrong, and the path to it. -/
abbrev Offence := Cause × String

mutual
/-- The first offence of a value against a rule, the value standing at a path. -/
def check (rule : Rule) (path : String) : Value → Option Offence
  | .mapping [(key, .mapping alternatives)] =>
    match Keyed.attr? key with
    | some attr =>
      if rule.keyedBy.contains attr then checkAll rule (path ++ ".by-" ++ attr ++ ".") alternatives
      else some (.notKeyable path attr rule.keyedBy, path)
    | none => checkShape rule path (.mapping [(key, .mapping alternatives)])
  | v => checkShape rule path v

/-- The first offence among alternatives, the path ending before their keys. -/
def checkAll (rule : Rule) (path : String) : List (String × Value) → Option Offence
  | [] => none
  | (key, v) :: rest => (check rule (path ++ key) v).or (checkAll rule path rest)

/-- The offence of a value that is not keyed. -/
def checkShape (rule : Rule) (path : String) (v : Value) : Option Offence :=
  if rule.shape.accepts v then none else some (.wrongShape path rule.shape v, path)
end

/-- The first offence of a job against a rule. -/
def Rule.offence (rule : Rule) (j : Job) : Option Offence :=
  match j.get? rule.field with
  | some v => check rule rule.field v
  | none => if rule.required then some (.fieldMissing rule.field, rule.field) else none

/-- A job meets every rule, or the first offence against one. -/
def validate (j : Job) : Except Failure Unit :=
  match rules.findSome? (Rule.offence · j) with
  | some (cause, path) => .error (j.failure path cause)
  | none => .ok ()

/-- Every job from a position on meets every rule, or the first offence. -/
def validateFrom (i : Nat) : List Job → Except Failure Unit
  | [] => .ok ()
  | j :: js => do
    (validate j).mapError (Failure.atIndex i)
    validateFrom (i + 1) js

/-- Every job meets every rule, or the first offence. -/
def validateAll (js : List Job) : Except Failure Unit := validateFrom 0 js

end Schema

end JobExpansion
