import JobExpansion.Expansion.Pageload
import JobExpansion.Expansion.Settings

/-!
# Options of the harness

What is left of the fields that only describe the test becomes options of the harness, after the
options that the job already has.
-/

namespace JobExpansion

/-- URL parameters for tests on a family of platforms. -/
structure UrlRule where
  platformPrefix : String
  /-- The projects it is for; none means all. -/
  branches : List String
  /-- Any of these is part of the name of the test. -/
  testNames : List String
  urlParams : List String
  deriving Repr, DecidableEq

namespace UrlRule

/-- A rule is for this test. -/
def applies (rule : UrlRule) (platform testName project : String) (isTry : Bool) : Bool :=
  Text.startsWith platform rule.platformPrefix && rule.testNames.any (Text.contains testName)
    && (rule.branches.isEmpty || rule.branches.contains project
      || (isTry && rule.branches.contains "try"))

/-- The option that a rule gives. -/
def option (rule : UrlRule) : String := "--test-url-params=" ++ "&".intercalate rule.urlParams

/-- The rules, in order. Videos above 1080p are left out. -/
def table : List UrlRule := [
  { platformPrefix := "android-hw-g5", branches := [], testNames := ["youtube-playback"],
    urlParams := ["exclude=1,2,9,10,17,18,21,22,26,28,30,32,39,40,47,48,55,56,63,64,71,72,79,80,"
      ++ "83,84,89,90,95,96"] }]

end UrlRule

namespace Job

/-- A value in an option: a string as it is, anything else as JSON. -/
def optionText : Value → String
  | .text s => s
  | v => Json.compact v

/-- The option that a field gives, if it is there. -/
def fieldOption (j : Job) (field flag : String) : List String :=
  ((j.get? field).map fun v => flag ++ "=" ++ optionText v).toList

/-- The job is of the family that is told by a flag to run cold. -/
def isBrowsertime (j : Job) : Bool := Text.startsWith j.testName browsertimePrefix

/-- The options that the fields of a job give, in order. -/
def harnessOptions (settings : Settings) (j : Job) : List String :=
  (if j.flag Field.runVisualMetrics then ["--browsertime-video"] else [])
    ++ j.fieldOption Field.app "--app"
    ++ (if j.isBrowsertime && j.flag Field.cold then ["--cold"] else [])
    ++ j.fieldOption Field.activity "--activity"
    ++ j.fieldOption Field.binaryPath "--binary-path"
    ++ j.fieldOption Field.raptorTest "--test"
    ++ (if j.flag Field.requireSignedExtensions then ["--is-release-build"] else [])
    ++ (UrlRule.table.filter (·.applies j.testPlatform j.testName settings.parameters.project
        settings.parameters.isTry)).map UrlRule.option

/-- The job marked for visual metrics in its attributes, if it is to run with them. -/
def markMetrics (j : Job) : Except Failure Job :=
  if j.flag Field.runVisualMetrics then
    (j.erase Field.runVisualMetrics).setIn Field.attributes Field.runVisualMetrics (.bool true)
  else .ok (j.erase Field.runVisualMetrics)

/-- The job without the fields that became options. -/
def dropConsumed (j : Job) : Job :=
  let j := j.erase Field.app
  let j := if j.isBrowsertime then j.erase Field.cold else j
  ((j.erase Field.activity).erase Field.binaryPath).erase Field.raptorTest

/-- The job with its fields turned into options. -/
def withOptions (settings : Settings) (j : Job) : Except Failure Job := do
  let marked ← j.markMetrics
  marked.dropConsumed.addOptions (j.harnessOptions settings)

end Job

end JobExpansion
