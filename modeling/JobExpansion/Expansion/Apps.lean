import JobExpansion.Expansion.Fields
import JobExpansion.Text.Case

/-!
# Apps

A job with a list of apps stands for one job per app. Each gets the app into its description, its
names and, for the apps of a table, the group of its symbol.
-/

namespace JobExpansion

namespace App

/-- The suffix of the symbol's group for an app; other apps keep the symbol. -/
def symbols : List (String × String) :=
  [("chrome", "ChR"), ("chromium", "Cr"), ("fenix", "fenix"), ("refbrow", "refbrow")]

/-- The suffix for one app. -/
def symbol? (app : String) : Option String := symbols.lookup app

/-- The end of the name of a test that loads pages cold. -/
def coldSuffix : String := "-cold"

/-- The name of a test for an app; a cold test stays one. -/
def testName (name app : String) : String :=
  match Text.beforeSuffix? name coldSuffix with
  | some base => base ++ "-" ++ app ++ coldSuffix
  | none => name ++ "-" ++ app

end App

namespace Job

/-- The job for one app. -/
def forApp (app : String) (j : Job) : Except Failure Job := do
  let named ← (j.set Field.app (.text app)).append Field.description (" on " ++ Text.capitalize app)
  let name := App.testName (← j.requireText Field.testName) app
  let named := (named.set Field.testName (.text name)).set Field.tryName (.text name)
  match App.symbol? app with
  | some suffix => named.suffixGroup ("-" ++ suffix)
  | none => return named

/-- The jobs for the entries of a list of apps. -/
def forApps (item : String) (j : Job) : List Value → Except Failure (List Job)
  | [] => .ok []
  | .text app :: apps => do
    let first ← j.forApp app
    return first :: (← forApps item j apps)
  | v :: _ => .error ⟨.appNotString v, some item, some Field.apps, none, none⟩

/-- The job with its list of apps resolved. -/
def withApps (settings : Settings) (j : Job) : Except Failure Job :=
  j.resolveField settings j.testName Field.apps

/-- The entries of a list of apps; anything but a list has none. -/
def appList (j : Job) : List Value := ((j.get? Field.apps).bind Value.list?).getD []

/-- The jobs for all apps of a job, or the job itself if it has none. -/
def splitApps (settings : Settings) (j : Job) : Except Failure (List Job) := do
  let resolved ← j.withApps settings
  let rest := resolved.erase Field.apps
  match resolved.appList with
  | [] => return [rest]
  | apps => rest.forApps j.testName apps

end Job

end JobExpansion
