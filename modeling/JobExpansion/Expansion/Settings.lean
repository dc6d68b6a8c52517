import JobExpansion.Parameters.Basic

/-!
# Settings of an expansion

What a stage knows besides the job: the kind and the parameters of the run. Of the parameters only
the project can decide a keyed value.
-/

namespace JobExpansion

/-- What every stage knows about the run. -/
structure Settings where
  kind : String := "raptor"
  parameters : Parameters := {}
  deriving Repr, DecidableEq

/-- The attributes of the run that keyed values may use besides the fields of a job. -/
def Settings.attributes (s : Settings) : Entries := [("project", .text s.parameters.project)]

end JobExpansion
