/-!
# Stages

The steps of an expansion, in the order in which they run: later ones rely on fields that earlier
ones set or remove.
-/

namespace JobExpansion

/-- A step of the expansion. -/
inductive Stage where
  | schema | defaults | apps | keyed | pageload | condprof | subtests | options
  deriving DecidableEq, Repr

namespace Stage

/-- The name of a stage. -/
def name : Stage → String
  | .schema => "ValidateSchemaTransform"
  | .defaults => "SetDefaultsTransform"
  | .apps => "SplitAppsTransform"
  | .keyed => "ResolveKeyedByTransform"
  | .pageload => "SplitPageloadTransform"
  | .condprof => "ConditionedProfileTransform"
  | .subtests => "SplitSubtestsTransform"
  | .options => "ExtraOptionsTransform"

/-- All stages, in order. -/
def all : List Stage :=
  [.schema, .defaults, .apps, .keyed, .pageload, .condprof, .subtests, .options]

/-- The stage of a name. -/
def named? (name : String) : Option Stage := all.find? fun s => s.name = name

end Stage

end JobExpansion
