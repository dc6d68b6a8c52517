import JobExpansion.Text.Search
import JobExpansion.Value.Basic

/-!
# Parameters of a run

The project that jobs are made for, whether the push came through try, the level of the project,
and any others.
-/

namespace JobExpansion

/-- The parameters of a run. -/
structure Parameters where
  project : String := "mozilla-central"
  tryMode : Option String := none
  level : Option String := none
  /-- Parameters without a meaning of their own. -/
  extra : Entries := []
  deriving Repr, DecidableEq

namespace Parameters

/-- The push came through try. -/
def isTry (p : Parameters) : Bool := Text.contains p.project "try" || p.tryMode.isSome

/-- A parameter by its name. -/
def get? (p : Parameters) (name : String) : Option Value :=
  if name = "project" then some (.text p.project)
  else if name = "try_mode" then p.tryMode.map .text
  else if name = "level" then p.level.map .text
  else p.extra.lookup name

/-- The parameters as a mapping. -/
def value (p : Parameters) : Value :=
  .mapping ([("project", .text p.project)] ++ (p.tryMode.map fun s => ("try_mode", .text s)).toList
    ++ (p.level.map fun s => ("level", .text s)).toList ++ p.extra)

end Parameters

end JobExpansion
