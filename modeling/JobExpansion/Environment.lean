import JobExpansion.Text.Blank

/-!
# Environment variables

The variables that a run is started with.
-/

namespace JobExpansion

/-- The variables of a run and their values. -/
abbrev Environment := List (String × String)

namespace Environment

/-- The project that jobs are made for. -/
def project : String := "RAPTOR_TASKGEN_PROJECT"

/-- How a push came through try. -/
def tryMode : String := "RAPTOR_TASKGEN_TRY_MODE"

/-- The directory of the log file. -/
def logDirectory : String := "RAPTOR_TASKGEN_LOG_DIR"

/-- The directive of what is logged. -/
def logLevel : String := "RAPTOR_TASKGEN_LOG_LEVEL"

/-- Directives that take the place of all others. -/
def logFilter : String := "RUST_LOG"

/-- The directory of the user. -/
def home : String := "HOME"

/-- The names of all variables that a run asks for. -/
def names : List String := [project, tryMode, logDirectory, logLevel, logFilter, home]

/-- The value of a variable that is not blank. -/
def filled? (env : Environment) (name : String) : Option String :=
  (env.lookup name).filter fun value => !Text.isBlankText value

end Environment

end JobExpansion
