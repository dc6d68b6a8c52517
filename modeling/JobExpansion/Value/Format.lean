import JobExpansion.Text.Blank
import JobExpansion.Text.Case
import JobExpansion.Value.Json
import JobExpansion.Yaml.Printer

/-!
# Output formats

Values are written as JSON, indented, or as YAML; both end in a line feed.
-/

namespace JobExpansion

/-- The form in which values are written. -/
inductive OutputFormat where
  | json | yaml
  deriving Repr, DecidableEq

namespace OutputFormat

/-- The format that a word names, in any case and with blanks around it; otherwise the word that
names none. -/
def read (word : String) : Except String OutputFormat :=
  let word := Text.lowerText (Text.trim word)
  if word = "json" then .ok .json
  else if word = "yaml" ∨ word = "yml" then .ok .yaml
  else .error s!"invalid output format '{word}'; supported values are json, yaml"

/-- The text of a value. -/
def write (format : OutputFormat) (v : Value) : String :=
  match format with
  | .json => Json.indented v ++ "\n"
  | .yaml => Yaml.print v

end OutputFormat

end JobExpansion
