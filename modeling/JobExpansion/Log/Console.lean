import JobExpansion.Text.Blank
import JobExpansion.Text.Case

/-!
# The console

Where remarks are shown. Results go to the standard output, so remarks go to the standard error
unless something else is asked for.
-/

namespace JobExpansion.Log

/-- Where remarks are shown. -/
inductive Console where
  | stdout | stderr | none
  deriving DecidableEq, Repr

namespace Console

/-- The word for a console. -/
def name : Console → String
  | .stdout => "stdout"
  | .stderr => "stderr"
  | .none => "none"

/-- The console of a word. -/
def named? (word : String) : Option Console :=
  [stdout, stderr, none].find? fun c => c.name = word

/-- The console that a word names, in any case and with blanks around it. -/
def read (word : String) : Except String Console :=
  match named? (Text.lowerText (Text.trim word)) with
  | some c => .ok c
  | _ => .error
    s!"invalid logging.console_output '{word}'; supported values are stdout, stderr, none"

end Console

end JobExpansion.Log
