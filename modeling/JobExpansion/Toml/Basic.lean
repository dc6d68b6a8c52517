/-!
# TOML values

A TOML document is a table. Numbers with a fraction, dates and times are kept as they are written.
-/

namespace JobExpansion.Toml

/-- A value of a document. -/
inductive Value where
  | string (text : String)
  | integer (n : Int)
  | float (text : String)
  | boolean (b : Bool)
  | dateTime (text : String)
  | array (items : List Value)
  | table (rows : List (String × Value))
  deriving Repr, Inhabited

/-- The rows of a table, in the order of their writing. -/
abbrev Rows := List (String × Value)

/-- A space or a tab. -/
def isBlank (c : Char) : Bool := c = ' ' || c = '\t'

/-- A character that may stand in a comment or between quotes: no control character but the tab. -/
def isText (c : Char) : Bool := c = '\t' || (' ' ≤ c && c ≠ '\x7f')

/-- A character of a key that needs no quotes. -/
def isBare (c : Char) : Bool := c.isAlphanum || c = '_' || c = '-'

end JobExpansion.Toml
