import JobExpansion.Yaml.Cursor

/-!
# Tokens of a YAML text

The indentation of blocks is made explicit by tokens that start and end them.
-/

namespace JobExpansion.Yaml

/-- Why a text is no YAML document that can be read. -/
inductive Fault where
  | character
  | token
  | entryNotAllowed
  | keyNotAllowed
  | valueNotAllowed
  | keyWithoutColon
  | directive
  | anchor
  | tag
  | blockHeader
  | tab
  | unterminated
  | escape
  | misplaced
  | documentStart
  | severalDocuments
  | unknownAnchor
  | tooDeep
  | tooManyAliases
  | badValue
  | badKey
  deriving Repr, DecidableEq, Inhabited

/-- The wording of a fault. -/
def Fault.message : Fault → String
  | .character => "control characters are not allowed"
  | .token => "found character that cannot start any token"
  | .entryNotAllowed => "block sequence entries are not allowed in this context"
  | .keyNotAllowed => "mapping keys are not allowed in this context"
  | .valueNotAllowed => "mapping values are not allowed in this context"
  | .keyWithoutColon => "could not find expected ':'"
  | .directive => "found an invalid directive"
  | .anchor => "did not find expected alphabetic or numeric character"
  | .tag => "found an invalid tag"
  | .blockHeader => "found an invalid block scalar header"
  | .tab => "found a tab character that violates indentation"
  | .unterminated => "found unexpected end of a quoted scalar"
  | .escape => "found unknown escape character"
  | .misplaced => "did not find expected node content"
  | .documentStart => "did not find expected <document start>"
  | .severalDocuments => "found another document where a single document was expected"
  | .unknownAnchor => "unknown anchor"
  | .tooDeep => "recursion limit exceeded"
  | .tooManyAliases => "repetition limit exceeded"
  | .badValue => "invalid value"
  | .badKey => "invalid key"

/-- A token. -/
inductive Token where
  | version (major minor : Nat)
  | tagDirective (handle start : String)
  | documentStart
  | documentEnd
  | blockSequenceStart
  | blockMappingStart
  | blockEnd
  | flowSequenceStart
  | flowSequenceEnd
  | flowMappingStart
  | flowMappingEnd
  | blockEntry
  | flowEntry
  | key
  | value
  | alias (name : String)
  | anchor (name : String)
  | tag (handle suffix : String)
  /-- A scalar; a plain one is written without quotes on one or more lines. -/
  | scalar (text : String) (plain : Bool)
  deriving Repr, DecidableEq, Inhabited

end JobExpansion.Yaml
