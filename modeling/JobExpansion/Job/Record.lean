import JobExpansion.Failure.Cause
import JobExpansion.Job.Fields
import JobExpansion.Job.Symbol
import JobExpansion.Value.Path

/-!
# Jobs

A job is a mapping of fields in the order of their writing. Operations that may fail change it in
place: it is a state, on which they work step by step and which a failure leaves as the steps before
it have made it. Each gives rise to a function to the changed job or the reason why there is none.
-/

namespace JobExpansion

/-- A job description: fields and their values, in order. -/
structure Job where
  entries : Entries
  deriving Repr, DecidableEq

namespace Job

/-- The job with no field. -/
def empty : Job := ⟨[]⟩

/-- The job that a mapping describes. -/
def ofValue : Value → Except Failure Job
  | .mapping entries => .ok ⟨entries⟩
  | v => .error ⟨.jobNotMapping v.tag, none, none, none, none⟩

/-- The mapping of a job. -/
def value (j : Job) : Value := .mapping j.entries

/-- The value of a field. -/
def get? (j : Job) (k : String) : Option Value := j.entries.lookup k

/-- A field is there. -/
def has (j : Job) (k : String) : Bool := j.entries.has k

/-- The job with a value in a field. -/
def set (k : String) (v : Value) (j : Job) : Job := ⟨j.entries.set k v⟩

/-- The job with a value in a field that was not there. -/
def setDefault (k : String) (v : Value) (j : Job) : Job := ⟨j.entries.setDefault k v⟩

/-- The job without a field. -/
def erase (k : String) (j : Job) : Job := ⟨j.entries.erase k⟩

/-- A field is there and true. -/
def flag (j : Job) (k : String) : Bool := j.get? k = some (.bool true)

/-- The text of a field. -/
def text? (j : Job) (k : String) : Option String := (j.get? k).bind Value.text?

/-- The name by which messages know a job. -/
def testName (j : Job) : String := (j.text? Field.testName).getD "<unnamed>"

/-- The platform of a job; empty if there is none. -/
def testPlatform (j : Job) : String := (j.text? Field.testPlatform).getD ""

/-- A failure of this job in a field. -/
def failure (j : Job) (field : String) (cause : Cause) : Failure :=
  ⟨cause, some j.testName, some field, none, none⟩

/-- The text of a field that is to be there. -/
def requireText (j : Job) (k : String) : Except Failure String :=
  match j.text? k with
  | some s => .ok s
  | none => .error (j.failure k (.stringMissing k))

/-- The symbol of a job. -/
def symbol (j : Job) : Except Failure Symbol :=
  (j.requireText Field.symbol).map Symbol.split

/-- The job with a symbol. -/
def setSymbol (s : Symbol) (j : Job) : Job := j.set Field.symbol (.text s.text)

/-- The mapping in a field, empty if the field is not there. -/
def mapping (j : Job) (k : String) : Except Failure Entries :=
  match j.get? k with
  | none => .ok []
  | some (.mapping entries) => .ok entries
  | some _ => .error (j.failure k (.fieldNotMapping k))

/-- The field of the extra options, as a path. -/
def optionsPath : String := "mozharness.extra-options"

/-- The extra options of a mapping; empty if they are not there. -/
def optionList (j : Job) (mozharness : Entries) : Except Failure (List Value) :=
  match mozharness.lookup Field.extraOptions with
  | none => .ok []
  | some (.list options) => .ok options
  | some _ => .error (j.failure optionsPath .optionsNotList)

/-- The extra options that are strings. -/
def options (j : Job) : List String :=
  match j.get? Field.mozharness with
  | some (.mapping mozharness) =>
    match mozharness.lookup Field.extraOptions with
    | some (.list options) => options.filterMap Value.text?
    | _ => []
  | _ => []

/-! ### Changes in place -/

/-- A text is put behind the one in a field. -/
def appendInPlace (k suffix : String) : EStateM Failure Job Unit := do
  let j ← get
  match j.text? k with
  | some s => modify (set k (.text (s ++ suffix)))
  | none => throw (j.failure k (.notAppendable (j.has k) k))

/-- The symbol is replaced by another made of it. -/
def editSymbol (edit : Symbol → Symbol) : EStateM Failure Job Unit := do
  match (← get).symbol with
  | .ok s => modify (setSymbol (edit s))
  | .error failure => throw failure

/-- A text is put behind the leaf of the symbol. -/
def suffixLeafInPlace (suffix : String) : EStateM Failure Job Unit :=
  editSymbol (·.suffixLeaf suffix)

/-- A text is put behind the group of the symbol. -/
def suffixGroupInPlace (suffix : String) : EStateM Failure Job Unit :=
  editSymbol (·.suffixGroup suffix)

/-- The mapping in a field. It is made if the field is not there, and only then is it looked at. -/
def openMapping (k : String) : EStateM Failure Job Entries := do
  let before ← get
  modify (setDefault k (.mapping []))
  match (← get).get? k with
  | some (.mapping entries) => return entries
  | _ => throw (before.failure k (.fieldNotMapping k))

/-- The extra options. They and the mapping that they are in are made if they are not there, and
only then are they looked at. -/
def openOptions : EStateM Failure Job (List Value) := do
  let before ← get
  let mozharness ← openMapping Field.mozharness
  let mozharness := mozharness.setDefault Field.extraOptions (.list [])
  modify (set Field.mozharness (.mapping mozharness))
  match mozharness.lookup Field.extraOptions with
  | some (.list options) => return options
  | _ => throw (before.failure optionsPath .optionsNotList)

/-- A row is set in the mapping of a field. -/
def setInPlace (k key : String) (v : Value) : EStateM Failure Job Unit := do
  let entries ← openMapping k
  modify (set k (.mapping (entries.set key v)))

/-- More extra options are put behind those that are there. -/
def addOptionsInPlace (options : List String) : EStateM Failure Job Unit := do
  let old ← openOptions
  let new := Value.list (old ++ options.map Value.text)
  modify fun j => ⟨j.entries.setPath new [Field.mozharness, Field.extraOptions]⟩

/-- The job that a change in place ends with. -/
def changedBy (change : EStateM Failure Job Unit) (j : Job) : Except Failure Job :=
  match change.run j with
  | .ok () changed => .ok changed
  | .error failure _ => .error failure

/-- The job with a longer text in a field. -/
def append (k suffix : String) (j : Job) : Except Failure Job :=
  j.changedBy (appendInPlace k suffix)

/-- The job with a longer leaf in its symbol. -/
def suffixLeaf (suffix : String) (j : Job) : Except Failure Job :=
  j.changedBy (suffixLeafInPlace suffix)

/-- The job with a longer group in its symbol. -/
def suffixGroup (suffix : String) (j : Job) : Except Failure Job :=
  j.changedBy (suffixGroupInPlace suffix)

/-- The job with a row set in the mapping of a field. -/
def setIn (k key : String) (v : Value) (j : Job) : Except Failure Job :=
  j.changedBy (setInPlace k key v)

/-- The job with more extra options. -/
def addOptions (options : List String) (j : Job) : Except Failure Job :=
  j.changedBy (addOptionsInPlace options)

end Job

end JobExpansion
