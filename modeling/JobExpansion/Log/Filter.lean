import JobExpansion.Log.Directive
import JobExpansion.Text.Search

/-!
# Filters

A filter is made of directives. Remarks belong to no span and their fields have no values that a
directive could ask for, so only directives on targets and names of fields count. Of the rules that
match a remark the most specific one decides: the one with the longest target, then with the most
fields, then the last in the order of their texts. Without a rule nothing is let through.
-/

namespace JobExpansion.Log

/-- A directive on targets and names of fields. -/
structure Rule where
  target : Option String
  fields : List String
  threshold : Threshold
  deriving Repr, DecidableEq

namespace Rule

/-- The rule of a directive. -/
def ofDirective? (d : Directive) : Option Rule :=
  if d.span.isSome || d.fields.any (·.value.isSome) then none
  else some ⟨d.target, d.fields.map (·.name), d.threshold⟩

/-- The length of the target; a missing one is shorter than an empty one. -/
def targetSize (r : Rule) : Nat :=
  match r.target with
  | none => 0
  | some t => t.utf8ByteSize + 1

/-- One list of texts comes before another in the order of a dictionary. -/
def listBefore : List String → List String → Bool
  | [], [] => false
  | [], _ :: _ => true
  | _ :: _, [] => false
  | a :: as, b :: bs => a < b || (a = b && listBefore as bs)

/-- A rule is less specific than another. -/
def lessSpecific (r s : Rule) : Bool :=
  r.targetSize < s.targetSize
    || (r.targetSize = s.targetSize
      && (r.fields.length < s.fields.length
        || (r.fields.length = s.fields.length
          && (r.target.getD "" < s.target.getD ""
            || (r.target = s.target && listBefore r.fields s.fields)))))

/-- A rule is about remarks from a target with some fields. -/
def concerns (r : Rule) (target : String) (fields : List String) : Bool :=
  r.target.all (Text.startsWith target) && r.fields.all fields.contains

end Rule

/-- What is let through. -/
structure Filter where
  rules : List Rule
  deriving Repr, DecidableEq

namespace Filter

/-- The filter of directives between commas. -/
def read? (text : String) : Option Filter :=
  (((text.splitOn ",").filter (· ≠ "")).mapM Directive.read?).map fun ds =>
    ⟨ds.filterMap Rule.ofDirective?⟩

/-- The most specific of some rules; of equal ones the last. -/
def mostSpecific? (rules : List Rule) : Option Rule :=
  rules.foldl (fun best r => if best.any r.lessSpecific then best else some r) none

/-- Remarks of a level from a target with some fields are let through. -/
def allows (f : Filter) (target : String) (fields : List String) (l : Level) : Bool :=
  (mostSpecific? (f.rules.filter (·.concerns target fields))).any fun r =>
    Threshold.allows r.threshold l

/-- The filter of the environment if there is one that can be read, or else that of a directive. -/
def choose? (fromEnvironment : Option String) (directive : String) : Option Filter :=
  match fromEnvironment.bind read? with
  | some f => some f
  | none => read? directive

end Filter

end JobExpansion.Log
