import JobExpansion.Failure.Cause
import JobExpansion.Parameters.Basic
import JobExpansion.Yaml.Document

/-!
# Parameters documents

A parameters document is a mapping. The project is a text, even one that looks like null; try mode
and level may be null, which is as if they were not there. Each of the three may be written once;
any other parameter takes its last value at its first place.
-/

namespace JobExpansion.Parameters

open Yaml (Node Fault)
open Yaml.Document (Reading)

/-- The parameters read so far. -/
structure Draft where
  project : Option String := none
  tryMode : Option (Option String) := none
  level : Option (Option String) := none
  extra : Entries := []

namespace Draft

/-- The parameters of a complete draft. -/
def finish (draft : Draft) : Parameters where
  project := draft.project.getD ({} : Parameters).project
  tryMode := draft.tryMode.join
  level := draft.level.join
  extra := draft.extra

/-- The text of a scalar that may be null. -/
def optionalText (d : Yaml.Document) (n : Node) : Reading (Option String) := do
  let n ← match n with
    | .alias id => d.follow id
    | n => pure n
  match n with
  | .scalar props text plain =>
    if !plain then return some text
    match props.tag with
    | none => return if text = "" || Yaml.isNullWord text then none else some text
    | some "tag:yaml.org,2002:null" =>
      if Yaml.isNullWord text then return none else throw .badValue
    | some _ => return some text
  | _ => throw .badValue

/-- The draft with one more row. -/
def addRow (d : Yaml.Document) (draft : Draft) (row : Node × Node) : Reading Draft := do
  match ← d.textOf row.1 with
  | "project" =>
    if draft.project.isSome then throw .badKey
    return { draft with project := some (← d.textOf row.2) }
  | "try_mode" =>
    if draft.tryMode.isSome then throw .badKey
    return { draft with tryMode := some (← optionalText d row.2) }
  | "level" =>
    if draft.level.isSome then throw .badKey
    return { draft with level := some (← optionalText d row.2) }
  | name =>
    let v ← d.valueOf true Yaml.Document.steps (Yaml.Document.depthLimit - 1) row.2
    return { draft with extra := draft.extra.set name v }

end Draft

/-- The parameters of a node; nothing at all stands for no parameters. -/
def ofNode (d : Yaml.Document) : Node → Reading Parameters
  | .mapping _ rows => do return (← rows.foldlM (Draft.addRow d) {}).finish
  | .scalar _ "" true => return {}
  | _ => throw .badValue

/-- The parameters that a text writes. -/
def read (text : String) : Except Fault Parameters := do
  if Text.isBlankText text then return {}
  match ← Node.ofText text with
  | none => return {}
  | some n =>
    let d ← Yaml.Document.ofNode n
    (ofNode d d.root).run' 0

/-- The parameters that the text of a file writes. -/
def parse (text path : String) : Except Failure Parameters :=
  (read text).mapError fun fault => .ofCause (.parametersMalformed path fault.message)

end JobExpansion.Parameters
