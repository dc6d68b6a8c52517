import JobExpansion.Value.Basic

/-!
# Paths

A dotted field leads through nested mappings. `getPath` reads the value at the end of a path and
`setPath` replaces it; a path that leads nowhere reads nothing and replaces nothing.
-/

namespace JobExpansion.Entries

/-- The keys of a dotted field. -/
def segments (field : String) : List String := (field.toList.splitOn '.').map String.ofList

/-- The value at the end of a path. -/
def getPath : List String → Entries → Option Value
  | [], _ => none
  | [k], es => es.lookup k
  | k :: ks, es =>
    match es.lookup k with
    | some (.mapping inner) => getPath ks inner
    | _ => none

/-- The mapping with another value at the end of a path. -/
def setPath (v : Value) : List String → Entries → Entries
  | [], es => es
  | [k], es => if has es k then set k v es else es
  | k :: ks, es =>
    match es.lookup k with
    | some (.mapping inner) => set k (.mapping (setPath v ks inner)) es
    | _ => es

end JobExpansion.Entries
