import JobExpansion.Keyed.Basic

/-!
# Merging defaults into jobs

A mapping is laid over another: what both hold is merged if both are mappings, joined if both are
lists, and otherwise taken from the upper one. A keyed value on top replaces what is below it
whole. A key that is only in the upper mapping gets an empty container first, which its value is
then laid over.
-/

namespace JobExpansion.Kind

/-- What a new key gets before its value is laid over it. -/
def emptySlot : Value → Value
  | .mapping _ => .mapping []
  | .list _ => .list []
  | _ => .null

mutual
/-- A value laid over the one in its slot. -/
def mergeValue (below : Value) : Value → Value
  | .mapping above =>
    if Keyed.isKeyed (.mapping above) then .mapping above
    else
      match below with
      | .mapping entries => .mapping (mergeEntries entries above)
      | _ => .mapping above
  | .list above =>
    match below with
    | .list items => .list (items ++ above)
    | _ => .list above
  | .null => .null
  | .bool b => .bool b
  | .number n => .number n
  | .text s => .text s

/-- The rows of the upper mapping laid over the lower one, one after another. -/
def mergeEntries (below : Entries) : List (String × Value) → Entries
  | [] => below
  | (k, v) :: rest =>
    mergeEntries (below.set k (mergeValue ((below.lookup k).getD (emptySlot v)) v)) rest
end

/-- A value laid over another; only mappings are merged. -/
def merge (base overlay : Value) : Value :=
  match base, overlay with
  | .mapping below, .mapping above => .mapping (mergeEntries below above)
  | _, overlay => overlay

end JobExpansion.Kind
