import JobExpansion.Toml.Basic

/-!
# Building TOML tables

Headers and dotted keys make the tables that they pass through. A header may define a table that
was only passed by other headers, once; a dotted key may add to a table that dotted keys made, and
a row is written once. `descend` goes down a path and edits the table at its end.
-/

namespace JobExpansion.Toml

/-- How a table came to be. -/
inductive Origin where
  /-- A header of its own. -/
  | header
  /-- The header of a table in it. -/
  | passed
  /-- A dotted key. -/
  | dotted
  deriving DecidableEq, Repr

/-- A part of a document while it is read. -/
inductive Item where
  | value (v : Value)
  | table (origin : Origin) (rows : List (String × Item))
  /-- A table for each of several equal headers. -/
  | tables (elements : List (List (String × Item)))
  deriving Inhabited

namespace Item

mutual
/-- The value of an item. -/
def toValue : Item → Value
  | .value v => v
  | .table _ rows => .table (rowsToValues rows)
  | .tables elements => .array (tablesToValues elements)

/-- The values of rows. -/
def rowsToValues : List (String × Item) → Rows
  | [] => []
  | (k, item) :: rows => (k, toValue item) :: rowsToValues rows

/-- The values of tables. -/
def tablesToValues : List (List (String × Item)) → List Value
  | [] => []
  | rows :: elements => .table (rowsToValues rows) :: tablesToValues elements
end

end Item

/-- A table while it is read. -/
structure Draft where
  origin : Origin := .header
  rows : List (String × Item) := []
  deriving Inhabited

namespace Draft

/-- Rows with an item under a key. -/
def setRow (key : String) (item : Item) : List (String × Item) → List (String × Item)
  | [] => [(key, item)]
  | row :: rows => if row.1 = key then (key, item) :: rows else row :: setRow key item rows

/-- The table with an item under a key. -/
def set (key : String) (item : Item) (d : Draft) : Draft :=
  { d with rows := setRow key item d.rows }

/-- The table with the table at the end of a path edited; tables that are missing on the way are
made. Of several tables under one key the last is meant. -/
def descend (dotted : Bool) (edit : Draft → Option Draft) : List String → Draft → Option Draft
  | [], d => edit d
  | key :: path, d =>
    match d.rows.lookup key with
    | none =>
      (descend dotted edit path { origin := if dotted then .dotted else .passed }).map fun below =>
        d.set key (.table below.origin below.rows)
    | some (.value _) => none
    | some (.table origin rows) =>
      if dotted && origin = .header then none
      else
        (descend dotted edit path ⟨origin, rows⟩).map fun below =>
          d.set key (.table below.origin below.rows)
    | some (.tables elements) =>
      match elements.getLast? with
      | none => none
      | some rows =>
        (descend dotted edit path ⟨.header, rows⟩).map fun below =>
          d.set key (.tables (elements.dropLast ++ [below.rows]))

/-- The table with a row. -/
def addRow (path : List String) (key : String) (v : Value) : Draft → Option Draft :=
  descend true (fun d =>
    if (!path.isEmpty && d.origin ≠ .dotted) || (d.rows.lookup key).isSome then none
    else some (d.set key (.value v))) path

/-- The table with a table that has a header. -/
def addTable (path : List String) (key : String) : Draft → Option Draft :=
  descend false (fun d =>
    match d.rows.lookup key with
    | none => some (d.set key (.table .header []))
    | some (.table .passed rows) =>
      some ⟨d.origin, d.rows.filter (·.1 ≠ key) ++ [(key, .table .header rows)]⟩
    | some _ => none) path

/-- The table with one more of the tables that have the same header. -/
def addElement (path : List String) (key : String) : Draft → Option Draft :=
  descend false (fun d =>
    match d.rows.lookup key with
    | none => some (d.set key (.tables [[]]))
    | some (.tables elements) => some (d.set key (.tables (elements ++ [[]])))
    | some _ => none) path

/-- The document with a row in the table of the last header. -/
def addBelow (header path : List String) (key : String) (v : Value) : Draft → Option Draft :=
  descend false (addRow path key v) header

end Draft

end JobExpansion.Toml
