import JobExpansion.Yaml.Node
import JobExpansion.Yaml.Resolution

/-!
# Values of documents

The value of a document is that of its node, an alias standing for the node under its anchor.
Numbers that are not finite are read as null, integers that need more than 64 bits are refused,
and so are tags of the document's own. Nesting and the number of aliases followed are bounded, so
that an alias inside its own node ends in a fault.
-/

namespace JobExpansion.Yaml

/-! ### Anchors -/

/-- The anchors met so far, each with its number. -/
abbrev Anchors := List (String × String)

/-- The anchors with one more name, and its number: the count of names so far. -/
def Anchors.define (names : Anchors) (name : String) : Anchors × String :=
  let id := toString names.length
  if (names.lookup name).isSome then
    (names.map fun row => if row.1 = name then (name, id) else row, id)
  else (names ++ [(name, id)], id)

/-- The properties with a number in place of the name of the anchor. -/
def Properties.number (names : Anchors) (props : Properties) : Properties × Anchors :=
  match props.anchor with
  | some name =>
    let (names, id) := names.define name
    ({ props with anchor := some id }, names)
  | none => (props, names)

namespace Node

mutual
/-- The node with numbers in place of the names of anchors, from left to right. A number may come
to belong to several nodes; the last of them is meant. -/
def number (names : Anchors) : Node → Except Fault (Node × Anchors)
  | .alias name =>
    match names.lookup name with
    | some id => .ok (.alias id, names)
    | none => .error .unknownAnchor
  | .scalar props text plain =>
    let (props, names) := props.number names
    .ok (.scalar props text plain, names)
  | .sequence props items =>
    let (props, names) := props.number names
    (numberItems names items).map fun (items, names) => (.sequence props items, names)
  | .mapping props rows =>
    let (props, names) := props.number names
    (numberRows names rows).map fun (rows, names) => (.mapping props rows, names)

/-- The items with numbers. -/
def numberItems (names : Anchors) : List Node → Except Fault (List Node × Anchors)
  | [] => .ok ([], names)
  | n :: ns => do
    let (n, names) ← number names n
    let (ns, names) ← numberItems names ns
    return (n :: ns, names)

/-- The rows with numbers. -/
def numberRows (names : Anchors) :
    List (Node × Node) → Except Fault (List (Node × Node) × Anchors)
  | [] => .ok ([], names)
  | (k, v) :: rows => do
    let (k, names) ← number names k
    let (v, names) ← number names v
    let (rows, names) ← numberRows names rows
    return ((k, v) :: rows, names)
end

mutual
/-- The anchored nodes, from left to right. -/
def anchored : Node → List (String × Node)
  | .alias _ => []
  | .scalar props text plain =>
    (props.anchor.map (·, .scalar props text plain)).toList
  | .sequence props items =>
    (props.anchor.map (·, .sequence props items)).toList ++ anchoredItems items
  | .mapping props rows =>
    (props.anchor.map (·, .mapping props rows)).toList ++ anchoredRows rows

/-- The anchored nodes among items. -/
def anchoredItems : List Node → List (String × Node)
  | [] => []
  | n :: ns => anchored n ++ anchoredItems ns

/-- The anchored nodes among rows. -/
def anchoredRows : List (Node × Node) → List (String × Node)
  | [] => []
  | (k, v) :: rows => anchored k ++ anchored v ++ anchoredRows rows
end

mutual
/-- The number of scalars, aliases, and starts and ends of collections. -/
def events : Node → Nat
  | .alias _ | .scalar .. => 1
  | .sequence _ items => 2 + eventsItems items
  | .mapping _ rows => 2 + eventsRows rows

/-- The events of items. -/
def eventsItems : List Node → Nat
  | [] => 0
  | n :: ns => events n + eventsItems ns

/-- The events of rows. -/
def eventsRows : List (Node × Node) → Nat
  | [] => 0
  | (k, v) :: rows => events k + events v + eventsRows rows
end

end Node

/-! ### Values -/

/-- A numbered document with what its aliases stand for. -/
structure Document where
  root : Node
  /-- The anchored nodes, the last one first. -/
  targets : List (String × Node)
  /-- How many aliases may be followed. -/
  aliasLimit : Nat

namespace Document

/-- The document of a node. -/
def ofNode (n : Node) : Except Fault Document := do
  let (root, _) ← Node.number [] n
  return ⟨root, (Node.anchored root).reverse, 100 * root.events⟩

/-- How deeply collections may be nested. -/
def depthLimit : Nat := 128

/-- Reading values while counting the aliases followed. -/
abbrev Reading := StateT Nat (Except Fault)

/-- The node of an alias. -/
def follow (d : Document) (id : String) : Reading Node := do
  let count ← get
  set (count + 1)
  if d.aliasLimit < count + 1 then throw .tooManyAliases
  match d.targets.lookup id with
  | some n => return n
  | none => throw .unknownAnchor

/-- A tag of the document's own. -/
def isLocal (tag : Option String) : Bool := tag.any fun t => t.startsWith "!"

/-- The value of an integer. -/
def integerValue (n : Int) : Except Fault Value :=
  if width n = .word then .ok (.number (.int n)) else .error .badValue

/-- The value of a scalar. -/
def scalarValue (tag : Option String) (text : String) (plain : Bool) : Except Fault Value :=
  match tag with
  | some "tag:yaml.org,2002:bool" =>
    match boolWord? text with
    | some b => .ok (.bool b)
    | none => .error .badValue
  | some "tag:yaml.org,2002:int" =>
    match integer? text.toList with
    | some n => integerValue n
    | none => .error .badValue
  | some "tag:yaml.org,2002:float" =>
    if isNonFiniteWord text then .ok .null
    else
      match double? text.toList with
      | some bits => .ok (.number (.double bits))
      | none => .error .badValue
  | some "tag:yaml.org,2002:null" => if isNullWord text then .ok .null else .error .badValue
  | some tag => if tag.startsWith "!" then .error .badValue else .ok (.text text)
  | none =>
    if !plain then .ok (.text text)
    else
      match resolve text with
      | .null | .notFinite => .ok .null
      | .bool b => .ok (.bool b)
      | .int n => integerValue n
      | .double bits => .ok (.number (.double bits))
      | .string => .ok (.text text)

/-- The text of a scalar, whatever its tag. -/
def textOf (d : Document) : Node → Reading String
  | .scalar _ text _ => return text
  | .alias id => do
    match ← d.follow id with
    | .scalar _ text _ => return text
    | _ => throw .badKey
  | _ => throw .badKey

/-- The value of a node, collections nested to some depth. Keys are read as texts, or, if they are
to be strings, as values. -/
def valueOf (d : Document) (stringKeys : Bool) : Nat → Nat → Node → Reading Value
  | 0, _, _ => throw .tooDeep
  | fuel + 1, depth, n =>
    match n with
    | .alias id => do d.valueOf stringKeys fuel depth (← d.follow id)
    | .scalar props text plain => scalarValue props.tag text plain
    | .sequence props items => do
      if isLocal props.tag then throw .badValue
      match depth with
      | 0 => throw .tooDeep
      | depth + 1 => return .list (← items.mapM (d.valueOf stringKeys fuel depth))
    | .mapping props rows => do
      if isLocal props.tag then throw .badValue
      match depth with
      | 0 => throw .tooDeep
      | depth + 1 =>
        let rows ← rows.mapM fun (k, v) => do
          let k ←
            if stringKeys then do
              match ← d.valueOf stringKeys fuel depth k with
              | .text k => pure k
              | _ => throw .badKey
            else d.textOf k
          return (k, ← d.valueOf stringKeys fuel depth v)
        return .mapping (Entries.ofRows rows)

/-- Enough steps for any document that is not nested too deeply: a collection takes one, and an
alias in front of it another. -/
def steps : Nat := 2 * depthLimit + 3

end Document

/-- The value of the one document of a text; null if there is none. -/
def read (text : String) : Except Fault Value := do
  match ← Node.ofText text with
  | none => return .null
  | some n =>
    let d ← Document.ofNode n
    (d.valueOf false Document.steps Document.depthLimit d.root).run' 0

end JobExpansion.Yaml
