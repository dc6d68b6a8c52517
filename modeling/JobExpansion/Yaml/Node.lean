import JobExpansion.Yaml.Token.Lexer

/-!
# Nodes

A document is a tree of scalars, sequences and mappings, some of them under an anchor, and of
aliases that stand for anchored nodes. `Node.ofTokens` builds the tree; wherever a node may be
missing, an empty plain scalar stands for it.
-/

namespace JobExpansion.Yaml

/-- What may stand in front of a node. -/
structure Properties where
  anchor : Option String := none
  tag : Option String := none
  deriving Repr, DecidableEq, Inhabited

/-- A node of a document. -/
inductive Node where
  | alias (name : String)
  | scalar (props : Properties) (text : String) (plain : Bool)
  | sequence (props : Properties) (items : List Node)
  | mapping (props : Properties) (rows : List (Node × Node))
  deriving Repr, Inhabited

namespace Node

/-- The node that stands for a missing one. -/
def missing : Node := .scalar {} "" true

/-- The handles of tags with what they stand for. -/
abbrev Handles := List (String × String)

/-- A tag written out. -/
def fullTag (handles : Handles) (handle suffix : String) : Except Fault String :=
  if handle = "" then .ok suffix
  else
    match handles.lookup handle with
    | some start => .ok (start ++ suffix)
    | none => .error .tag

/-- An anchor and a tag, in any order, at the start of some tokens. -/
def readProperties (handles : Handles) : List Token → Except Fault (Properties × List Token)
  | .anchor a :: .tag h s :: ts => (fullTag handles h s).map fun t => (⟨some a, some t⟩, ts)
  | .tag h s :: .anchor a :: ts => (fullTag handles h s).map fun t => (⟨some a, some t⟩, ts)
  | .anchor a :: ts => .ok (⟨some a, none⟩, ts)
  | .tag h s :: ts => (fullTag handles h s).map fun t => (⟨none, some t⟩, ts)
  | ts => .ok ({}, ts)

/-- A collection that starts with this token ends blocks of this kind. -/
def endsBlockValue (t : Option Token) : Bool :=
  match t with
  | none | some .key | some .value | some .blockEnd => true
  | _ => false

mutual
/-- A node. In a block, collections of blocks may follow; as a value of a mapping, so may a
sequence that is not indented. -/
def read (handles : Handles) :
    Nat → (block unindented : Bool) → List Token → Except Fault (Node × List Token)
  | 0, _, _, _ => .error .misplaced
  | fuel + 1, block, unindented, ts =>
    match ts with
    | .alias name :: ts => .ok (.alias name, ts)
    | ts => do
      let (props, ts) ← readProperties handles ts
      match ts with
      | .scalar text plain :: ts => return (.scalar props text plain, ts)
      | .flowSequenceStart :: ts =>
        let (items, ts) ← readFlowSequence handles fuel true ts
        return (.sequence props items, ts)
      | .flowMappingStart :: ts =>
        let (rows, ts) ← readFlowMapping handles fuel true ts
        return (.mapping props rows, ts)
      | .blockSequenceStart :: ts' =>
        if block then
          let (items, ts) ← readBlockSequence handles fuel ts'
          return (.sequence props items, ts)
        else readEmpty props ts
      | .blockMappingStart :: ts' =>
        if block then
          let (rows, ts) ← readBlockMapping handles fuel ts'
          return (.mapping props rows, ts)
        else readEmpty props ts
      | .blockEntry :: _ =>
        if unindented then
          let (items, ts) ← readUnindented handles fuel ts
          return (.sequence props items, ts)
        else readEmpty props ts
      | ts => readEmpty props ts

/-- Properties without a node behind them belong to an empty scalar. -/
def readEmpty (props : Properties) (ts : List Token) : Except Fault (Node × List Token) :=
  if props = {} then .error .misplaced else .ok (.scalar props "" true, ts)

/-- The entries of a block sequence. -/
def readBlockSequence (handles : Handles) : Nat → List Token → Except Fault (List Node × List Token)
  | 0, _ => .error .misplaced
  | fuel + 1, ts =>
    match ts with
    | .blockEntry :: ts => do
      let (item, ts) ← match ts with
        | .blockEntry :: _ | .blockEnd :: _ => pure (missing, ts)
        | ts => read handles fuel true false ts
      let (items, ts) ← readBlockSequence handles fuel ts
      return (item :: items, ts)
    | .blockEnd :: ts => .ok ([], ts)
    | _ => .error .misplaced

/-- The entries of a sequence that is not indented. -/
def readUnindented (handles : Handles) : Nat → List Token → Except Fault (List Node × List Token)
  | 0, _ => .error .misplaced
  | fuel + 1, ts =>
    match ts with
    | .blockEntry :: ts => do
      let (item, ts) ← match ts with
        | .blockEntry :: _ | .key :: _ | .value :: _ | .blockEnd :: _ => pure (missing, ts)
        | ts => read handles fuel true false ts
      let (items, ts) ← readUnindented handles fuel ts
      return (item :: items, ts)
    | ts => .ok ([], ts)

/-- The rows of a block mapping. -/
def readBlockMapping (handles : Handles) :
    Nat → List Token → Except Fault (List (Node × Node) × List Token)
  | 0, _ => .error .misplaced
  | fuel + 1, ts =>
    match ts with
    | .blockEnd :: ts => .ok ([], ts)
    | .key :: ts => do
      let (k, ts) ←
        if endsBlockValue ts.head? then pure (missing, ts) else read handles fuel true true ts
      let (v, ts) ← readBlockValue handles fuel ts
      let (rows, ts) ← readBlockMapping handles fuel ts
      return ((k, v) :: rows, ts)
    | _ => .error .misplaced

/-- The value of a row of a block mapping. -/
def readBlockValue (handles : Handles) : Nat → List Token → Except Fault (Node × List Token)
  | 0, _ => .error .misplaced
  | fuel + 1, ts =>
    match ts with
    | .value :: ts =>
      if endsBlockValue ts.head? then .ok (missing, ts) else read handles fuel true true ts
    | ts => .ok (missing, ts)

/-- The entries of a flow sequence; an entry may be a mapping of one row. -/
def readFlowSequence (handles : Handles) :
    Nat → (first : Bool) → List Token → Except Fault (List Node × List Token)
  | 0, _, _ => .error .misplaced
  | fuel + 1, first, ts =>
    match ts with
    | .flowSequenceEnd :: ts => .ok ([], ts)
    | ts => do
      let ts ← if first then pure ts else
        match ts with
        | .flowEntry :: ts => pure ts
        | _ => throw .misplaced
      match ts with
      | .flowSequenceEnd :: ts => return ([], ts)
      | .key :: ts =>
        let (row, ts) ← readSingleRow handles fuel ts
        let (items, ts) ← readFlowSequence handles fuel false ts
        return (.mapping {} [row] :: items, ts)
      | ts =>
        let (item, ts) ← read handles fuel false false ts
        let (items, ts) ← readFlowSequence handles fuel false ts
        return (item :: items, ts)

/-- The one row of a mapping inside a flow sequence. The token after a missing key is lost. -/
def readSingleRow (handles : Handles) : Nat → List Token → Except Fault ((Node × Node) × List Token)
  | 0, _ => .error .misplaced
  | fuel + 1, ts => do
    let (k, ts) ← match ts with
      | .value :: ts | .flowEntry :: ts | .flowSequenceEnd :: ts => pure (missing, ts)
      | ts => read handles fuel false false ts
    match ts with
    | .value :: ts =>
      match ts with
      | .flowEntry :: _ | .flowSequenceEnd :: _ => return ((k, missing), ts)
      | ts =>
        let (v, ts) ← read handles fuel false false ts
        return ((k, v), ts)
    | ts => return ((k, missing), ts)

/-- The rows of a flow mapping. A row that does not start as a key has no value. -/
def readFlowMapping (handles : Handles) :
    Nat → (first : Bool) → List Token → Except Fault (List (Node × Node) × List Token)
  | 0, _, _ => .error .misplaced
  | fuel + 1, first, ts =>
    match ts with
    | .flowMappingEnd :: ts => .ok ([], ts)
    | ts => do
      let ts ← if first then pure ts else
        match ts with
        | .flowEntry :: ts => pure ts
        | _ => throw .misplaced
      match ts with
      | .flowMappingEnd :: ts => return ([], ts)
      | .key :: ts =>
        let (k, ts) ← match ts with
          | .value :: _ | .flowEntry :: _ | .flowMappingEnd :: _ => pure (missing, ts)
          | ts => read handles fuel false false ts
        let (v, ts) ← readFlowValue handles fuel ts
        let (rows, ts) ← readFlowMapping handles fuel false ts
        return ((k, v) :: rows, ts)
      | ts =>
        let (k, ts) ← read handles fuel false false ts
        let (rows, ts) ← readFlowMapping handles fuel false ts
        return ((k, missing) :: rows, ts)

/-- The value of a row of a flow mapping. -/
def readFlowValue (handles : Handles) : Nat → List Token → Except Fault (Node × List Token)
  | 0, _ => .error .misplaced
  | fuel + 1, ts =>
    match ts with
    | .value :: ts =>
      match ts with
      | .flowEntry :: _ | .flowMappingEnd :: _ => .ok (missing, ts)
      | ts => read handles fuel false false ts
    | ts => .ok (missing, ts)
end

/-- The directives in front of a document. -/
def readDirectives (versioned : Bool) (handles : Handles) :
    List Token → Except Fault (Handles × List Token)
  | .version major minor :: ts =>
    if versioned ∨ major ≠ 1 ∨ (minor ≠ 1 ∧ minor ≠ 2) then .error .directive
    else readDirectives true handles ts
  | .tagDirective handle start :: ts =>
    if (handles.lookup handle).isSome then .error .directive
    else readDirectives versioned (handles ++ [(handle, start)]) ts
  | ts => .ok (handles, ts)

/-- The handles that need no directive. -/
def defaultHandles : Handles := [("!", "!"), ("!!", "tag:yaml.org,2002:")]

/-- The node of the one document of a text; a text without a document has none. -/
def ofTokens (ts : List Token) : Except Fault (Option Node) := do
  if ts.isEmpty then return none
  let (handles, afterDirectives) ← readDirectives false [] ts
  let (started, ts) ← match afterDirectives with
    | .documentStart :: rest => pure (true, rest)
    | rest => if rest.length = ts.length then pure (false, rest) else throw .documentStart
  let (node, ts) ← match started, ts with
    | true, [] | true, .documentEnd :: _ | true, .documentStart :: _ | true, .version .. :: _
    | true, .tagDirective .. :: _ => pure (missing, ts)
    | _, ts => read (handles ++ defaultHandles) (4 * ts.length + 8) true false ts
  match ts.dropWhile (· = .documentEnd) with
  | [] => return some node
  | _ => throw .severalDocuments

end Node

/-- The node of the one document of a text. -/
def Node.ofText (text : String) : Except Fault (Option Node) := do
  Node.ofTokens (← Token.read text)

end JobExpansion.Yaml
