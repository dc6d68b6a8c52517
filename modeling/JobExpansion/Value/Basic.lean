/-!
# Configuration values

`Value` is the data that job definitions are made of. The rows of a mapping stand in the order
in which they were written, and every operation on them (`Entries`) says where a key ends up:
a replaced key keeps its place, a new one goes last, a removed one leaves the others alone.
-/

namespace JobExpansion

/-- An integer, or a double given by its 64 bits. -/
inductive Number where
  | int (n : Int)
  | double (bits : UInt64)
  deriving DecidableEq, Repr, Inhabited

/-- A configuration value; the rows of a mapping are ordered. -/
inductive Value where
  | null
  | bool (b : Bool)
  | number (n : Number)
  | text (s : String)
  | list (items : List Value)
  | mapping (entries : List (String × Value))
  deriving Repr, Inhabited

/-- The rows of a mapping. -/
abbrev Entries := List (String × Value)

/-! ### Equality of values -/

mutual
/-- Values are equal when they are built alike. -/
def Value.decEq : (v w : Value) → Decidable (v = w)
  | .null, .null => isTrue rfl
  | .bool a, .bool b => decidable_of_iff (a = b) (by simp)
  | .number a, .number b => decidable_of_iff (a = b) (by simp)
  | .text a, .text b => decidable_of_iff (a = b) (by simp)
  | .list a, .list b =>
    match decEqItems a b with
    | isTrue h => isTrue (by rw [h])
    | isFalse h => isFalse (by simpa using h)
  | .mapping a, .mapping b =>
    match decEqEntries a b with
    | isTrue h => isTrue (by rw [h])
    | isFalse h => isFalse (by simpa using h)
  | .null, .bool _ | .null, .number _ | .null, .text _ | .null, .list _ | .null, .mapping _
  | .bool _, .null | .bool _, .number _ | .bool _, .text _ | .bool _, .list _
  | .bool _, .mapping _ | .number _, .null | .number _, .bool _ | .number _, .text _
  | .number _, .list _ | .number _, .mapping _ | .text _, .null | .text _, .bool _
  | .text _, .number _ | .text _, .list _ | .text _, .mapping _ | .list _, .null
  | .list _, .bool _ | .list _, .number _ | .list _, .text _ | .list _, .mapping _
  | .mapping _, .null | .mapping _, .bool _ | .mapping _, .number _ | .mapping _, .text _
  | .mapping _, .list _ => isFalse (by simp)

/-- Lists are compared item by item. -/
def decEqItems : (a b : List Value) → Decidable (a = b)
  | [], [] => isTrue rfl
  | [], _ :: _ | _ :: _, [] => isFalse (by simp)
  | v :: a, w :: b =>
    match v.decEq w, decEqItems a b with
    | isTrue h, isTrue h' => isTrue (by rw [h, h'])
    | isFalse h, _ => isFalse (by simp [h])
    | _, isFalse h => isFalse (by simp [h])

/-- Mappings are compared row by row, in order. -/
def decEqEntries : (a b : List (String × Value)) → Decidable (a = b)
  | [], [] => isTrue rfl
  | [], _ :: _ | _ :: _, [] => isFalse (by simp)
  | (k, v) :: a, (l, w) :: b =>
    if hk : k = l then
      match v.decEq w, decEqEntries a b with
      | isTrue h, isTrue h' => isTrue (by rw [hk, h, h'])
      | isFalse h, _ => isFalse (by simp [h])
      | _, isFalse h => isFalse (by simp [h])
    else isFalse (by simp [hk])
end

instance : DecidableEq Value := Value.decEq

mutual
/-- Equality that does not look at the order of keys. -/
def Value.agrees : Value → Value → Bool
  | .null, .null => true
  | .bool a, .bool b => a = b
  | .number a, .number b => a = b
  | .text a, .text b => a = b
  | .list a, .list b => itemsAgree a b
  | .mapping a, .mapping b => a.length = b.length && entriesAgree a b
  | _, _ => false

/-- Items agree place by place. -/
def itemsAgree : List Value → List Value → Bool
  | [], [] => true
  | v :: a, w :: b => v.agrees w && itemsAgree a b
  | _, _ => false

/-- Every row on the left agrees with the row of that key on the right. -/
def entriesAgree : List (String × Value) → List (String × Value) → Bool
  | [], _ => true
  | (k, v) :: a, b =>
    (match b.lookup k with
      | some w => v.agrees w
      | none => false) && entriesAgree a b
end

/-! ### Views -/

namespace Value

/-- The outermost constructor of a value. -/
inductive Tag where
  | null | boolean | number | string | list | mapping
  deriving DecidableEq, Repr, Inhabited

/-- The word for a tag in messages. -/
def Tag.name : Tag → String
  | .null => "null"
  | .boolean => "boolean"
  | .number => "number"
  | .string => "string"
  | .list => "list"
  | .mapping => "mapping"

/-- What a value is, without what it holds. -/
def tag : Value → Tag
  | .null => .null
  | .bool _ => .boolean
  | .number _ => .number
  | .text _ => .string
  | .list _ => .list
  | .mapping _ => .mapping

/-- The text of a string. -/
def text? : Value → Option String
  | .text s => some s
  | _ => none

/-- The items of a list. -/
def list? : Value → Option (List Value)
  | .list items => some items
  | _ => none

/-- The rows of a mapping. -/
def mapping? : Value → Option Entries
  | .mapping entries => some entries
  | _ => none

/-- A string is meant. -/
def isText (v : Value) : Bool := v.text?.isSome

@[simp] theorem text?_eq_some_iff {v : Value} {s : String} : v.text? = some s ↔ v = .text s := by
  cases v <;> simp [text?]

/-- The texts of a list of texts. -/
theorem filterMap_text (texts : List String) : (texts.map text).filterMap text? = texts := by
  induction texts with
  | nil => rfl
  | cons s texts ih => simp [text?, ih]

end Value

/-! ### Rows of a mapping -/

namespace Entries

/-- The keys, in order. -/
def keys (es : Entries) : List String := es.map (·.1)

/-- A row with this key is there. -/
def has (es : Entries) (k : String) : Bool := (es.lookup k).isSome

/-- A known key keeps its place and takes the new value; a new key goes last. -/
def set (k : String) (v : Value) : Entries → Entries
  | [] => [(k, v)]
  | (l, w) :: es => if l = k then (k, v) :: es else (l, w) :: set k v es

/-- A row is added only for a key that is not there. -/
def setDefault (k : String) (v : Value) (es : Entries) : Entries :=
  if has es k then es else es ++ [(k, v)]

/-- The row of a key is taken out; the others keep their order. -/
def erase (k : String) (es : Entries) : Entries := es.filter fun row => row.1 ≠ k

/-- Rows set one after another. -/
def setAll (es : Entries) (new : Entries) : Entries :=
  new.foldl (fun acc row => set row.1 row.2 acc) es

/-- Rows in the order of first writing, each with the value written last. -/
def ofRows (rows : Entries) : Entries := setAll [] rows

@[simp] theorem keys_nil : keys [] = [] := rfl

@[simp] theorem keys_cons (k : String) (v : Value) (es : Entries) :
    keys ((k, v) :: es) = k :: keys es := rfl

@[simp] theorem set_nil (k : String) (v : Value) : set k v [] = [(k, v)] := rfl

@[simp] theorem lookup_cons_self (k : String) (v : Value) (es : Entries) :
    List.lookup k ((k, v) :: es) = some v := by
  simp

theorem lookup_cons_of_ne {k l : String} (h : k ≠ l) (v : Value) (es : Entries) :
    List.lookup k ((l, v) :: es) = List.lookup k es := by
  simp [List.lookup_cons, beq_false_of_ne h]

theorem lookup_set (k l : String) (v : Value) (es : Entries) :
    (set k v es).lookup l = if l = k then some v else es.lookup l := by
  induction es with
  | nil =>
    by_cases h : l = k
    · simp [set, h]
    · simp [set, h, lookup_cons_of_ne h]
  | cons row es ih =>
    obtain ⟨m, w⟩ := row
    by_cases hm : m = k
    · subst hm
      by_cases h : l = m
      · simp [set, h]
      · simp [set, h, lookup_cons_of_ne h]
    · by_cases h : l = m
      · subst h
        simp [set, hm]
      · simp [set, hm, lookup_cons_of_ne h, ih]

@[simp] theorem lookup_set_self (k : String) (v : Value) (es : Entries) :
    (set k v es).lookup k = some v := by
  simp [lookup_set]

theorem keys_set (k : String) (v : Value) (es : Entries) :
    keys (set k v es) = if k ∈ keys es then keys es else keys es ++ [k] := by
  induction es with
  | nil => simp [set]
  | cons row es ih =>
    obtain ⟨m, w⟩ := row
    by_cases hm : m = k
    · simp [set, hm]
    · have hk : ¬ k = m := fun h => hm h.symm
      by_cases h : k ∈ keys es <;> simp [set, hm, hk, ih, h]

theorem lookup_isSome_iff (es : Entries) (k : String) :
    (es.lookup k).isSome ↔ k ∈ keys es := by
  induction es with
  | nil => simp
  | cons row es ih =>
    obtain ⟨m, w⟩ := row
    by_cases h : k = m
    · simp [h]
    · simp [lookup_cons_of_ne h, ih, h]

theorem lookup_eq_none_iff (es : Entries) (k : String) : es.lookup k = none ↔ k ∉ keys es := by
  rw [← lookup_isSome_iff, Bool.not_eq_true, Option.isSome_eq_false_iff, Option.isNone_iff_eq_none]

theorem mem_of_lookup {k : String} {v : Value} {es : Entries} (h : es.lookup k = some v) :
    (k, v) ∈ es := by
  induction es with
  | nil => simp at h
  | cons row es ih =>
    obtain ⟨l, w⟩ := row
    by_cases hk : k = l
    · subst hk
      rw [lookup_cons_self] at h
      cases h
      exact List.mem_cons_self
    · rw [lookup_cons_of_ne hk] at h
      exact List.mem_cons_of_mem _ (ih h)

theorem has_iff (es : Entries) (k : String) : has es k = true ↔ k ∈ keys es :=
  lookup_isSome_iff es k

theorem keys_erase (k : String) (es : Entries) :
    keys (erase k es) = (keys es).filter fun l => l ≠ k := by
  simp [keys, erase, List.filter_map, Function.comp_def]

theorem lookup_erase (k l : String) (es : Entries) :
    (erase k es).lookup l = if l = k then none else es.lookup l := by
  induction es with
  | nil => simp [erase]
  | cons row es ih =>
    obtain ⟨m, w⟩ := row
    have ih' : List.lookup l (es.filter fun row => row.1 ≠ k) =
        if l = k then none else es.lookup l := ih
    by_cases hm : m = k
    · subst hm
      by_cases h : l = m
      · simpa [erase, h] using ih'
      · simpa [erase, h, lookup_cons_of_ne h] using ih'
    · by_cases hl : l = m
      · subst hl
        simp [erase, hm]
      · simpa [erase, hm, lookup_cons_of_ne hl] using ih'

@[simp] theorem lookup_erase_self (k : String) (es : Entries) : (erase k es).lookup k = none := by
  simp [lookup_erase]

end Entries

/-! ### Well-formed values -/

mutual
/-- No mapping inside the value holds a key twice. -/
def Value.WellFormed : Value → Prop
  | .list items => ItemsWellFormed items
  | .mapping entries => (entries.map (·.1)).Nodup ∧ EntriesWellFormed entries
  | _ => True

/-- Every item is well formed. -/
def ItemsWellFormed : List Value → Prop
  | [] => True
  | v :: vs => v.WellFormed ∧ ItemsWellFormed vs

/-- Every value of a row is well formed. -/
def EntriesWellFormed : List (String × Value) → Prop
  | [] => True
  | (_, v) :: es => v.WellFormed ∧ EntriesWellFormed es
end

end JobExpansion
