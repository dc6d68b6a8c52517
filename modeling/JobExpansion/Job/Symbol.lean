/-!
# Symbols

A symbol is shown as `group(leaf)`; one without a group is just its leaf, and belongs to the
placeholder group `?`. `split` reads the text of a symbol and `text` writes it. Whatever follows
the closing parenthesis is not part of the symbol.
-/

namespace JobExpansion

/-- A group and a leaf in it. -/
structure Symbol where
  group : String
  leaf : String
  deriving DecidableEq, Repr

namespace Symbol

/-- The group of a symbol that has none. -/
def noGroup : String := "?"

/-- The characters before the first `stop`, and those after it, if there is one. -/
def cutAt (stop : Char) : List Char → Option (List Char × List Char)
  | [] => none
  | c :: cs => if c = stop then some ([], cs) else (cutAt stop cs).map fun (a, b) => (c :: a, b)

/-- The group and the leaf of a text of the form `group(leaf)…`. -/
def grouped? (cs : List Char) : Option (List Char × List Char) :=
  (cutAt '(' cs).bind fun (group, rest) => (cutAt ')' rest).map fun (leaf, _) => (group, leaf)

/-- A symbol read from its text. -/
def split (text : String) : Symbol :=
  match grouped? text.toList with
  | some (group, leaf) => ⟨String.ofList group, String.ofList leaf⟩
  | none => ⟨noGroup, text⟩

/-- The text of a symbol. -/
def text (s : Symbol) : String :=
  if s.group = noGroup then s.leaf else s.group ++ "(" ++ s.leaf ++ ")"

/-- The symbol with a longer leaf. -/
def suffixLeaf (s : Symbol) (suffix : String) : Symbol := { s with leaf := s.leaf ++ suffix }

/-- The symbol with a longer group. -/
def suffixGroup (s : Symbol) (suffix : String) : Symbol := { s with group := s.group ++ suffix }

theorem cutAt_eq_some_iff {stop : Char} {cs before after : List Char} :
    cutAt stop cs = some (before, after) ↔ cs = before ++ stop :: after ∧ stop ∉ before := by
  induction cs generalizing before with
  | nil => simp [cutAt]
  | cons c cs ih =>
    by_cases h : c = stop
    · subst h
      cases before with
      | nil => simp [cutAt, eq_comm]
      | cons b before =>
        simp only [cutAt, ↓reduceIte, Option.some.injEq, Prod.mk.injEq, List.cons_append,
          List.cons.injEq, List.mem_cons, not_or]
        constructor
        · rintro ⟨h, -⟩
          cases h
        · rintro ⟨⟨rfl, -⟩, h, -⟩
          exact absurd rfl h
    · cases before with
      | nil => simp [cutAt, h]
      | cons b before =>
        simp only [cutAt, h, ↓reduceIte, Option.map_eq_some_iff, Prod.mk.injEq, List.cons.injEq,
          Prod.exists, List.cons_append, List.mem_cons, not_or]
        constructor
        · rintro ⟨a, r, hr, ⟨rfl, rfl⟩, rfl⟩
          obtain ⟨rfl, hn⟩ := ih.1 hr
          exact ⟨⟨rfl, rfl⟩, fun hc => h hc.symm, hn⟩
        · rintro ⟨⟨rfl, rfl⟩, -, hn⟩
          exact ⟨before, after, ih.2 ⟨rfl, hn⟩, ⟨rfl, rfl⟩, rfl⟩

end Symbol

end JobExpansion
