import JobExpansion.Proofs.Pattern.Reading

/-!
# Escapes behind a text

Escapes are read the same with `)$` behind the text as without, or they get into what is behind. A
word boundary before an opening brace is read only where something stands behind the brace; nothing
can be made of what it leaves (`ExtendsEscape`).
-/

namespace JobExpansion.Pattern

variable {flags : Flags} {cs rest left : List Char} {c : Char} {width : Nat} {negated : Bool}

/-! ### Braces -/

/-- What is made of some characters in braces and of the text after them. -/
def braced (flags : Flags) (test : Char → Bool) (e : Fault)
    (f : List Char → List Char → Except Fault (Atom × List Char)) (cs : List Char) :
    Except Fault (Atom × List Char) :=
  match (takeSome flags test cs.length (skip flags cs)).2 with
  | '\x7d' :: left => f (takeSome flags test cs.length (skip flags cs)).1 left
  | _ => .error e

section Braced

variable {test : Char → Bool} {e : Fault}
  {f : List Char → List Char → Except Fault (Atom × List Char)}

theorem leaves_braced (hf : ∀ taken left, Leaves left (f taken left)) (cs : List Char) :
    Leaves cs (braced flags test e f cs) := by
  have hleft := (takeSome_suffix flags test cs.length (skip flags cs)).trans (skip_suffix flags cs)
  unfold braced
  split
  · next left heq => exact (hf _ left).mono ((List.suffix_cons _ left).trans (heq ▸ hleft))
  · exact .error

theorem extends_braced (hf : ∀ taken left, Leaves left (f taken left))
    (h : ∀ taken left, Extends 2 (f taken (left ++ closing)) (f taken left)) (cs : List Char) :
    Extends 2 (braced flags test e f (cs ++ closing)) (braced flags test e f cs) := by
  unfold braced
  rcases takeSome_skip_append flags test cs with hs | hs
  · split
    · next left heq =>
      rw [heq] at hs
      exact .behind (hf _ left) (Nat.lt_of_succ_lt hs)
    · exact .error
  · rw [hs]
    split
    · next left heq =>
      obtain ⟨tail, htail, rfl⟩ := eq_cons_of_append_closing (by decide) heq
      rw [htail]
      exact h _ tail
    · exact .error

end Braced

/-! ### Code points -/

/-- The character of some hexadecimal digits in braces. -/
def hexOfDigits (flags : Flags) (digits left : List Char) : Except Fault (Atom × List Char) :=
  (charOfHex digits).map fun c => (.char c, skip flags left)

theorem leaves_hexOfDigits (flags : Flags) (digits left : List Char) :
    Leaves left (hexOfDigits flags digits left) :=
  .map fun _ => skip_suffix flags left

theorem extends_hexOfDigits (flags : Flags) (digits left : List Char) :
    Extends 2 (hexOfDigits flags digits (left ++ closing)) (hexOfDigits flags digits left) :=
  .map fun _ => .ok_skip (by decide)

theorem readHexEscape_of_brace (h : skip flags cs = '\x7b' :: rest) :
    readHexEscape flags width cs =
      braced flags isHexDigit .codePoint (hexOfDigits flags) rest := by
  rw [readHexEscape, h]
  rfl

theorem readHexEscape_of_plain (h : ∀ rest, skip flags cs ≠ '\x7b' :: rest) :
    readHexEscape flags width cs =
      if (takeSome flags isHexDigit width (skip flags cs)).1.length = width then
        (charOfHex (takeSome flags isHexDigit width (skip flags cs)).1).map fun c =>
          (if width = 2 then .byte c else .char c,
            (takeSome flags isHexDigit width (skip flags cs)).2)
      else .error .codePoint := by
  unfold readHexEscape
  split
  · next rest hrest => exact absurd hrest (h rest)
  · rfl

theorem leaves_readHexEscape (flags : Flags) (width : Nat) (cs : List Char) :
    Leaves cs (readHexEscape flags width cs) := by
  have hcs := skip_suffix flags cs
  by_cases hbrace : ∃ rest, skip flags cs = '\x7b' :: rest
  · obtain ⟨rest, hrest⟩ := hbrace
    rw [readHexEscape_of_brace hrest]
    exact (leaves_braced (leaves_hexOfDigits flags) rest).mono
      ((List.suffix_cons _ rest).trans (hrest ▸ hcs))
  · rw [readHexEscape_of_plain (not_exists.1 hbrace)]
    split
    · exact .map fun c => (takeSome_suffix flags isHexDigit width (skip flags cs)).trans hcs
    · exact .error

theorem extends_readHexEscape (flags : Flags) (width : Nat) (cs : List Char) :
    Extends 2 (readHexEscape flags width (cs ++ closing)) (readHexEscape flags width cs) := by
  rcases skip_append flags cs with hs | hs
  · by_cases hbrace : ∃ rest, skip flags cs = '\x7b' :: rest
    · obtain ⟨rest, hrest⟩ := hbrace
      rw [hrest, List.cons_append] at hs
      rw [readHexEscape_of_brace hrest, readHexEscape_of_brace hs]
      exact extends_braced (leaves_hexOfDigits flags) (extends_hexOfDigits flags) rest
    · have hno := not_exists.1 hbrace
      have hno' : ∀ rest, skip flags (cs ++ closing) ≠ '\x7b' :: rest :=
        hs ▸ append_closing_ne_cons (by decide) hno
      rw [readHexEscape_of_plain hno, readHexEscape_of_plain hno', hs]
      rcases takeSome_append flags isHexDigit width (skip flags cs) with h | h
      · split
        · exact .behind (.map fun _ => List.suffix_refl _) h
        · exact .error
      · rw [h]
        exact .ite (.map fun _ => .ok) .error
  · have hnil : readHexEscape flags width (cs ++ closing) = readHexEscape flags width [] := by
      unfold readHexEscape
      rw [hs, skip_nil]
    rw [hnil]
    exact .behind (leaves_readHexEscape flags width []) (by decide)

/-! ### Properties -/

/-- The class with a name in braces. -/
def propertyOfName (negated : Bool) (name left : List Char) : Except Fault (Atom × List Char) :=
  match namedClass name with
  | some (set, differs) => .ok (.property set (negated != differs), left)
  | none => .error .property

theorem leaves_propertyOfName (negated : Bool) (name left : List Char) :
    Leaves left (propertyOfName negated name left) := by
  unfold propertyOfName
  split
  · exact .ok (List.suffix_refl left)
  · exact .error

theorem extends_propertyOfName (negated : Bool) (name left : List Char) :
    Extends 2 (propertyOfName negated name (left ++ closing))
      (propertyOfName negated name left) := by
  unfold propertyOfName
  split
  · exact .ok
  · exact .error

theorem readProperty_of_brace (h : skip flags cs = '\x7b' :: rest) :
    readProperty flags negated cs =
      braced flags (· ≠ '\x7d') .escape (propertyOfName negated) rest := by
  rw [readProperty, h]
  rfl

theorem readProperty_of_plain (h : skip flags cs = c :: rest) (hc : c ≠ '\x7b') :
    readProperty flags negated cs =
      if c = '\\' then .error .property
      else match CharClass.ofCategory? (CharClass.normalName c.toString) with
        | some set => .ok (.property set negated, skip flags rest)
        | none => .error .property := by
  unfold readProperty
  rw [h]
  split
  · next heq => cases heq
  · next heq => exact absurd (List.cons.inj heq).1 hc
  · next heq =>
    cases heq
    rfl

theorem leaves_readProperty (flags : Flags) (negated : Bool) (cs : List Char) :
    Leaves cs (readProperty flags negated cs) := by
  have hcs := skip_suffix flags cs
  cases hd : skip flags cs with
  | nil =>
    rw [readProperty, hd]
    exact .error
  | cons c rest =>
    have hrest := (List.suffix_cons c rest).trans (hd ▸ hcs)
    by_cases hc : c = '\x7b'
    · subst hc
      rw [readProperty_of_brace hd]
      exact (leaves_braced (leaves_propertyOfName negated) rest).mono hrest
    · rw [readProperty_of_plain hd hc]
      split
      · exact .error
      · split
        · exact .ok ((skip_suffix flags rest).trans hrest)
        · exact .error

theorem extends_readProperty (flags : Flags) (negated : Bool) (cs : List Char) :
    Extends 2 (readProperty flags negated (cs ++ closing)) (readProperty flags negated cs) := by
  rcases skip_append flags cs with hs | hs
  · cases hd : skip flags cs with
    | nil =>
      rw [hd] at hs
      rw [readProperty_of_plain hs (by decide)]
      split
      · exact .error
      · split
        · exact .behind (.ok (skip_suffix flags ['$'])) (by decide)
        · exact .error
    | cons c rest =>
      rw [hd, List.cons_append] at hs
      by_cases hc : c = '\x7b'
      · subst hc
        rw [readProperty_of_brace hd, readProperty_of_brace hs]
        exact extends_braced (leaves_propertyOfName negated) (extends_propertyOfName negated) rest
      · rw [readProperty_of_plain hd hc, readProperty_of_plain hs hc]
        split
        · exact .error
        · split
          · exact .ok_skip (by decide)
          · exact .error
  · rw [readProperty, hs]
    exact .error

/-! ### Word boundaries -/

/-- An escape with `)$` behind the text is read as without, or it gets into what is behind, or it is
an assertion in front of a brace with nothing of the text behind it. -/
def ExtendsEscape (flags : Flags) (x y : Except Fault (Atom × List Char)) : Prop :=
  ∀ a left, x = .ok (a, left) → left.length < closing.length ∨
    (∃ rest, left = rest ++ closing ∧ y = .ok (a, rest)) ∨
    ∃ l rest, a = .look l ∧ left = '\x7b' :: rest ∧ skip flags rest = closing

theorem Extends.escape {x y : Except Fault (Atom × List Char)} (h : Extends 2 x y) :
    ExtendsEscape flags x y := by
  intro a left hx
  rcases h a left hx with h | h
  · exact .inl h
  · exact .inr (.inl h)

theorem ExtendsEscape.ite {p : Prop} [Decidable p] {x y x' y' : Except Fault (Atom × List Char)}
    (h : ExtendsEscape flags x y) (h' : ExtendsEscape flags x' y') :
    ExtendsEscape flags (if p then x else x') (if p then y else y') := by
  split
  · exact h
  · exact h'

/-- Where an assertion comes to nothing, escapes read on like everything else. -/
theorem ExtendsEscape.bind {α : Type} {k : Nat} {x y : Except Fault (Atom × List Char)}
    {f : Atom × List Char → Except Fault (α × List Char)} (hk : 2 ≤ k)
    (h : ExtendsEscape flags x y) (hf : ∀ a left, Leaves left (f (a, left)))
    (hext : ∀ a rest, Extends k (f (a, rest ++ closing)) (f (a, rest)))
    (hlook : ∀ l rest r, f (.look l, '\x7b' :: rest) ≠ .ok r) : Extends k (x >>= f) (y >>= f) := by
  intro b left hx
  obtain ⟨⟨a, mid⟩, ha, hb⟩ := bind_eq_ok_iff.1 hx
  rcases h a mid ha with hmid | ⟨rest, rfl, hy⟩ | ⟨l, rest, rfl, rfl, -⟩
  · have hleft := (hf a mid b left hb).length_le
    exact .inl (Nat.lt_of_le_of_lt hleft (Nat.lt_of_lt_of_le hmid hk))
  · rw [hy]
    exact hext a rest b left hb
  · exact absurd hb (hlook l rest _)

/-- The kind of word edge with a name in braces. -/
def edgeOfName (flags : Flags) (name left : List Char) : Except Fault (Atom × List Char) :=
  match wordEdge? (String.ofList name) with
  | some edge => .ok (.look (.word edge (!flags.unicode)), left)
  | none => .error .wordBoundary

theorem leaves_edgeOfName (flags : Flags) (name left : List Char) :
    Leaves left (edgeOfName flags name left) := by
  unfold edgeOfName
  split
  · exact .ok (List.suffix_refl left)
  · exact .error

theorem extends_edgeOfName (flags : Flags) (name left : List Char) :
    Extends 2 (edgeOfName flags name (left ++ closing)) (edgeOfName flags name left) := by
  unfold edgeOfName
  split
  · exact .ok
  · exact .error

theorem readBoundary_of_brace (h : skip flags rest = c :: left) :
    readBoundary flags ('\x7b' :: rest) =
      if isEdgeNameChar c then braced flags isEdgeNameChar .wordBoundary (edgeOfName flags) rest
      else .ok (.look (.word .boundary (!flags.unicode)), '\x7b' :: rest) := by
  rw [readBoundary, h]
  dsimp only
  by_cases hc : isEdgeNameChar c = true
  · rw [if_pos hc, if_pos hc]
    unfold braced edgeOfName
    rw [h]
    generalize takeSome flags isEdgeNameChar rest.length (c :: left) = run
    obtain ⟨name, after⟩ := run
    dsimp only
    split
    · next hedge => simp only [hedge]
    · next hno =>
      split
      · split
        · next hedge => exact absurd hedge (hno _ _ rfl)
        · rfl
      · rfl
  · rw [if_neg hc, if_neg hc]

theorem readBoundary_of_plain (h : ∀ rest, cs ≠ '\x7b' :: rest) :
    readBoundary flags cs = .ok (.look (.word .boundary (!flags.unicode)), cs) := by
  unfold readBoundary
  split
  · next rest => exact absurd rfl (h rest)
  · rfl

theorem leaves_readBoundary (flags : Flags) (cs : List Char) :
    Leaves cs (readBoundary flags cs) := by
  by_cases hbrace : ∃ rest, cs = '\x7b' :: rest
  · obtain ⟨rest, rfl⟩ := hbrace
    cases hd : skip flags rest with
    | nil =>
      rw [readBoundary, hd]
      exact .error
    | cons c more =>
      rw [readBoundary_of_brace hd]
      exact .ite ((leaves_braced (leaves_edgeOfName flags) rest).mono (List.suffix_cons _ rest))
        (.ok (List.suffix_refl _))
  · rw [readBoundary_of_plain (not_exists.1 hbrace)]
    exact .ok (List.suffix_refl _)

theorem extends_readBoundary (flags : Flags) (cs : List Char) :
    ExtendsEscape flags (readBoundary flags (cs ++ closing)) (readBoundary flags cs) := by
  by_cases hbrace : ∃ rest, cs = '\x7b' :: rest
  · obtain ⟨rest, rfl⟩ := hbrace
    rw [List.cons_append]
    rcases skip_append flags rest with hs | hs
    · cases hd : skip flags rest with
      | nil =>
        -- the brace is at the end of the text, and a parenthesis is no name of an edge
        rw [hd] at hs
        rw [readBoundary_of_brace hs, if_neg (by decide)]
        intro a left hx
        cases hx
        exact .inr (.inr ⟨_, _, rfl, rfl, hs⟩)
      | cons c more =>
        rw [hd, List.cons_append] at hs
        rw [readBoundary_of_brace hd, readBoundary_of_brace hs]
        refine .ite (Extends.escape ?_) (Extends.escape (@Extends.ok _ ('\x7b' :: rest) _ _))
        exact extends_braced (leaves_edgeOfName flags) (extends_edgeOfName flags) rest
    · rw [readBoundary, hs]
      exact Extends.escape .error
  · have hno := not_exists.1 hbrace
    rw [readBoundary_of_plain hno,
      readBoundary_of_plain (append_closing_ne_cons (by decide) hno)]
    exact Extends.escape .ok

/-! ### All escapes -/

theorem leaves_readEscape (flags : Flags) (cs : List Char) : Leaves cs (readEscape flags cs) := by
  cases cs with
  | nil => exact .error
  | cons c cs =>
    have hc : cs <:+ c :: cs := List.suffix_cons c cs
    have hok {a : Atom} : Leaves (c :: cs) (.ok (a, cs)) := .ok hc
    rw [readEscape]
    exact .ite .error <| .ite ((leaves_readHexEscape flags 2 cs).mono hc) <|
      .ite ((leaves_readHexEscape flags 4 cs).mono hc) <|
      .ite ((leaves_readHexEscape flags 8 cs).mono hc) <|
      .ite ((leaves_readProperty flags false cs).mono hc) <|
      .ite ((leaves_readProperty flags true cs).mono hc) <|
      .ite hok <| .ite hok <| .ite hok <| .ite hok <| .ite hok <| .ite hok <| .ite hok <|
      .ite hok <| .ite hok <| .ite hok <| .ite hok <| .ite hok <|
      .ite ((leaves_readBoundary flags cs).mono hc) <| .ite hok <| .ite hok <| .ite hok .error

theorem extends_readEscape (flags : Flags) (cs : List Char) :
    ExtendsEscape flags (readEscape flags (cs ++ closing)) (readEscape flags cs) := by
  cases cs with
  | nil =>
    -- the escaped character is the parenthesis
    exact Extends.escape fun a left hx => .inl (by
      have hx : Except.ok (Atom.char ')', ['$']) = .ok (a, left) := hx
      cases hx
      decide)
  | cons c cs =>
    have hok {a : Atom} : ExtendsEscape flags (.ok (a, cs ++ closing)) (.ok (a, cs)) :=
      Extends.escape .ok
    have herror {e : Fault} : ExtendsEscape flags (.error e) (.error e) := Extends.escape .error
    rw [List.cons_append, readEscape, readEscape]
    exact .ite herror <| .ite (extends_readHexEscape flags 2 cs).escape <|
      .ite (extends_readHexEscape flags 4 cs).escape <|
      .ite (extends_readHexEscape flags 8 cs).escape <|
      .ite (extends_readProperty flags false cs).escape <|
      .ite (extends_readProperty flags true cs).escape <|
      .ite hok <| .ite hok <| .ite hok <| .ite hok <| .ite hok <| .ite hok <| .ite hok <|
      .ite hok <| .ite hok <| .ite hok <| .ite hok <| .ite hok <|
      .ite (extends_readBoundary flags cs) <| .ite hok <| .ite hok <| .ite hok herror

end JobExpansion.Pattern
