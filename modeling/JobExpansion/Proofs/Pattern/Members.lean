import JobExpansion.Proofs.Pattern.Escapes

/-!
# Members of classes behind a text

A member of a bracketed class is a character, an escape or a range. At the end of a text it may take
the parenthesis behind it for the end of a range, or find there that it is no range
(`extends_readMember`).
-/

namespace JobExpansion.Pattern

variable {flags : Flags} {cs rest after : List Char} {c : Char} {first : Atom}

/-! ### Looking ahead -/

theorem look_append (inComment : Bool) (cs : List Char) :
    peekAfter.look inComment (cs ++ closing) = (peekAfter.look inComment cs).or (some ')') := by
  induction cs generalizing inComment with
  | nil => cases inComment <;> decide
  | cons c cs ih =>
    rw [List.cons_append, peekAfter.look, peekAfter.look]
    split
    · exact ih inComment
    · split
      · exact ih true
      · rfl

/-- A text of blanks and a comment starts with one of these. -/
theorem isBlank_of_look (h : peekAfter.look false (c :: cs) = none) :
    Text.isBlank c = true ∨ c = '#' := by
  rw [peekAfter.look] at h
  split at h
  · next hc => exact .inl hc
  · split at h
    · next hc => exact .inr hc.2
    · cases h

/-- What is behind the text is neither a bracket nor a hyphen to look ahead for. -/
theorem peekAfter_append_iff (hc : c = ']' ∨ c = '-') :
    peekAfter flags (cs ++ closing) = some c ↔ peekAfter flags cs = some c := by
  have hparen : some ')' ≠ some c := by rcases hc with rfl | rfl <;> decide
  have hhead : (cs ++ closing).head? = some c ↔ cs.head? = some c := by
    cases cs with
    | nil => simpa [closing] using fun h => hparen (congrArg some h)
    | cons d cs => rfl
  unfold peekAfter
  split
  · rw [look_append]
    cases hl : peekAfter.look false cs with
    | some d => rfl
    | none =>
      -- the text starts with a blank or a comment
      cases cs with
      | nil => simpa using fun h => hparen (congrArg some h)
      | cons d cs =>
        have hd := isBlank_of_look hl
        have hne : d ≠ c := by
          rintro rfl
          rcases hc with rfl | rfl <;> exact absurd hd (by decide)
        simpa [hne] using fun h => hparen (congrArg some h)
  · exact hhead

/-! ### Members -/

theorem leaves_readClassAtom (flags : Flags) (cs : List Char) :
    Leaves cs.tail (readClassAtom flags cs) := by
  unfold readClassAtom
  split
  · exact .error
  · next cs => exact leaves_readEscape flags cs
  · next cs _ => exact .ok (List.suffix_refl cs)

theorem extends_readClassAtom (flags : Flags) (cs : List Char) :
    ExtendsEscape flags (readClassAtom flags (cs ++ closing)) (readClassAtom flags cs) := by
  cases cs with
  | nil => exact Extends.escape (.behind (.ok (List.suffix_refl ['$'])) (by decide))
  | cons c cs =>
    by_cases hc : c = '\\'
    · subst hc
      exact extends_readEscape flags cs
    · have hplain (ds : List Char) : readClassAtom flags (c :: ds) = .ok (.char c, ds) := by
        unfold readClassAtom
        split
        · next heq => cases heq
        · next heq => exact absurd (List.cons.inj heq).1 hc
        · next heq =>
          cases heq
          rfl
      rw [List.cons_append, hplain, hplain]
      exact Extends.escape .ok

/-- The rest of a range after its hyphen. -/
def rangeAfter (flags : Flags) (first : Atom) (cs : List Char) :
    Except Fault (CharClass × List Char) :=
  match cs with
  | [] => .error .classUnclosed
  | cs => do
    let (last, rest) ← readClassAtom flags cs
    let a ← first.rangeEnd flags
    let b ← last.rangeEnd flags
    if a ≤ b then return (.range a.toNat b.toNat, rest) else .error .classRange

/-- The rest of a member after its first character. -/
def memberAfter (flags : Flags) (first : Atom) (cs : List Char) :
    Except Fault (CharClass × List Char) :=
  match skip flags cs with
  | [] => .error .classUnclosed
  | '-' :: after =>
    if peekAfter flags after = some ']' ∨ peekAfter flags after = some '-' then
      first.member flags >>= fun set => .ok (set, '-' :: after)
    else rangeAfter flags first (skip flags after)
  | rest => first.member flags >>= fun set => .ok (set, rest)

theorem readMember_eq (flags : Flags) (cs : List Char) :
    readMember flags cs =
      readClassAtom flags cs >>= fun (first, rest) => memberAfter flags first rest := rfl

theorem memberAfter_of_hyphen (h : skip flags cs = '-' :: after) :
    memberAfter flags first cs =
      if peekAfter flags after = some ']' ∨ peekAfter flags after = some '-' then
        first.member flags >>= fun set => .ok (set, '-' :: after)
      else rangeAfter flags first (skip flags after) := by
  rw [memberAfter, h]
  rfl

theorem memberAfter_of_plain (h : skip flags cs = c :: rest) (hc : c ≠ '-') :
    memberAfter flags first cs = first.member flags >>= fun set => .ok (set, c :: rest) := by
  unfold memberAfter
  split
  · next heq =>
    rw [h] at heq
    cases heq
  · next heq => exact absurd (List.cons.inj (h.symm.trans heq)).1 hc
  · rw [h]

theorem leaves_rangeAfter (flags : Flags) (first : Atom) (cs : List Char) :
    Leaves cs (rangeAfter flags first cs) := by
  unfold rangeAfter
  split
  · exact .error
  · refine ((leaves_readClassAtom flags cs).mono (List.tail_suffix cs)).bind fun last left _ => ?_
    exact .after fun a => .after fun b => .ite (.ok (List.suffix_refl left)) .error

theorem leaves_memberAfter (flags : Flags) (first : Atom) (cs : List Char) :
    Leaves cs (memberAfter flags first cs) := by
  have hcs := skip_suffix flags cs
  cases hd : skip flags cs with
  | nil =>
    rw [memberAfter, hd]
    exact .error
  | cons c rest =>
    rw [hd] at hcs
    by_cases hc : c = '-'
    · subst hc
      have hrest := (List.suffix_cons '-' rest).trans hcs
      rw [memberAfter_of_hyphen hd]
      refine .ite (.after fun set => .ok hcs) ?_
      exact (leaves_rangeAfter flags first _).mono ((skip_suffix flags rest).trans hrest)
    · rw [memberAfter_of_plain hd hc]
      exact .after fun set => .ok hcs

theorem leaves_readMember (flags : Flags) (cs : List Char) :
    Leaves cs.tail (readMember flags cs) :=
  readMember_eq flags cs ▸
    (leaves_readClassAtom flags cs).bind fun first left _ => leaves_memberAfter flags first left

theorem extends_rangeAfter (flags : Flags) (first : Atom) (cs : List Char) :
    Extends 3 (rangeAfter flags first (cs ++ closing)) (rangeAfter flags first cs) := by
  cases cs with
  | nil => exact .behind (leaves_rangeAfter flags first closing) (by decide)
  | cons c cs =>
    refine (extends_readClassAtom flags (c :: cs)).bind (by decide) ?_ ?_ ?_
    · exact fun last left =>
        .after fun a => .after fun b => .ite (.ok (List.suffix_refl left)) .error
    · exact fun last rest => .after fun a => .after fun b => .ite .ok .error
    · intro l rest r h
      obtain ⟨a, -, h⟩ := bind_eq_ok_iff.1 h
      obtain ⟨b, hb, -⟩ := bind_eq_ok_iff.1 h
      cases hb

theorem extends_memberAfter (flags : Flags) (first : Atom) (cs : List Char) :
    Extends 3 (memberAfter flags first (cs ++ closing)) (memberAfter flags first cs) := by
  rcases skip_append flags cs with hs | hs
  · cases hd : skip flags cs with
    | nil =>
      rw [hd] at hs
      rw [memberAfter_of_plain hs (by decide)]
      exact .behind (.after fun set => .ok (List.suffix_refl closing)) (by decide)
    | cons c rest =>
      rw [hd, List.cons_append] at hs
      by_cases hc : c = '-'
      · subst hc
        rw [memberAfter_of_hyphen hd, memberAfter_of_hyphen hs]
        simp only [peekAfter_append_iff (.inl rfl), peekAfter_append_iff (.inr rfl)]
        refine .ite (.after fun set => @Extends.ok _ ('-' :: rest) _ _) ?_
        exact .skip (by decide) (leaves_rangeAfter flags first) (extends_rangeAfter flags first)
      · rw [memberAfter_of_plain hd hc, memberAfter_of_plain hs hc]
        exact .after fun set => @Extends.ok _ (c :: rest) _ _
  · rw [memberAfter, hs]
    exact .error

/-- A member that ends behind the text is no member of a class that ends in it. -/
theorem extends_readMember (flags : Flags) (cs : List Char) :
    Extends 3 (readMember flags (cs ++ closing)) (readMember flags cs) := by
  rw [readMember_eq, readMember_eq]
  refine (extends_readClassAtom flags cs).bind (by decide)
    (fun first => leaves_memberAfter flags first) (fun first => extends_memberAfter flags first)
    fun l rest r h => ?_
  have h : memberAfter flags (.look l) ('\x7b' :: rest) = .ok r := h
  rw [memberAfter_of_plain (skip_brace flags rest) (by decide)] at h
  cases h

end JobExpansion.Pattern
