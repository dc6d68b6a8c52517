import JobExpansion.Proofs.Pattern.Members

/-!
# Classes behind a text

A bracketed class is closed by a bracket, and there is none behind the text. So a class that is read
with `)$` behind the text is read the same without (`readClass_append`), even if a member at the end
of the text would have gone on into what is behind.
-/

namespace JobExpansion.Pattern

variable {flags : Flags} {cs rest left after : List Char} {c : Char} {level : ClassLevel}
  {outer : List ClassLevel} {member : Member}

/-! ### Classes by name -/

/-- The end of a class by name. -/
def asciiClassAfter (flags : Flags) (negated : Bool) (cs : List Char) :
    Option (Except Fault CharClass × List Char) :=
  match spanUntil ':' cs with
  | (name, ':' :: ']' :: left) =>
    (CharClass.ofAsciiName? (String.ofList name)).map fun c =>
      (negate flags negated (foldClass flags c), left)
  | _ => none

theorem asciiClassAfter_append (flags : Flags) (negated : Bool) (cs : List Char) :
    asciiClassAfter flags negated (cs ++ closing) =
      (asciiClassAfter flags negated cs).map fun (set, left) => (set, left ++ closing) := by
  unfold asciiClassAfter
  have happend := @spanUntil_append ':' (by decide) (by decide) cs
  generalize spanUntil ':' (cs ++ closing) = taken at happend
  generalize spanUntil ':' cs = alone at happend
  obtain ⟨name, more⟩ := alone
  rcases happend with ⟨h, h'⟩ | rfl
  · obtain ⟨name', more'⟩ := taken
    cases h
    cases h'
    rfl
  · dsimp only
    split
    · next heq =>
      obtain ⟨rfl, hmore⟩ := Prod.mk.inj heq
      obtain ⟨tail, rfl, htail⟩ := eq_cons_of_append_closing (c := ':') (by decide) hmore
      obtain ⟨left, rfl, rfl⟩ := eq_cons_of_append_closing (c := ']') (by decide) htail.symm
      simp [Option.map_map, Function.comp_def]
    · next hno =>
      split
      · next left heq =>
        cases heq
        exact absurd rfl (hno name (left ++ closing))
      · rfl

/-- The mark of a negated class, and the characters after it. -/
def negation (cs : List Char) : Bool × List Char :=
  match cs with
  | '^' :: rest => (true, rest)
  | _ => (false, cs)

theorem negation_of_plain (h : ∀ rest, cs ≠ '^' :: rest) : negation cs = (false, cs) := by
  unfold negation
  split
  · next rest => exact absurd rfl (h rest)
  · rfl

theorem negation_append (cs : List Char) :
    negation (cs ++ closing) = ((negation cs).1, (negation cs).2 ++ closing) := by
  by_cases h : ∃ rest, cs = '^' :: rest
  · obtain ⟨rest, rfl⟩ := h
    rfl
  · have hno := not_exists.1 h
    rw [negation_of_plain hno, negation_of_plain (append_closing_ne_cons (by decide) hno)]

theorem readAsciiClass?_colon (flags : Flags) (cs : List Char) :
    readAsciiClass? flags (':' :: cs) =
      asciiClassAfter flags (negation cs).1 (negation cs).2 := rfl

theorem readAsciiClass?_of_plain (h : ∀ rest, cs ≠ ':' :: rest) :
    readAsciiClass? flags cs = none := by
  unfold readAsciiClass?
  split
  · next rest => exact absurd rfl (h rest)
  · rfl

/-- A class by name is read within the text. -/
theorem readAsciiClass?_append (flags : Flags) (cs : List Char) :
    readAsciiClass? flags (cs ++ closing) =
      (readAsciiClass? flags cs).map fun (set, left) => (set, left ++ closing) := by
  by_cases hcolon : ∃ rest, cs = ':' :: rest
  · obtain ⟨rest, rfl⟩ := hcolon
    rw [List.cons_append, readAsciiClass?_colon, readAsciiClass?_colon, negation_append]
    exact asciiClassAfter_append flags _ _
  · have hno := not_exists.1 hcolon
    rw [readAsciiClass?_of_plain hno,
      readAsciiClass?_of_plain (append_closing_ne_cons (by decide) hno)]
    rfl

/-! ### Open classes -/

theorem leadingHyphens_eq (n : Nat) (cs : List Char) :
    leadingHyphens flags n cs =
      ((takeSome flags (· = '-') n cs).1.map fun _ => ⟨.single '-', 0⟩,
        (takeSome flags (· = '-') n cs).2) := by
  induction n generalizing cs with
  | zero => rfl
  | succ n ih =>
    unfold leadingHyphens
    split
    · next rest => simp [takeSome, ih]
    · next hno =>
      cases cs with
      | nil => rfl
      | cons c rest =>
        have hc : c ≠ '-' := fun hc => hno rest (hc ▸ rfl)
        simp [takeSome, hc]

/-- The level of an open class after its hyphens. -/
def levelAfter (flags : Flags) (negated : Bool) (hyphens : List Member) (cs : List Char) :
    Except Fault (ClassLevel × List Char) :=
  match hyphens, cs with
  | _, [] => .error .classUnclosed
  | [], ']' :: rest =>
    match skip flags rest with
    | [] => .error .classUnclosed
    | rest => .ok (⟨negated, none, [⟨.single ']', 0⟩]⟩, rest)
  | _, cs => .ok (⟨negated, none, hyphens⟩, cs)

/-- The level of an open class after its negation. -/
def levelFrom (flags : Flags) (negated : Bool) (cs : List Char) :
    Except Fault (ClassLevel × List Char) :=
  levelAfter flags negated
    ((takeSome flags (· = '-') cs.length cs).1.map fun _ => ⟨.single '-', 0⟩)
    (takeSome flags (· = '-') cs.length cs).2

/-- The negation of an open class, and what is significant after it. -/
def openNegation (flags : Flags) (cs : List Char) : Bool × List Char :=
  match skip flags cs with
  | '^' :: rest => (true, skip flags rest)
  | cs => (false, cs)

theorem openClass_eq (flags : Flags) (cs : List Char) :
    openClass flags cs = levelFrom flags (openNegation flags cs).1 (openNegation flags cs).2 := by
  unfold openClass
  dsimp only
  rw [leadingHyphens_eq]
  rfl

theorem openClass_of_negated (h : skip flags cs = '^' :: rest) :
    openClass flags cs = levelFrom flags true (skip flags rest) := by
  rw [openClass_eq, openNegation, h]
  rfl

theorem openClass_of_plain (h : ∀ rest, skip flags cs ≠ '^' :: rest) :
    openClass flags cs = levelFrom flags false (skip flags cs) := by
  have hplain : openNegation flags cs = (false, skip flags cs) := by
    unfold openNegation
    split
    · next rest heq => exact absurd heq (h rest)
    · rfl
  rw [openClass_eq, hplain]

theorem levelAfter_of_bracket (flags : Flags) (negated : Bool) (cs : List Char) :
    levelAfter flags negated [] (']' :: cs) =
      match skip flags cs with
      | [] => .error .classUnclosed
      | rest => .ok (⟨negated, none, [⟨.single ']', 0⟩]⟩, rest) := rfl

theorem levelAfter_of_plain {hyphens : List Member} {negated : Bool}
    (h : hyphens ≠ [] ∨ c ≠ ']') :
    levelAfter flags negated hyphens (c :: cs) = .ok (⟨negated, none, hyphens⟩, c :: cs) := by
  unfold levelAfter
  split
  · next heq => cases heq
  · next heq => simp_all
  · rfl

theorem leaves_levelAfter (flags : Flags) (negated : Bool) (hyphens : List Member)
    (cs : List Char) : Leaves cs (levelAfter flags negated hyphens cs) := by
  unfold levelAfter
  split
  · exact .error
  · next rest =>
    have hrest := (skip_suffix flags rest).trans (List.suffix_cons ']' rest)
    split
    · exact .error
    · exact .ok hrest
  · exact .ok (List.suffix_refl _)

theorem leaves_levelFrom (flags : Flags) (negated : Bool) (cs : List Char) :
    Leaves cs (levelFrom flags negated cs) :=
  (leaves_levelAfter flags negated _ _).mono (takeSome_suffix flags _ _ cs)

theorem leaves_openClass (flags : Flags) (cs : List Char) : Leaves cs (openClass flags cs) := by
  have hcs := skip_suffix flags cs
  by_cases h : ∃ rest, skip flags cs = '^' :: rest
  · obtain ⟨rest, h⟩ := h
    have hrest := (List.suffix_cons '^' rest).trans (h ▸ hcs)
    rw [openClass_of_negated h]
    exact (leaves_levelFrom flags true _).mono ((skip_suffix flags rest).trans hrest)
  · rw [openClass_of_plain (not_exists.1 h)]
    exact (leaves_levelFrom flags false _).mono hcs

theorem extends_levelAfter (flags : Flags) (negated : Bool) (hyphens : List Member)
    (cs : List Char) :
    Extends 3 (levelAfter flags negated hyphens (cs ++ closing))
      (levelAfter flags negated hyphens cs) := by
  cases cs with
  | nil => exact .behind (leaves_levelAfter flags negated hyphens closing) (by decide)
  | cons c cs =>
    rw [List.cons_append]
    by_cases h : hyphens ≠ [] ∨ c ≠ ']'
    · rw [levelAfter_of_plain h, levelAfter_of_plain h]
      exact @Extends.ok _ (c :: cs) _ _
    · obtain ⟨rfl, rfl⟩ : hyphens = [] ∧ c = ']' := by simpa using h
      rw [levelAfter_of_bracket, levelAfter_of_bracket]
      rcases skip_append flags cs with hs | hs
      · rw [hs]
        cases skip flags cs with
        | nil => exact .behind (.ok (List.suffix_refl closing)) (by decide)
        | cons d rest => exact @Extends.ok _ (d :: rest) _ _
      · rw [hs]
        exact .error

theorem extends_levelFrom (flags : Flags) (negated : Bool) (cs : List Char) :
    Extends 3 (levelFrom flags negated (cs ++ closing)) (levelFrom flags negated cs) := by
  rcases takeSome_append flags (· = '-') (cs ++ closing).length cs with h | h
  · exact .behind (leaves_levelAfter flags negated _ _) (Nat.lt_trans h (by decide))
  · have hle : cs.length ≤ (cs ++ closing).length := by simp
    rw [levelFrom, levelFrom, h, takeSome_of_length_le _ hle (Nat.le_refl _)]
    exact extends_levelAfter flags negated _ _

theorem extends_openClass (flags : Flags) (cs : List Char) :
    Extends 3 (openClass flags (cs ++ closing)) (openClass flags cs) := by
  have hfrom (negated : Bool) (ds : List Char) :
      Extends 3 (levelFrom flags negated (skip flags (ds ++ closing)))
        (levelFrom flags negated (skip flags ds)) :=
    .skip (by decide) (leaves_levelFrom flags negated) (extends_levelFrom flags negated)
  rcases skip_append flags cs with hs | hs
  · by_cases h : ∃ rest, skip flags cs = '^' :: rest
    · obtain ⟨rest, h⟩ := h
      rw [openClass_of_negated h, openClass_of_negated (hs.trans (by rw [h]; rfl))]
      exact hfrom true rest
    · have hno := not_exists.1 h
      have hno' : ∀ rest, skip flags (cs ++ closing) ≠ '^' :: rest :=
        hs ▸ append_closing_ne_cons (by decide) hno
      rw [openClass_of_plain hno, openClass_of_plain hno']
      exact hfrom false cs
  · rw [openClass_of_plain (by simp [hs]), hs]
    exact .error

/-! ### Steps of a class -/

/-- What comes next in a bracketed class. -/
inductive ClassStep where
  | member (set : CharClass)
  | opened (inner : ClassLevel)
  | closed
  | operator (op : SetOp)

/-- An operation between two parts of a class, and the characters after it. -/
def operator? (cs : List Char) : Option (SetOp × List Char) :=
  match cs with
  | '&' :: '&' :: rest => some (.inter, rest)
  | '-' :: '-' :: rest => some (.diff, rest)
  | '~' :: '~' :: rest => some (.symmDiff, rest)
  | _ => none

/-- The next step of a class, and the characters after it. -/
def readClassStep (flags : Flags) (cs : List Char) : Except Fault (ClassStep × List Char) :=
  match cs with
  | [] => .error .classUnclosed
  | '[' :: rest =>
    match readAsciiClass? flags rest with
    | some (set, left) => set.map fun set => (.member set, left)
    | none => openClass flags rest >>= fun (inner, left) => .ok (.opened inner, left)
  | ']' :: rest => .ok (.closed, rest)
  | cs =>
    match operator? cs with
    | some (op, rest) => .ok (.operator op, rest)
    | none => readMember flags cs >>= fun (set, left) => .ok (.member set, left)

theorem operator?_of_plain (h : ∀ rest, cs ≠ '&' :: '&' :: rest)
    (h' : ∀ rest, cs ≠ '-' :: '-' :: rest) (h'' : ∀ rest, cs ≠ '~' :: '~' :: rest) :
    operator? cs = none := by
  unfold operator?
  split
  · next rest => exact absurd rfl (h rest)
  · next rest => exact absurd rfl (h' rest)
  · next rest => exact absurd rfl (h'' rest)
  · rfl

theorem readClassStep_of_plain (hc : c ≠ '[') (hc' : c ≠ ']') :
    readClassStep flags (c :: cs) =
      match operator? (c :: cs) with
      | some (op, rest) => .ok (.operator op, rest)
      | none => readMember flags (c :: cs) >>= fun (set, left) => .ok (.member set, left) := by
  unfold readClassStep
  split
  · next heq => cases heq
  · next heq => exact absurd (List.cons.inj heq).1 hc
  · next heq => exact absurd (List.cons.inj heq).1 hc'
  · rfl

/-- A class is read step by step. -/
theorem readClassFrom_succ (flags : Flags) (n : Nat) (level : ClassLevel)
    (outer : List ClassLevel) (cs : List Char) :
    readClassFrom flags (n + 1) level outer cs =
      readClassStep flags (skip flags cs) >>= fun (step, rest) =>
        match step with
        | .member set =>
          readClassFrom flags n { level with members := ⟨set, 0⟩ :: level.members } outer rest
        | .opened inner => readClassFrom flags n inner (level :: outer) rest
        | .operator op =>
          readClassFrom flags n ⟨level.negated, some (op, level.joined flags), []⟩ outer rest
        | .closed =>
          closeClass flags level >>= fun member =>
            match outer with
            | [] => .ok (member, rest)
            | up :: outer =>
              readClassFrom flags n { up with members := member :: up.members } outer rest := by
  rw [readClassFrom]
  generalize skip flags cs = ds
  dsimp only
  split
  · rfl
  · next rest =>
    rw [readClassStep]
    cases readAsciiClass? flags rest with
    | none => cases openClass flags rest <;> rfl
    | some found =>
      obtain ⟨set, left⟩ := found
      cases set <;> rfl
  · rfl
  · rfl
  · rfl
  · rfl
  · next hnil hopen hclose hinter hdiff hsymm =>
    cases ds with
    | nil => exact absurd rfl hnil
    | cons c ds =>
      rw [readClassStep_of_plain (fun hc => hopen ds (hc ▸ rfl)) (fun hc => hclose ds (hc ▸ rfl)),
        operator?_of_plain hinter hdiff hsymm]
      cases readMember flags (c :: ds) <;> rfl

/-! ### Leaving a class -/

theorem suffix_of_asciiClassAfter {negated : Bool} {set : Except Fault CharClass}
    (h : asciiClassAfter flags negated cs = some (set, left)) : left <:+ cs := by
  unfold asciiClassAfter at h
  split at h
  · next name rest heq =>
    obtain ⟨_, -, heq'⟩ := Option.map_eq_some_iff.1 h
    cases heq'
    have hrest : ':' :: ']' :: left <:+ cs := by
      have h2 : (spanUntil ':' cs).2 = ':' :: ']' :: left := by rw [heq]
      exact h2 ▸ List.dropWhile_suffix _
    exact ((List.suffix_cons ']' left).trans (List.suffix_cons ':' _)).trans hrest
  · cases h

theorem negation_suffix (cs : List Char) : (negation cs).2 <:+ cs := by
  unfold negation
  split
  · exact List.suffix_cons _ _
  · exact List.suffix_refl cs

theorem suffix_of_readAsciiClass? {set : Except Fault CharClass}
    (h : readAsciiClass? flags cs = some (set, left)) : left <:+ cs := by
  by_cases hcolon : ∃ rest, cs = ':' :: rest
  · obtain ⟨rest, rfl⟩ := hcolon
    rw [readAsciiClass?_colon] at h
    exact ((suffix_of_asciiClassAfter h).trans (negation_suffix rest)).trans
      (List.suffix_cons ':' rest)
  · rw [readAsciiClass?_of_plain (not_exists.1 hcolon)] at h
    cases h

theorem suffix_of_operator? {op : SetOp} (h : operator? cs = some (op, left)) :
    left <:+ cs.tail := by
  unfold operator? at h
  split at h <;> cases h
  all_goals exact List.suffix_cons _ left

/-- A step of a class reads a character. -/
theorem leaves_readClassStep (flags : Flags) (cs : List Char) :
    Leaves cs.tail (readClassStep flags cs) := by
  unfold readClassStep
  split
  · exact .error
  · next rest =>
    split
    · next set left heq => exact .map fun set => suffix_of_readAsciiClass? heq
    · exact .bind (leaves_openClass flags rest) fun inner left _ => .ok (List.suffix_refl left)
  · next rest => exact .ok (List.suffix_refl rest)
  · split
    · next heq => exact .ok (suffix_of_operator? heq)
    · exact .bind (leaves_readMember flags _) fun set left _ => .ok (List.suffix_refl left)

theorem length_lt_of_readClassStep {step : ClassStep}
    (h : readClassStep flags cs = .ok (step, left)) : left.length < cs.length := by
  have hle := (leaves_readClassStep flags cs step left h).length_le
  cases cs with
  | nil => cases h
  | cons c cs => exact Nat.lt_succ_of_le hle

/-- The step that closes a class reads a bracket. -/
theorem eq_cons_of_closed (h : readClassStep flags cs = .ok (.closed, left)) :
    cs = ']' :: left := by
  unfold readClassStep at h
  split at h
  · cases h
  · split at h
    · obtain ⟨set, -, hset⟩ := map_eq_ok_iff.1 h
      cases hset
    · obtain ⟨inner, -, hinner⟩ := bind_eq_ok_iff.1 h
      cases hinner
  · cases h
    rfl
  · split at h
    · cases h
    · obtain ⟨set, -, hset⟩ := bind_eq_ok_iff.1 h
      cases hset

theorem closes_of_readClassFrom {n : Nat} {r : Member}
    (h : readClassFrom flags n level outer cs = .ok (r, left)) :
    ']' :: left <:+ skip flags cs := by
  induction n generalizing level outer cs with
  | zero => cases h
  | succ n ih =>
    rw [readClassFrom_succ] at h
    obtain ⟨⟨step, rest⟩, hstep, h⟩ := bind_eq_ok_iff.1 h
    have hrest := (leaves_readClassStep flags _ _ _ hstep).trans (List.tail_suffix _)
    have hback {level : ClassLevel} {outer : List ClassLevel}
        (h : readClassFrom flags n level outer rest = .ok (r, left)) :
        ']' :: left <:+ skip flags cs := ((ih h).trans (skip_suffix flags rest)).trans hrest
    cases step with
    | member set => exact hback h
    | opened inner => exact hback h
    | operator op => exact hback h
    | closed =>
      obtain ⟨member, -, h⟩ := bind_eq_ok_iff.1 h
      cases outer with
      | nil =>
        cases h
        exact (eq_cons_of_closed hstep).symm ▸ List.suffix_refl _
      | cons up outer => exact hback h

theorem leaves_readClassFrom (flags : Flags) (n : Nat) (level : ClassLevel)
    (outer : List ClassLevel) (cs : List Char) :
    Leaves cs (readClassFrom flags n level outer cs) := fun _ left h =>
  ((List.suffix_cons ']' left).trans (closes_of_readClassFrom h)).trans (skip_suffix flags cs)

theorem leaves_readClass (flags : Flags) (cs : List Char) : Leaves cs (readClass flags cs) :=
  (leaves_openClass flags cs).bind fun level left _ => leaves_readClassFrom flags _ level [] left

/-! ### Classes within a text -/

theorem operator?_append (c : Char) (cs : List Char) :
    operator? (c :: cs ++ closing) =
      (operator? (c :: cs)).map fun (op, left) => (op, left ++ closing) := by
  have hback {d : Char} {rest : List Char} (hd : d ≠ ')')
      (h : c :: cs ++ closing = d :: d :: rest) :
      ∃ left, c :: cs = d :: d :: left ∧ rest = left ++ closing := by
    obtain ⟨tail, hcs, htail⟩ := eq_cons_of_append_closing hd h
    obtain ⟨left, rfl, rfl⟩ := eq_cons_of_append_closing hd htail.symm
    exact ⟨left, hcs, rfl⟩
  unfold operator?
  split
  · next heq =>
    obtain ⟨left, hcs, rfl⟩ := hback (by decide) heq
    rw [hcs]
    rfl
  · next heq =>
    obtain ⟨left, hcs, rfl⟩ := hback (by decide) heq
    rw [hcs]
    rfl
  · next heq =>
    obtain ⟨left, hcs, rfl⟩ := hback (by decide) heq
    rw [hcs]
    rfl
  · next hinter hdiff hsymm =>
    split
    · next left heq => exact absurd (by rw [heq]; rfl) (hinter (left ++ closing))
    · next left heq => exact absurd (by rw [heq]; rfl) (hdiff (left ++ closing))
    · next left heq => exact absurd (by rw [heq]; rfl) (hsymm (left ++ closing))
    · rfl

theorem readClassStep_bracket (flags : Flags) (cs : List Char) :
    readClassStep flags ('[' :: cs) =
      match readAsciiClass? flags cs with
      | some (set, left) => set.map fun set => (.member set, left)
      | none => openClass flags cs >>= fun (inner, left) => .ok (.opened inner, left) := rfl

theorem extends_readClassStep (flags : Flags) (cs : List Char) :
    Extends 3 (readClassStep flags (cs ++ closing)) (readClassStep flags cs) := by
  cases cs with
  | nil => exact .behind (leaves_readClassStep flags closing) (by decide)
  | cons c cs =>
    by_cases hopen : c = '['
    · subst hopen
      rw [List.cons_append, readClassStep_bracket, readClassStep_bracket, readAsciiClass?_append]
      cases readAsciiClass? flags cs with
      | some found => exact .map fun set => @Extends.ok _ found.2 _ _
      | none =>
        exact (extends_openClass flags cs).bind (fun _ left => .ok (List.suffix_refl left))
          fun _ _ => .ok
    · by_cases hclose : c = ']'
      · subst hclose
        exact @Extends.ok _ cs _ _
      · have happend := operator?_append c cs
        rw [List.cons_append] at happend ⊢
        rw [readClassStep_of_plain hopen hclose, readClassStep_of_plain hopen hclose, happend]
        cases operator? (c :: cs) with
        | some found => exact @Extends.ok _ found.2 _ _
        | none =>
          exact (extends_readMember flags (c :: cs)).bind
            (fun _ left => .ok (List.suffix_refl left)) fun _ _ => .ok

/-- The next step of a class stays within the text, unless it gets behind it without closing the
class. -/
theorem readClassStep_append {step : ClassStep}
    (h : readClassStep flags (skip flags (cs ++ closing)) = .ok (step, after)) :
    (after <:+ closing ∧ step ≠ .closed) ∨
      ∃ rest, after = rest ++ closing ∧ readClassStep flags (skip flags cs) = .ok (step, rest) := by
  have hafter : after <:+ cs ++ closing :=
    ((leaves_readClassStep flags _ _ _ h).trans (List.tail_suffix _)).trans (skip_suffix flags _)
  have hskip : Extends 3 (readClassStep flags (skip flags (cs ++ closing)))
      (readClassStep flags (skip flags cs)) :=
    .skip (by decide) (fun cs => (leaves_readClassStep flags cs).mono (List.tail_suffix cs))
      (extends_readClassStep flags)
  by_cases hclosed : step = .closed
  · subst hclosed
    -- the bracket stands in the text
    have hbracket := eq_cons_of_closed h
    rcases skip_append flags cs with hs | hs
    · obtain ⟨rest, hrest, rfl⟩ := eq_cons_of_append_closing (by decide) (hs.symm.trans hbracket)
      exact .inr ⟨rest, rfl, by rw [hrest]; rfl⟩
    · cases hs.symm.trans hbracket
  · rcases hskip step after h with hshort | hwithin
    · exact .inl ⟨List.suffix_of_suffix_length_le hafter (List.suffix_append cs closing)
        (Nat.le_of_lt_succ hshort), hclosed⟩
    · exact .inr hwithin

/-- No class is closed behind the text. -/
theorem readClassFrom_of_behind {n : Nat} {r : Member × List Char} (hsuffix : cs <:+ closing) :
    readClassFrom flags n level outer cs ≠ .ok r := by
  intro h
  have hclosed := ((closes_of_readClassFrom h).trans (skip_suffix flags cs)).trans hsuffix
  exact absurd (hclosed.subset (List.mem_cons_self ..)) (by decide)

/-- The rest of a class read from a text with `)$` behind it is read from the text. -/
theorem readClassFrom_append {n : Nat}
    (h : readClassFrom flags n level outer (cs ++ closing) = .ok (member, left)) :
    ∀ m, cs.length < m → ∃ rest, left = rest ++ closing ∧
      readClassFrom flags m level outer cs = .ok (member, rest) := by
  induction n generalizing level outer cs with
  | zero => cases h
  | succ n ih =>
    rintro (_ | m) hm
    · exact absurd hm (Nat.not_lt_zero _)
    rw [readClassFrom_succ] at h
    obtain ⟨⟨step, after⟩, hstep, h⟩ := bind_eq_ok_iff.1 h
    rcases readClassStep_append hstep with ⟨hbehind, hopen⟩ | ⟨rest, rfl, halone⟩
    · -- the class is open and nothing closes it any more
      cases step with
      | member set => exact absurd h (readClassFrom_of_behind hbehind)
      | opened inner => exact absurd h (readClassFrom_of_behind hbehind)
      | operator op => exact absurd h (readClassFrom_of_behind hbehind)
      | closed => exact absurd rfl hopen
    · have hrest : rest.length < m := by
        have hlt := length_lt_of_readClassStep halone
        have hle := (skip_suffix flags cs).length_le
        omega
      rw [readClassFrom_succ, halone, ok_bind]
      cases step with
      | member set => exact ih h m hrest
      | opened inner => exact ih h m hrest
      | operator op => exact ih h m hrest
      | closed =>
        obtain ⟨closed, hclose, h⟩ := bind_eq_ok_iff.1 h
        dsimp only
        rw [hclose, ok_bind]
        cases outer with
        | nil =>
          cases h
          exact ⟨rest, rfl, rfl⟩
        | cons up outer => exact ih h m hrest

/-- **A class read from a text with `)$` behind it is read from the text.** -/
theorem readClass_append (h : readClass flags (cs ++ closing) = .ok (member, left)) :
    ∃ rest, left = rest ++ closing ∧ readClass flags cs = .ok (member, rest) := by
  obtain ⟨⟨level, after⟩, hopen, h⟩ := bind_eq_ok_iff.1 h
  have hafter := leaves_openClass flags _ _ _ hopen
  rcases extends_openClass flags cs level after hopen with hshort | ⟨rest, rfl, halone⟩
  · exact absurd h (readClassFrom_of_behind (List.suffix_of_suffix_length_le hafter
      (List.suffix_append cs closing) (Nat.le_of_lt_succ hshort)))
  · have hle := (leaves_openClass flags _ _ _ halone).length_le
    rw [readClass, halone, ok_bind]
    exact readClassFrom_append h _ (Nat.lt_succ_of_le hle)

end JobExpansion.Pattern
