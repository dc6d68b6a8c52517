import JobExpansion.Proofs.Pattern.Reading

/-!
# Counts and openings behind a text

Repetition counts end with a brace and openings of named groups with an angle bracket, so they are
read the same with `)$` behind the text as without. The flags of a group are the exception: they may
be ended by the parenthesis behind the text, and then they leave less than what is behind.
-/

namespace JobExpansion.Pattern

variable {flags inner : Flags} {cs rest left : List Char} {c : Char}

/-! ### Repetition counts -/

theorem dropLazy_suffix (cs : List Char) : dropLazy cs <:+ cs := by
  unfold dropLazy
  split
  · exact List.suffix_cons _ _
  · exact List.suffix_refl cs

theorem dropLazy_of_plain (h : ∀ rest, cs ≠ '?' :: rest) : dropLazy cs = cs := by
  unfold dropLazy
  split
  · next rest => exact absurd rfl (h rest)
  · rfl

theorem dropLazy_append (cs : List Char) : dropLazy (cs ++ closing) = dropLazy cs ++ closing := by
  by_cases h : ∃ rest, cs = '?' :: rest
  · obtain ⟨rest, rfl⟩ := h
    rfl
  · have hno := not_exists.1 h
    rw [dropLazy_of_plain hno, dropLazy_of_plain (append_closing_ne_cons (by decide) hno)]

/-- The count that some digits stand for, and what is left after blanks. -/
def countAfter (flags : Flags) (digits left : List Char) : Except Fault (Nat × List Char) :=
  let n := digits.foldl (fun n c => 10 * n + (c.toNat - 48)) 0
  if digits.isEmpty ∨ maxCount < n then .error .repetitionCount
  else .ok (n, (takeSome flags Text.isBlank left.length left).2)

theorem readCount_eq (flags : Flags) (cs : List Char) :
    readCount flags cs =
      countAfter flags
        (takeSome flags Char.isDigit (cs.dropWhile Text.isBlank).length
          (cs.dropWhile Text.isBlank)).1
        (takeSome flags Char.isDigit (cs.dropWhile Text.isBlank).length
          (cs.dropWhile Text.isBlank)).2 := rfl

theorem leaves_countAfter (flags : Flags) (digits left : List Char) :
    Leaves left (countAfter flags digits left) :=
  .ite .error (.ok (takeSome_suffix flags _ _ left))

theorem leaves_readCount (flags : Flags) (cs : List Char) : Leaves cs (readCount flags cs) := by
  rw [readCount_eq]
  exact (leaves_countAfter flags _ _).mono
    ((takeSome_suffix flags _ _ _).trans (List.dropWhile_suffix _))

theorem takeSome_length_append (flags : Flags) (test : Char → Bool) (cs : List Char) :
    (takeSome flags test (cs ++ closing).length (cs ++ closing)).2.length < closing.length ∨
      takeSome flags test (cs ++ closing).length (cs ++ closing) =
        ((takeSome flags test cs.length cs).1,
          (takeSome flags test cs.length cs).2 ++ closing) := by
  have hle : cs.length ≤ (cs ++ closing).length := by simp
  have hsame := @takeSome_of_length_le flags cs test _ _ hle (Nat.le_refl _)
  exact hsame ▸ takeSome_append flags test _ cs

theorem extends_countAfter (flags : Flags) (digits left : List Char) :
    Extends 2 (countAfter flags digits (left ++ closing)) (countAfter flags digits left) := by
  refine .ite .error ?_
  rcases takeSome_length_append flags Text.isBlank left with h | h
  · exact .behind (.ok (List.suffix_refl _)) h
  · rw [h]
    exact .ok

theorem extends_readCount (flags : Flags) (cs : List Char) :
    Extends 2 (readCount flags (cs ++ closing)) (readCount flags cs) := by
  have hblanks : (cs ++ closing).dropWhile Text.isBlank =
      cs.dropWhile Text.isBlank ++ closing := by
    rw [List.dropWhile_append]
    split
    · next h => rw [List.isEmpty_iff.1 h]; decide
    · rfl
  rw [readCount_eq, readCount_eq, hblanks]
  generalize cs.dropWhile Text.isBlank = ds
  rcases takeSome_length_append flags Char.isDigit ds with h | h
  · exact .behind (leaves_countAfter flags _ _) h
  · rw [h]
    exact extends_countAfter flags _ _

/-- The upper bound after a comma; there may be none. -/
def upperBound (flags : Flags) (cs : List Char) : Except Fault (Option Nat × List Char) :=
  match cs with
  | '\x7d' :: rest => .ok (none, '\x7d' :: rest)
  | cs => readCount flags cs >>= fun (max, rest) => .ok (some max, rest)

/-- The upper bound after a lower one. -/
def upperAfter (flags : Flags) (min : Nat) (cs : List Char) :
    Except Fault (Option Nat × List Char) :=
  match cs with
  | ',' :: rest => upperBound flags (skip flags rest)
  | cs => .ok (some min, cs)

/-- The end of the bounds. -/
def boundsAfter (flags : Flags) (min : Nat) (max : Option Nat) (cs : List Char) :
    Except Fault ((Nat × Option Nat) × List Char) :=
  match cs with
  | '\x7d' :: rest =>
    if max.all (min ≤ ·) then .ok ((min, max), dropLazy (skip flags rest))
    else .error .repetitionCount
  | _ => .error .repetitionCount

theorem upperBound_of_plain (h : ∀ rest, cs ≠ '\x7d' :: rest) :
    upperBound flags cs = readCount flags cs >>= fun (max, rest) => .ok (some max, rest) := by
  unfold upperBound
  split
  · next rest => exact absurd rfl (h rest)
  · rfl

theorem upperAfter_of_plain {min : Nat} (h : ∀ rest, cs ≠ ',' :: rest) :
    upperAfter flags min cs = .ok (some min, cs) := by
  unfold upperAfter
  split
  · next rest => exact absurd rfl (h rest)
  · rfl

theorem readBounds_eq (flags : Flags) (cs : List Char) :
    readBounds flags cs =
      readCount flags (skip flags cs) >>= fun (min, rest) =>
        upperAfter flags min rest >>= fun (max, rest) => boundsAfter flags min max rest := by
  rw [readBounds]
  refine congrArg _ (funext fun (min, rest) => ?_)
  dsimp only
  split
  · next more =>
    rw [upperAfter]
    generalize skip flags more = ds
    split
    · rfl
    · next hno =>
      rw [upperBound_of_plain hno]
      cases readCount flags ds <;> rfl
  · next hno =>
    rw [upperAfter_of_plain hno]
    rfl

theorem leaves_upperBound (flags : Flags) (cs : List Char) :
    Leaves cs (upperBound flags cs) := by
  unfold upperBound
  split
  · exact .ok (List.suffix_refl _)
  · exact .bind (leaves_readCount flags _) fun _ left _ => .ok (List.suffix_refl left)

theorem leaves_upperAfter (flags : Flags) (min : Nat) (cs : List Char) :
    Leaves cs (upperAfter flags min cs) := by
  unfold upperAfter
  split
  · next rest =>
    exact (leaves_upperBound flags _).mono
      ((skip_suffix flags rest).trans (List.suffix_cons ',' rest))
  · exact .ok (List.suffix_refl _)

theorem leaves_boundsAfter (flags : Flags) (min : Nat) (max : Option Nat) (cs : List Char) :
    Leaves cs (boundsAfter flags min max cs) := by
  unfold boundsAfter
  split
  · next rest =>
    have hrest := (dropLazy_suffix _).trans (skip_suffix flags rest)
    exact .ite (.ok (hrest.trans (List.suffix_cons _ rest))) .error
  · exact .error

theorem leaves_readBounds (flags : Flags) (cs : List Char) : Leaves cs (readBounds flags cs) := by
  rw [readBounds_eq]
  refine .mono (.bind (leaves_readCount flags _) fun min rest _ => ?_) (skip_suffix flags cs)
  exact .bind (leaves_upperAfter flags min rest) fun max rest _ =>
    leaves_boundsAfter flags min max rest

theorem extends_upperBound (flags : Flags) (cs : List Char) :
    Extends 2 (upperBound flags (cs ++ closing)) (upperBound flags cs) := by
  by_cases hbrace : ∃ rest, cs = '\x7d' :: rest
  · obtain ⟨rest, rfl⟩ := hbrace
    exact @Extends.ok _ ('\x7d' :: rest) _ _
  · have hno := not_exists.1 hbrace
    rw [upperBound_of_plain hno, upperBound_of_plain (append_closing_ne_cons (by decide) hno)]
    exact .bind (extends_readCount flags cs) (fun _ left => .ok (List.suffix_refl left))
      fun _ _ => .ok

theorem extends_upperAfter (flags : Flags) (min : Nat) (cs : List Char) :
    Extends 2 (upperAfter flags min (cs ++ closing)) (upperAfter flags min cs) := by
  by_cases hcomma : ∃ rest, cs = ',' :: rest
  · obtain ⟨rest, rfl⟩ := hcomma
    exact .skip (by decide) (leaves_upperBound flags) (extends_upperBound flags)
  · have hno := not_exists.1 hcomma
    rw [upperAfter_of_plain hno, upperAfter_of_plain (append_closing_ne_cons (by decide) hno)]
    exact .ok

theorem extends_boundsAfter (flags : Flags) (min : Nat) (max : Option Nat) (cs : List Char) :
    Extends 2 (boundsAfter flags min max (cs ++ closing)) (boundsAfter flags min max cs) := by
  by_cases hbrace : ∃ rest, cs = '\x7d' :: rest
  · obtain ⟨rest, rfl⟩ := hbrace
    refine .ite ?_ .error
    rcases skip_append flags rest with hs | hs
    · rw [List.append_eq, hs, dropLazy_append]
      exact .ok
    · rw [List.append_eq, hs]
      exact .behind (.ok (List.suffix_refl _)) (by decide)
  · have hno := append_closing_ne_cons (by decide) (not_exists.1 hbrace)
    unfold boundsAfter
    split
    · next rest heq => exact absurd heq (hno rest)
    · exact .error

theorem extends_readBounds (flags : Flags) (cs : List Char) :
    Extends 2 (readBounds flags (cs ++ closing)) (readBounds flags cs) := by
  rw [readBounds_eq, readBounds_eq]
  refine .bind ?_ (fun min left => ?_) fun min rest => ?_
  · exact .skip (by decide) (leaves_readCount flags) (extends_readCount flags)
  · exact .bind (leaves_upperAfter flags min left) fun max rest _ =>
      leaves_boundsAfter flags min max rest
  · exact .bind (extends_upperAfter flags min rest) (fun max => leaves_boundsAfter flags min max)
      fun max => extends_boundsAfter flags min max

/-! ### Flags -/

theorem readFlags_suffix {on bare : Bool} {seen : List Char}
    (h : readFlags flags on seen cs = .ok (inner, left, bare)) : left <:+ cs := by
  fun_induction readFlags flags on seen cs with
  | case1 => cases h
  | case2 => cases h
  | case3 => cases h; exact List.suffix_refl _
  | case4 => cases h
  | case5 _ _ _ cs _ _ ih => exact (ih h).trans (List.suffix_cons _ cs)
  | case6 _ _ _ c cs _ _ _ _ ih => exact (ih h).trans (List.suffix_cons c cs)
  | case7 => cases h

/-- Flags are ended within the text, or by the parenthesis behind it. -/
theorem readFlags_append {on bare : Bool} {seen : List Char}
    (h : readFlags flags on seen (cs ++ closing) = .ok (inner, left, bare)) :
    left = closing ∨ ∃ c rest, left = c :: rest ++ closing ∧
      readFlags flags on seen cs = .ok (inner, c :: rest, bare) := by
  induction cs generalizing flags on seen with
  | nil =>
    have hend : (')' : Char) = ':' ∨ (')' : Char) = ')' := .inr rfl
    rw [List.nil_append, closing, readFlags, if_pos hend] at h
    split at h
    · cases h
    · cases h
      exact .inl rfl
  | cons c cs ih =>
    rw [List.cons_append, readFlags] at h
    rw [readFlags]
    split at h
    · next hend =>
      rw [if_pos hend]
      split at h
      · cases h
      · next hhyphen =>
        rw [if_neg hhyphen]
        cases h
        exact .inr ⟨c, cs, rfl, rfl⟩
    · next hend =>
      rw [if_neg hend]
      split at h
      · cases h
      · next hseen =>
        rw [if_neg hseen]
        split at h
        · next hhyphen => rw [if_pos hhyphen]; exact ih h
        · next hhyphen =>
          rw [if_neg hhyphen]
          split at h
          · next hletter => rw [if_pos hletter]; exact ih h
          · cases h

/-! ### Openings -/

/-- A named group, after the angle bracket. -/
def namedOpening (flags : Flags) (cs : List Char) : Except Fault (Opening × List Char) :=
  match spanUntil '>' cs with
  | (name, '>' :: rest) =>
    if isGroupName name then .ok (.group flags true (some name), rest) else .error .groupName
  | _ => .error .groupName

/-- What flags are for, by the character that ends them. -/
def flagsEnded (inner : Flags) (bare : Bool) (left : List Char) :
    Except Fault (Opening × List Char) :=
  match left with
  | ':' :: left => .ok (.group inner false none, left)
  | _ => if bare then .error .repetitionMissing else .ok (.setFlags inner, left.drop 1)

/-- A group with flags or flags alone, after the question mark. -/
def flagOpening (flags : Flags) (cs : List Char) : Except Fault (Opening × List Char) :=
  readFlags flags true [] cs >>= fun (inner, left, bare) => flagsEnded inner bare left

/-- An opening, after the question mark. -/
def markedOpening (flags : Flags) (cs : List Char) : Except Fault (Opening × List Char) :=
  match cs with
  | '=' :: _ | '!' :: _ | '<' :: '=' :: _ | '<' :: '!' :: _ => .error .lookAround
  | 'P' :: '<' :: rest => namedOpening flags rest
  | '<' :: rest => namedOpening flags rest
  | rest => flagOpening flags rest

theorem markedOpening_of_name (h : ∀ tail, rest ≠ '=' :: tail) (h' : ∀ tail, rest ≠ '!' :: tail) :
    markedOpening flags ('<' :: rest) = namedOpening flags rest := by
  unfold markedOpening
  split
  case h_3 heq => exact absurd (List.cons.inj heq).2 (h _)
  case h_4 heq => exact absurd (List.cons.inj heq).2 (h' _)
  case h_6 heq => cases heq; rfl
  case h_7 hno => exact absurd rfl (hno _)
  all_goals next heq => cases heq

theorem markedOpening_of_flags (h : ∀ tail, rest ≠ '=' :: tail) (h' : ∀ tail, rest ≠ '!' :: tail)
    (hp : ∀ tail, rest ≠ 'P' :: '<' :: tail) (hn : ∀ tail, rest ≠ '<' :: tail) :
    markedOpening flags rest = flagOpening flags rest := by
  unfold markedOpening
  split
  · exact absurd rfl (h _)
  · exact absurd rfl (h' _)
  · exact absurd rfl (hn _)
  · exact absurd rfl (hn _)
  · exact absurd rfl (hp _)
  · exact absurd rfl (hn _)
  · rfl

theorem readOpening_of_mark (h : skip flags cs = '?' :: rest) :
    readOpening flags cs = markedOpening flags rest := by
  unfold readOpening
  rw [h]
  dsimp only
  split
  case h_5 heq => cases heq; rfl
  case h_6 hequal hbang heq =>
    cases heq
    exact (markedOpening_of_name hequal hbang).symm
  case h_7 hequal hbang _ _ hp hname heq =>
    cases heq
    exact (markedOpening_of_flags hequal hbang hp hname).symm
  case h_8 hno => exact absurd rfl (hno _)
  all_goals next heq => cases heq; rfl

theorem readOpening_of_plain (h : ∀ rest, skip flags cs ≠ '?' :: rest) :
    readOpening flags cs = .ok (.group flags true none, skip flags cs) := by
  unfold readOpening
  dsimp only
  generalize skip flags cs = ds at h
  split
  case h_8 => rfl
  all_goals exact absurd rfl (h _)

theorem leaves_namedOpening (flags : Flags) (cs : List Char) :
    Leaves cs (namedOpening flags cs) := by
  unfold namedOpening
  split
  · next name left heq =>
    have hleft : (spanUntil '>' cs).2 = '>' :: left := by rw [heq]
    have hsuffix : '>' :: left <:+ cs := hleft ▸ List.dropWhile_suffix _
    exact .ite (.ok ((List.suffix_cons '>' left).trans hsuffix)) .error
  · exact .error

theorem leaves_flagsEnded (inner : Flags) (bare : Bool) (left : List Char) :
    Leaves left (flagsEnded inner bare left) := by
  unfold flagsEnded
  split
  · exact .ok (List.suffix_cons _ _)
  · exact .ite .error (.ok (List.drop_suffix 1 left))

theorem leaves_flagOpening (flags : Flags) (cs : List Char) : Leaves cs (flagOpening flags cs) := by
  intro opening left hx
  obtain ⟨⟨inner, after, bare⟩, hflags, hx⟩ := bind_eq_ok_iff.1 hx
  exact (leaves_flagsEnded inner bare after opening left hx).trans (readFlags_suffix hflags)

theorem leaves_markedOpening (flags : Flags) (cs : List Char) :
    Leaves cs (markedOpening flags cs) := by
  unfold markedOpening
  split
  case h_5 rest =>
    exact (leaves_namedOpening flags rest).mono
      ((List.suffix_cons '<' rest).trans (List.suffix_cons 'P' _))
  case h_6 rest _ _ => exact (leaves_namedOpening flags rest).mono (List.suffix_cons '<' rest)
  case h_7 => exact leaves_flagOpening flags _
  all_goals exact .error

theorem leaves_readOpening (flags : Flags) (cs : List Char) : Leaves cs (readOpening flags cs) := by
  have hcs := skip_suffix flags cs
  by_cases hmark : ∃ rest, skip flags cs = '?' :: rest
  · obtain ⟨rest, h⟩ := hmark
    rw [readOpening_of_mark h]
    exact (leaves_markedOpening flags rest).mono ((List.suffix_cons '?' rest).trans (h ▸ hcs))
  · rw [readOpening_of_plain (not_exists.1 hmark)]
    exact .ok hcs

theorem extends_namedOpening (flags : Flags) (cs : List Char) :
    Extends 2 (namedOpening flags (cs ++ closing)) (namedOpening flags cs) := by
  unfold namedOpening
  have happend := @spanUntil_append '>' (by decide) (by decide) cs
  generalize spanUntil '>' (cs ++ closing) = taken at happend
  generalize spanUntil '>' cs = alone at happend
  obtain ⟨name, more⟩ := alone
  rcases happend with ⟨h, -⟩ | rfl
  · obtain ⟨name', more'⟩ := taken
    cases h
    exact .error
  · dsimp only
    split
    · next heq =>
      obtain ⟨rfl, hmore⟩ := Prod.mk.inj heq
      obtain ⟨left, rfl, rfl⟩ := eq_cons_of_append_closing (by decide) hmore
      exact .ite .ok .error
    · exact .error

theorem flagsEnded_of_plain {bare : Bool} (hc : c ≠ ':') :
    flagsEnded inner bare (c :: rest) =
      if bare then .error .repetitionMissing else .ok (.setFlags inner, rest) := by
  unfold flagsEnded
  split
  · next heq => exact absurd (List.cons.inj heq).1 hc
  · rfl

theorem extends_flagsEnded (inner : Flags) (bare : Bool) (c : Char) (rest : List Char) :
    Extends 2 (flagsEnded inner bare (c :: rest ++ closing))
      (flagsEnded inner bare (c :: rest)) := by
  by_cases hc : c = ':'
  · subst hc
    exact .ok
  · rw [List.cons_append, flagsEnded_of_plain hc, flagsEnded_of_plain hc]
    exact .ite .error .ok

/-- Flags that the parenthesis behind the text ends leave less than what is behind. -/
theorem extends_flagOpening (flags : Flags) (cs : List Char) :
    Extends 2 (flagOpening flags (cs ++ closing)) (flagOpening flags cs) := by
  intro opening left hx
  obtain ⟨⟨inner, after, bare⟩, hflags, hx⟩ := bind_eq_ok_iff.1 hx
  rcases readFlags_append hflags with rfl | ⟨c, rest, rfl, halone⟩
  · have hend : Leaves ['$'] (flagsEnded inner bare closing) :=
      .ite .error (.ok (List.suffix_refl _))
    exact .inl (Nat.lt_succ_of_le (hend opening left hx).length_le)
  · rw [flagOpening, halone, ok_bind]
    exact extends_flagsEnded inner bare c rest opening left hx

theorem extends_markedOpening (flags : Flags) (cs : List Char) :
    Extends 2 (markedOpening flags (cs ++ closing)) (markedOpening flags cs) := by
  rw [markedOpening.eq_def flags (cs ++ closing)]
  split
  case h_5 heq =>
    obtain ⟨tail, rfl, htail⟩ := eq_cons_of_append_closing (by decide) heq
    obtain ⟨rest, rfl, rfl⟩ := eq_cons_of_append_closing (by decide) htail.symm
    exact extends_namedOpening flags rest
  case h_6 hequal hbang heq =>
    obtain ⟨rest, rfl, rfl⟩ := eq_cons_of_append_closing (by decide) heq
    have hname : markedOpening flags ('<' :: rest) = namedOpening flags rest :=
      markedOpening_of_name (fun _ h => hequal _ (congrArg (· ++ closing) h))
        (fun _ h => hbang _ (congrArg (· ++ closing) h))
    exact hname ▸ extends_namedOpening flags rest
  case h_7 hequal hbang _ _ hp hname =>
    have hflags : markedOpening flags cs = flagOpening flags cs :=
      markedOpening_of_flags (fun _ h => hequal _ (congrArg (· ++ closing) h))
        (fun _ h => hbang _ (congrArg (· ++ closing) h))
        (fun _ h => hp _ (congrArg (· ++ closing) h))
        (fun _ h => hname _ (congrArg (· ++ closing) h))
    exact hflags ▸ extends_flagOpening flags cs
  all_goals exact .error

theorem extends_readOpening (flags : Flags) (cs : List Char) :
    Extends 2 (readOpening flags (cs ++ closing)) (readOpening flags cs) := by
  rcases skip_append flags cs with hs | hs
  · by_cases hmark : ∃ rest, skip flags cs = '?' :: rest
    · obtain ⟨rest, h⟩ := hmark
      rw [h] at hs
      rw [readOpening_of_mark h, readOpening_of_mark hs]
      exact extends_markedOpening flags rest
    · have hno := not_exists.1 hmark
      have hno' : ∀ rest, skip flags (cs ++ closing) ≠ '?' :: rest :=
        hs ▸ append_closing_ne_cons (by decide) hno
      rw [readOpening_of_plain hno, readOpening_of_plain hno', hs]
      exact .ok
  · rw [readOpening_of_plain (by simp [hs]), hs]
    exact .behind (.ok (List.suffix_refl _)) (by decide)

end JobExpansion.Pattern
