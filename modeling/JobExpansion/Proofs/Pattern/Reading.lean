import JobExpansion.Pattern.Anchored
import JobExpansion.Proofs.Outcome

/-!
# Reading on behind a text

A key stands in front of `)$` when it is read as a pattern. A reader leaves an end of what it is
given (`Leaves`). It either stays within the key, and then it reads the same as from the key alone,
or it gets into what is behind (`Extends`). The one exception is a word boundary before an opening
brace, which is no escape at the end of a text and is one before a parenthesis.
-/

namespace JobExpansion.Pattern

variable {α β γ : Type} {flags : Flags} {cs ds rest left : List Char} {c d : Char} {k : Nat}

/-- What stands behind a key. -/
def closing : List Char := [')', '$']

/-- A reader leaves an end of a text. -/
def Leaves (cs : List Char) (x : Except Fault (α × List Char)) : Prop :=
  ∀ a left, x = .ok (a, left) → left <:+ cs

/-- What a reader makes of a text with `)$` behind it, and what it makes of the text: the same,
unless it leaves less than `k` characters. -/
def Extends (k : Nat) (x y : Except Fault (α × List Char)) : Prop :=
  ∀ a left, x = .ok (a, left) →
    left.length < k ∨ ∃ rest, left = rest ++ closing ∧ y = .ok (a, rest)

section Combine

variable {x y : Except Fault (α × List Char)} {e : Fault} {a : α}
  {f g : α × List Char → Except Fault (β × List Char)}

theorem Leaves.error : Leaves cs (.error e : Except Fault (α × List Char)) := nofun

theorem Leaves.ok (h : rest <:+ cs) : Leaves cs (.ok (a, rest)) := by
  intro b left hx
  cases hx
  exact h

theorem Leaves.mono (h : Leaves cs x) (hcs : cs <:+ ds) : Leaves ds x :=
  fun a left hx => (h a left hx).trans hcs

theorem Leaves.bind (h : Leaves cs x) (hf : ∀ a left, left <:+ cs → Leaves left (f (a, left))) :
    Leaves cs (x >>= f) := by
  intro b left hx
  obtain ⟨⟨a, mid⟩, ha, hb⟩ := bind_eq_ok_iff.1 hx
  exact (hf a mid (h a mid ha) b left hb).trans (h a mid ha)

/-- A step that reads nothing leaves what the next one leaves. -/
theorem Leaves.after {z : Except Fault γ} {h : γ → Except Fault (α × List Char)}
    (hh : ∀ c, Leaves cs (h c)) : Leaves cs (z >>= h) := by
  intro a left hx
  obtain ⟨c, -, hc⟩ := bind_eq_ok_iff.1 hx
  exact hh c a left hc

theorem Leaves.map {z : Except Fault γ} {h : γ → α × List Char} (hh : ∀ c, (h c).2 <:+ cs) :
    Leaves cs (z.map h) := by
  intro a left hx
  obtain ⟨c, -, hc⟩ := map_eq_ok_iff.1 hx
  have hleft : (h c).2 = left := by rw [hc]
  exact hleft ▸ hh c

theorem Leaves.ite {p : Prop} [Decidable p] (hx : Leaves cs x) (hy : Leaves cs y) :
    Leaves cs (if p then x else y) := by
  split
  · exact hx
  · exact hy

theorem Extends.error : Extends k (.error e) y := nofun

theorem Extends.ok : Extends k (.ok (a, rest ++ closing)) (.ok (a, rest)) := by
  intro b left hx
  cases hx
  exact .inr ⟨rest, rfl, rfl⟩

/-- Whatever starts behind the text ends there. -/
theorem Extends.behind (h : Leaves cs x) (hcs : cs.length < k) : Extends k x y :=
  fun a left hx => .inl (Nat.lt_of_le_of_lt (h a left hx).length_le hcs)

theorem Extends.bind (h : Extends k x y) (hf : ∀ a left, Leaves left (f (a, left)))
    (hfg : ∀ a rest, Extends k (f (a, rest ++ closing)) (g (a, rest))) :
    Extends k (x >>= f) (y >>= g) := by
  intro b left hx
  obtain ⟨⟨a, mid⟩, ha, hb⟩ := bind_eq_ok_iff.1 hx
  rcases h a mid ha with hmid | ⟨rest, rfl, hy⟩
  · exact .inl (Nat.lt_of_le_of_lt (hf a mid b left hb).length_le hmid)
  · rw [hy]
    exact hfg a rest b left hb

/-- A step that reads nothing is the same on both sides. -/
theorem Extends.after {z : Except Fault γ} {f g : γ → Except Fault (α × List Char)}
    (h : ∀ c, Extends k (f c) (g c)) : Extends k (z >>= f) (z >>= g) := by
  intro a left hx
  obtain ⟨c, hc, ha⟩ := bind_eq_ok_iff.1 hx
  rw [hc]
  exact h c a left ha

theorem Extends.map {z : Except Fault γ} {f g : γ → α × List Char}
    (h : ∀ c, Extends k (.ok (f c)) (.ok (g c))) : Extends k (z.map f) (z.map g) := by
  intro a left hx
  obtain ⟨c, rfl, ha⟩ := map_eq_ok_iff.1 hx
  exact h c a left (congrArg Except.ok ha)

theorem Extends.ite {p : Prop} [Decidable p] {x' y' : Except Fault (α × List Char)}
    (h : Extends k x y) (h' : Extends k x' y') :
    Extends k (if p then x else x') (if p then y else y') := by
  split
  · exact h
  · exact h'

end Combine

/-- What is left of the end starts in the text, unless that is the closing parenthesis. -/
theorem eq_cons_of_append_closing (hc : c ≠ ')') (h : ds ++ closing = c :: rest) :
    ∃ tail, ds = c :: tail ∧ rest = tail ++ closing := by
  cases ds with
  | nil => exact absurd (List.cons.inj h).1.symm hc
  | cons d tail =>
    obtain ⟨rfl, rfl⟩ := List.cons.inj h
    exact ⟨tail, rfl, rfl⟩

/-- A text that does not start with a character does not do so in front of the end either. -/
theorem append_closing_ne_cons (hc : c ≠ ')') (h : ∀ rest, ds ≠ c :: rest) (rest : List Char) :
    ds ++ closing ≠ c :: rest := fun heq =>
  let ⟨tail, hds, _⟩ := eq_cons_of_append_closing hc heq
  h tail hds

/-! ### Blanks and comments -/

theorem dropComments_suffix (inside : Bool) (cs : List Char) : dropComments inside cs <:+ cs := by
  fun_induction dropComments inside cs with
  | case1 => exact List.suffix_refl _
  | case2 c cs ih => exact ih.trans (List.suffix_cons c cs)
  | case3 c cs _ ih => exact ih.trans (List.suffix_cons c cs)
  | case4 cs _ ih => exact ih.trans (List.suffix_cons '#' cs)
  | case5 c cs => exact List.suffix_refl _

theorem skip_suffix (flags : Flags) (cs : List Char) : skip flags cs <:+ cs := by
  unfold skip
  split
  · exact dropComments_suffix false cs
  · exact List.suffix_refl _

theorem skip_nil (flags : Flags) : skip flags [] = [] := by
  unfold skip
  split <;> rfl

/-- A comment hides what is behind the text, and blanks do not. -/
theorem dropComments_append (inside : Bool) (cs : List Char) :
    dropComments inside (cs ++ closing) = dropComments inside cs ++ closing ∨
      dropComments inside (cs ++ closing) = [] := by
  fun_induction dropComments inside cs with
  | case1 inside =>
    cases inside with
    | false => exact .inl (by decide)
    | true => exact .inr (by decide)
  | case2 c cs ih => simpa only [List.cons_append, dropComments] using ih
  | case3 c cs hblank ih => simpa only [List.cons_append, dropComments, if_pos hblank] using ih
  | case4 cs hblank ih =>
    simpa only [List.cons_append, dropComments, if_neg hblank, if_true] using ih
  | case5 c cs hblank hhash =>
    exact .inl (by simp only [List.cons_append, dropComments, if_neg hblank, if_neg hhash])

theorem skip_brace (flags : Flags) (rest : List Char) :
    skip flags ('\x7b' :: rest) = '\x7b' :: rest := by
  have hblank : ¬ Text.isBlank '\x7b' = true := by decide
  unfold skip
  split
  · rw [dropComments, if_neg hblank, if_neg (by decide)]
  · rfl

theorem skip_append (flags : Flags) (cs : List Char) :
    skip flags (cs ++ closing) = skip flags cs ++ closing ∨ skip flags (cs ++ closing) = [] := by
  unfold skip
  split
  · exact dropComments_append false cs
  · exact .inl rfl

/-- A reader that starts with what is significant. -/
theorem Extends.skip {R : List Char → Except Fault (α × List Char)} (hk : 0 < k)
    (hleaves : ∀ cs, Leaves cs (R cs)) (h : ∀ cs, Extends k (R (cs ++ closing)) (R cs)) :
    Extends k (R (Pattern.skip flags (cs ++ closing))) (R (Pattern.skip flags cs)) := by
  rcases skip_append flags cs with hs | hs
  · rw [hs]
    exact h _
  · rw [hs]
    exact .behind (hleaves []) hk

/-- What is significant after a reading is left to the next one. -/
theorem Extends.ok_skip {a : α} (hk : 0 < k) :
    Extends k (.ok (a, Pattern.skip flags (rest ++ closing))) (.ok (a, Pattern.skip flags rest)) :=
  Extends.skip (R := fun cs => .ok (a, cs)) hk (fun cs => .ok (List.suffix_refl cs)) fun _ => .ok

/-! ### Runs of characters -/

theorem takeSome_suffix (flags : Flags) (test : Char → Bool) (n : Nat) (cs : List Char) :
    (takeSome flags test n cs).2 <:+ cs := by
  induction n generalizing cs with
  | zero => exact List.suffix_refl _
  | succ n ih =>
    cases cs with
    | nil => exact List.suffix_refl _
    | cons c rest =>
      rw [takeSome]
      split
      · exact ((ih (skip flags rest)).trans (skip_suffix flags rest)).trans
          (List.suffix_cons c rest)
      · exact List.suffix_refl _

/-- More steps than there are characters make no difference. -/
theorem takeSome_of_length_le (test : Char → Bool) {m n : Nat} (hm : cs.length ≤ m)
    (hn : cs.length ≤ n) : takeSome flags test m cs = takeSome flags test n cs := by
  induction m generalizing n cs with
  | zero =>
    cases List.eq_nil_of_length_eq_zero (Nat.le_zero.1 hm)
    cases n <;> rfl
  | succ m ih =>
    cases cs with
    | nil => cases n <;> rfl
    | cons c rest =>
      cases n with
      | zero => cases hn
      | succ n =>
        have hskip := (skip_suffix flags rest).length_le
        rw [List.length_cons] at hm hn
        rw [takeSome, takeSome, ih (n := n) (by omega) (by omega)]

theorem takeSome_nil (test : Char → Bool) (n : Nat) : takeSome flags test n [] = ([], []) := by
  cases n <;> rfl

/-- A run of characters ends in the text, or it gets into what is behind. -/
theorem takeSome_append (flags : Flags) (test : Char → Bool) (n : Nat) (cs : List Char) :
    (takeSome flags test n (cs ++ closing)).2.length < closing.length ∨
      takeSome flags test n (cs ++ closing) =
        ((takeSome flags test n cs).1, (takeSome flags test n cs).2 ++ closing) := by
  induction n generalizing cs with
  | zero => exact .inr rfl
  | succ n ih =>
    cases cs with
    | nil =>
      rw [takeSome_nil, List.nil_append, closing]
      by_cases ht : test ')' = true
      · have hsuffix := (takeSome_suffix flags test n (skip flags ['$'])).trans
          (skip_suffix flags ['$'])
        simp only [takeSome, ht, if_true]
        exact .inl (Nat.lt_succ_of_le hsuffix.length_le)
      · exact .inr (by simp only [takeSome, ht]; rfl)
    | cons c rest =>
      rw [List.cons_append, takeSome, takeSome]
      by_cases ht : test c = true
      · simp only [ht, if_true]
        rcases skip_append flags rest with hs | hs
        · rw [hs]
          rcases ih (skip flags rest) with h | h
          · exact .inl h
          · exact .inr (by rw [h])
        · rw [hs, takeSome_nil]
          exact .inl (by decide)
      · exact .inr (by simp only [ht]; rfl)

/-- A run of characters of a text, with as many steps as there are characters in each case. -/
theorem takeSome_skip_append (flags : Flags) (test : Char → Bool) (cs : List Char) :
    (takeSome flags test (cs ++ closing).length (skip flags (cs ++ closing))).2.length <
        closing.length ∨
      takeSome flags test (cs ++ closing).length (skip flags (cs ++ closing)) =
        ((takeSome flags test cs.length (skip flags cs)).1,
          (takeSome flags test cs.length (skip flags cs)).2 ++ closing) := by
  rcases skip_append flags cs with hs | hs
  · have hle := (skip_suffix flags cs).length_le
    have hsame : takeSome flags test (cs ++ closing).length (skip flags cs) =
        takeSome flags test cs.length (skip flags cs) :=
      takeSome_of_length_le test (by rw [List.length_append]; omega) hle
    rw [hs]
    rcases takeSome_append flags test (cs ++ closing).length (skip flags cs) with h | h
    · exact .inl h
    · exact .inr (by rw [h, hsame])
  · rw [hs, takeSome_nil]
    exact .inl (by decide)

theorem spanUntil_cons_self (stop : Char) (cs : List Char) :
    spanUntil stop (stop :: cs) = ([], stop :: cs) := by
  simp [spanUntil]

theorem spanUntil_cons_of_ne {stop : Char} (hc : c ≠ stop) (cs : List Char) :
    spanUntil stop (c :: cs) = (c :: (spanUntil stop cs).1, (spanUntil stop cs).2) := by
  simp [spanUntil, hc]

/-- A name is closed within the text, or not at all. -/
theorem spanUntil_append {stop : Char} (hs : ')' ≠ stop) (hs' : '$' ≠ stop) (cs : List Char) :
    (spanUntil stop (cs ++ closing)).2 = [] ∧ (spanUntil stop cs).2 = [] ∨
      spanUntil stop (cs ++ closing) =
        ((spanUntil stop cs).1, (spanUntil stop cs).2 ++ closing) := by
  induction cs with
  | nil =>
    rw [List.nil_append, closing, spanUntil_cons_of_ne hs, spanUntil_cons_of_ne hs']
    exact .inl ⟨rfl, rfl⟩
  | cons c cs ih =>
    rw [List.cons_append]
    by_cases hc : c = stop
    · subst hc
      rw [spanUntil_cons_self, spanUntil_cons_self]
      exact .inr rfl
    · rw [spanUntil_cons_of_ne hc, spanUntil_cons_of_ne hc]
      rcases ih with h | h
      · exact .inl h
      · exact .inr (by rw [h])

end JobExpansion.Pattern
