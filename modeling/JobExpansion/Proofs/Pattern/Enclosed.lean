import JobExpansion.Proofs.Pattern.Steps
import JobExpansion.Proofs.Pattern.Whole

/-!
# Keys between their anchors

A key is read as a pattern with `^(?:` in front of it and `)$` behind it. What is read that way is
the key's own expression between the two ends of a text (`compile_eq_ok`): nothing of the key gets
out of the group, unless the key closes the group itself.
-/

namespace JobExpansion.Pattern

variable {flags : Flags} {level : Level} {outer : List Level} {names : List (List Char)}
  {cs : List Char}

/-- The outermost group of a pattern does not capture, and no flags hold after it. -/
def Based : Level → List Level → Prop
  | level, [] => level.frame = ({}, false)
  | _, up :: outer => Based up outer

theorem Based.of_frame {level' : Level} (h : Based level outer)
    (hframe : level'.frame = level.frame) : Based level' outer := by
  cases outer with
  | nil => exact hframe.trans h
  | cons up outer => exact h

/-- The pattern around a key, as far as the key. -/
def started : Level := ⟨{}, false, [], [⟨.look .textStart, 0, true⟩]⟩

/-- A pattern read around a key is the key's own pattern between anchors, unless the key closes a
group that it does not open. -/
def Encloses (around : Node) (alone : Except Fault Node) : Prop :=
  (∃ node, alone = .ok node ∧ around.regex = Regex.enclosed node.regex ∧
    node.depth ≤ around.depth) ∨ alone = .error .groupUnopened

/-- What is closed by the parenthesis behind the key stands between the anchors. -/
theorem encloses_closed {r : Node} (hbased : Based level [])
    (h : r = ((level.closeInto started).item (.look (lineEnd level.outerFlags)) 0).node) :
    Encloses r (.ok level.node) := by
  obtain ⟨hflags, hcapturing⟩ := Prod.mk.inj hbased
  refine .inl ⟨level.node, rfl, ?_, ?_⟩
  · rw [h, hflags, Level.closeInto, hcapturing]
    rfl
  · rw [h]
    simp only [Level.closeInto, Level.item, Level.push, started, Level.node, Level.branch,
      List.foldl_cons, List.foldl_nil]
    omega

section Append

variable {n m : Nat} {r : Node}

/-- A pattern read within the group around it with so many steps is read by itself. -/
def ReadsAlone (n m : Nat) (r : Node) (cs : List Char) : Prop :=
  ∀ flags level outer names, Based level outer →
    readFrom n flags level (outer ++ [started]) names (cs ++ closing) = .ok r →
    Encloses r (readFrom m flags level outer names cs)

theorem ReadsAlone.openGroup (h : ReadsAlone n m r cs) {inner : Flags} {capturing : Bool}
    {name : Option (List Char)} (hbased : Based level outer)
    (hr : openGroup n flags level (outer ++ [started]) names inner capturing name (cs ++ closing) =
      .ok r) : Encloses r (openGroup m flags level outer names inner capturing name cs) := by
  have hinner : Based ⟨flags, capturing, [], []⟩ (level :: outer) := hbased
  unfold Pattern.openGroup at hr ⊢
  split at hr
  · split at hr
    · cases hr
    · next hnew =>
      rw [if_neg hnew]
      exact h _ _ _ _ hinner hr
  · exact h _ _ _ _ hinner hr

/-- Whatever the step, the rest is read as without what is around; but a group that the key does not
open is closed around it only. -/
theorem ReadsAlone.resume (h : ReadsAlone n m r cs) {step : Step} (hbased : Based level outer)
    (hstep : step = .closed ∨ step.Stays level)
    (hr : resume n flags level (outer ++ [started]) names step (cs ++ closing) = .ok r) :
    Encloses r (resume m flags level outer names step cs) := by
  cases step with
  | on flags' level' =>
    have hframe : level'.frame = level.frame := hstep.resolve_left nofun
    exact h _ _ _ _ (hbased.of_frame hframe) hr
  | opened inner capturing name => exact h.openGroup hbased hr
  | closed =>
    cases outer with
    | nil => exact .inr rfl
    | cons up outer =>
      have hup : Based (level.closeInto up) outer := Based.of_frame hbased rfl
      exact h _ _ _ _ hup hr

/-- A pattern read within the group around it is read by itself, unless it closes that group. -/
theorem readFrom_append (hm : cs.length < m) : ReadsAlone n m r cs := by
  induction n generalizing m cs with
  | zero => exact fun _ _ _ _ _ h => nomatch h
  | succ n ih =>
    intro flags level outer names hbased h
    obtain ⟨m, rfl⟩ := Nat.exists_eq_add_one_of_ne_zero (Nat.ne_of_gt (Nat.zero_lt_of_lt hm))
    have hopen : outer ++ [started] ≠ [] := by simp
    have hlength := (skip_suffix flags cs).length_le
    rcases skip_append flags cs with hs | hs
    · cases hd : skip flags cs with
      | nil =>
        -- the key is at its end, so the parenthesis behind it is read
        rw [hd] at hs
        rw [readFrom_cons hs, readStep, ok_bind] at h
        cases outer with
        | nil =>
          rw [readFrom_nil hd]
          exact encloses_closed hbased (readFrom_dollar h).2
        | cons up outer => exact absurd (readFrom_dollar h).1 (by simp)
      | cons c rest =>
        rw [hd] at hs hlength
        rw [readFrom_cons hs] at h
        obtain ⟨⟨step, after⟩, hstep, h⟩ := bind_eq_ok_iff.1 h
        rw [readFrom_cons hd]
        by_cases hc : c = ')'
        · subst hc
          cases hstep
          exact (ih (Nat.lt_of_lt_of_le hlength (Nat.le_of_lt_succ hm))).resume hbased (.inl rfl) h
        · have hstays := stays_of_readStep hc hstep
          rcases readStep_append hstep with
            hshort | ⟨left, rfl, halone⟩ | ⟨l, more, rfl, rfl, hmore⟩
          · have hbehind : after <:+ closing :=
              List.suffix_of_suffix_length_le (leaves_readStep flags level c _ step after hstep)
                (List.suffix_append rest closing) (Nat.le_of_lt hshort)
            exact absurd h (resume_of_behind hstays hshort hbehind hopen)
          · have hleft := (leaves_readStep flags level c _ step left halone).length_le
            rw [halone, ok_bind]
            rw [List.length_cons] at hlength
            exact (ih (by omega)).resume hbased (.inr hstays) h
          · exact absurd h (readFrom_of_brace hmore)
    · exact absurd h (readFrom_of_empty hs hopen)

end Append

/-! ### Compiled keys -/

/-- The anchors in front of a key open one group, which captures nothing. -/
theorem readFrom_anchored (n : Nat) (key : List Char) :
    readFrom (n + 2) {} ⟨{}, false, [], []⟩ [] [] (anchored key) =
      readFrom n {} ⟨{}, false, [], []⟩ [started] [] (key ++ closing) := rfl

theorem bytes_le_enclosed (r : Regex) (ofClass : CharClass → Weight) (reverse : Bool) :
    (r.weight ofClass reverse).bytes ≤ ((Regex.enclosed r).weight ofClass reverse).bytes := by
  have hweight : (Regex.enclosed r).weight ofClass reverse =
      .plain 1 + (r.weight ofClass reverse + .plain 1) := rfl
  rw [hweight]
  generalize r.weight ofClass reverse = w
  change 32 * w.states + w.extra ≤ 32 * (1 + (w.states + 1)) + (0 + (w.extra + 0))
  omega

/-- An expression fits if it does with its anchors. -/
theorem fits_of_enclosed {r : Regex} (h : (Regex.enclosed r).fits = true) : r.fits = true := by
  unfold Regex.fits at h ⊢
  simp only [Bool.or_eq_true, Bool.and_eq_true, decide_eq_true_eq] at h ⊢
  rcases h with h | ⟨h, h'⟩
  · exact .inl ((bytes_le_enclosed r _ _).trans h)
  · exact .inr ⟨(bytes_le_enclosed r _ _).trans h, (bytes_le_enclosed r _ _).trans h'⟩

/-- A key's own expression: it is read as a pattern by itself, and it fits. -/
def Alone (key : String) (r : Regex) : Prop := read key.toList = .ok r ∧ r.fits = true

theorem read_of_depth {text : List Char} {node : Node}
    (h : readFrom (text.length + 1) {} ⟨{}, false, [], []⟩ [] [] text = .ok node)
    (hdepth : ¬ nestLimit < node.depth) : read text = .ok node.regex := by
  rw [read, h, ok_bind, if_neg hdepth]
  rfl

/-- **A key that is compiled is a pattern by itself or closes a group that it does not open**, and
in the first case its own expression stands between the anchors. -/
theorem compile_eq_ok {key : String} {r : Regex} (h : compile key = .ok r) :
    (∃ own, Alone key own ∧ r = Regex.enclosed own) ∨ read key.toList = .error .groupUnopened := by
  obtain ⟨r', hread, h⟩ := bind_eq_ok_iff.1 h
  obtain ⟨node, hnode, hread⟩ := bind_eq_ok_iff.1 hread
  have hlength : (anchored key.toList).length + 1 = key.toList.length + 5 + 2 := by
    simp [anchored]
  rw [hlength, readFrom_anchored] at hnode
  have hbased : Based ⟨{}, false, [], []⟩ [] := rfl
  rcases readFrom_append (Nat.lt_succ_self _) _ _ _ _ hbased hnode with
    ⟨own, hown, hregex, hdepth⟩ | hunopened
  · split at hread
    · cases hread
    · next hlimit =>
      cases hread
      split at h
      · next hfits =>
        cases h
        have hread := read_of_depth hown fun hlt => hlimit (Nat.lt_of_lt_of_le hlt hdepth)
        exact .inl ⟨own.regex, ⟨hread, fits_of_enclosed (hregex ▸ hfits)⟩, hregex⟩
      · cases h
  · rw [read, hunopened]
    exact .inr rfl

end JobExpansion.Pattern
