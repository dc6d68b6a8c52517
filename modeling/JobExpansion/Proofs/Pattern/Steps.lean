import JobExpansion.Proofs.Pattern.Classes
import JobExpansion.Proofs.Pattern.Groups

/-!
# Patterns step by step

The rest of a pattern is read one step at a time (`readFrom_cons`): an item goes to the group being
read, or a group is opened, or it is closed. With `)$` behind the text each step is taken as
without, or it gets into what is behind (`readStep_append`), and then the group stays open for good
(`readFrom_of_behind`, `readFrom_of_brace`).
-/

namespace JobExpansion.Pattern

variable {flags : Flags} {level : Level} {outer : List Level} {names : List (List Char)}
  {cs rest left : List Char} {c : Char}

/-- What comes next in a pattern. -/
inductive Step where
  /-- The group being read goes on with these flags, and with what has been read of it. -/
  | on (flags : Flags) (level : Level)
  | opened (inner : Flags) (capturing : Bool) (name : Option (List Char))
  | closed

/-- The item that an expression makes. -/
def Level.item (level : Level) (regex : Regex) (depth : Nat) : Level :=
  level.push ⟨regex, depth, true⟩

/-- The step that an opening makes. -/
def Opening.step (level : Level) : Opening → Step
  | .setFlags inner => .on inner (level.push ⟨.empty, 0, false⟩)
  | .group inner capturing name => .opened inner capturing name

/-- The next step at a character, and the characters after it. -/
def readStep (flags : Flags) (level : Level) (c : Char) (cs : List Char) :
    Except Fault (Step × List Char) :=
  match c with
  | '(' => readOpening flags cs >>= fun (opening, rest) => .ok (opening.step level, rest)
  | ')' => .ok (.closed, cs)
  | '|' =>
    .ok (.on flags { level with branches := level.branch :: level.branches, items := [] }, cs)
  | '[' =>
    readClass flags cs >>= fun (member, rest) =>
      .ok (.on flags (level.item (.chars member.set) member.depth), rest)
  | '?' => level.repeatLast 0 (some 1) >>= fun level => .ok (.on flags level, dropLazy cs)
  | '*' => level.repeatLast 0 none >>= fun level => .ok (.on flags level, dropLazy cs)
  | '+' => level.repeatLast 1 none >>= fun level => .ok (.on flags level, dropLazy cs)
  | '\x7b' =>
    level.repeatLast 0 none >>= fun _ =>
      readBounds flags cs >>= fun ((min, max), rest) =>
        level.repeatLast min max >>= fun level => .ok (.on flags level, rest)
  | '\\' =>
    readEscape flags cs >>= fun (atom, rest) =>
      atom.regex flags >>= fun regex => .ok (.on flags (level.item regex 0), rest)
  | '.' => dot flags >>= fun regex => .ok (.on flags (level.item regex 0), cs)
  | '^' => .ok (.on flags (level.item (.look (lineStart flags)) 0), cs)
  | '$' => .ok (.on flags (level.item (.look (lineEnd flags)) 0), cs)
  | c => .ok (.on flags (level.item (charNode flags c) 0), cs)

/-- The characters at which a step does not just add the character. -/
def operators : List Char :=
  ['(', ')', '|', '[', '?', '*', '+', '\x7b', '\\', '.', '^', '$']

theorem readStep_of_plain (hc : c ∉ operators) :
    readStep flags level c cs = .ok (.on flags (level.item (charNode flags c) 0), cs) := by
  unfold readStep
  split
  case h_13 => rfl
  all_goals exact absurd (by decide) hc

/-- A closed group as an item of the group around it. -/
def Level.closeInto (level up : Level) : Level :=
  up.item (if level.capturing then .capture level.node.regex else level.node.regex)
    (level.node.depth + 1)

theorem readFrom_nil {n : Nat} (h : skip flags cs = []) :
    readFrom (n + 1) flags level outer names cs =
      if outer.isEmpty then .ok level.node else .error .groupUnclosed := by
  rw [readFrom, h]

/-- A group that is opened inside the one being read. -/
def openGroup (n : Nat) (flags : Flags) (level : Level) (outer : List Level)
    (names : List (List Char)) (inner : Flags) (capturing : Bool) (name : Option (List Char))
    (rest : List Char) : Except Fault Node :=
  match name with
  | some name =>
    if names.contains name then .error .groupName
    else readFrom n inner ⟨flags, capturing, [], []⟩ (level :: outer) (name :: names) rest
  | none => readFrom n inner ⟨flags, capturing, [], []⟩ (level :: outer) names rest

/-- The rest of a pattern after a step. -/
def resume (n : Nat) (flags : Flags) (level : Level) (outer : List Level)
    (names : List (List Char)) (step : Step) (rest : List Char) : Except Fault Node :=
  match step with
  | .on flags level => readFrom n flags level outer names rest
  | .opened inner capturing name => openGroup n flags level outer names inner capturing name rest
  | .closed =>
    match outer with
    | [] => .error .groupUnopened
    | up :: outer => readFrom n level.outerFlags (level.closeInto up) outer names rest

/-- A pattern is read step by step. -/
theorem readFrom_cons {n : Nat} (h : skip flags cs = c :: rest) :
    readFrom (n + 1) flags level outer names cs =
      readStep flags level c rest >>= fun (step, rest) =>
        resume n flags level outer names step rest := by
  rw [readFrom, h]
  dsimp only
  split
  case h_1 heq => cases heq
  case h_2 heq =>
    cases heq
    rw [readStep]
    cases readOpening flags rest with
    | error e => rfl
    | ok opened =>
      obtain ⟨opening, left⟩ := opened
      cases opening <;> rfl
  case h_3 heq => cases heq; rfl
  case h_4 heq => cases heq; rfl
  case h_5 heq => cases heq; rw [readStep]; cases readClass flags rest <;> rfl
  case h_6 heq => cases heq; rw [readStep]; cases level.repeatLast 0 (some 1) <;> rfl
  case h_7 heq => cases heq; rw [readStep]; cases level.repeatLast 0 none <;> rfl
  case h_8 heq => cases heq; rw [readStep]; cases level.repeatLast 1 none <;> rfl
  case h_9 heq =>
    cases heq
    rw [readStep]
    cases level.repeatLast 0 none with
    | error e => rfl
    | ok _ =>
      cases readBounds flags rest with
      | error e => rfl
      | ok bounds =>
        obtain ⟨⟨min, max⟩, left⟩ := bounds
        simp only [ok_bind]
        cases level.repeatLast min max <;> rfl
  case h_10 heq =>
    cases heq
    rw [readStep]
    cases readEscape flags rest with
    | error e => rfl
    | ok escaped =>
      obtain ⟨atom, left⟩ := escaped
      simp only [ok_bind]
      cases atom.regex flags <;> rfl
  case h_11 heq => cases heq; rw [readStep]; cases dot flags <;> rfl
  case h_12 heq => cases heq; rfl
  case h_13 heq => cases heq; rfl
  case h_14 heq =>
    cases heq
    have hc : c ∉ operators := by simp_all [operators]
    rw [readStep_of_plain hc]
    rfl

/-! ### What a step leaves -/

theorem leaves_readStep (flags : Flags) (level : Level) (c : Char) (cs : List Char) :
    Leaves cs (readStep flags level c cs) := by
  have hself {step : Step} : Leaves cs (.ok (step, cs)) := .ok (List.suffix_refl cs)
  have hlazy {step : Step} : Leaves cs (.ok (step, dropLazy cs)) := .ok (dropLazy_suffix cs)
  unfold readStep
  split
  · exact .bind (leaves_readOpening flags cs) fun _ left _ => .ok (List.suffix_refl left)
  · exact hself
  · exact hself
  · exact .bind (leaves_readClass flags cs) fun _ left _ => .ok (List.suffix_refl left)
  · exact .after fun _ => hlazy
  · exact .after fun _ => hlazy
  · exact .after fun _ => hlazy
  · refine .after fun _ => .bind (leaves_readBounds flags cs) fun bounds left _ => ?_
    exact .after fun _ => .ok (List.suffix_refl left)
  · refine .bind (leaves_readEscape flags cs) fun atom left _ => ?_
    exact .after fun _ => .ok (List.suffix_refl left)
  · exact .after fun _ => hself
  · exact hself
  · exact hself
  · exact hself

/-- Every step but an escape is taken as without what is behind, or it gets there. -/
theorem extends_readStep (flags : Flags) (level : Level) (hc : c ≠ '\\') (cs : List Char) :
    Extends 2 (readStep flags level c (cs ++ closing)) (readStep flags level c cs) := by
  have hlazy {f : Level → Step} {x : Except Fault Level} :
      Extends 2 (x >>= fun level => .ok (f level, dropLazy (cs ++ closing)))
        (x >>= fun level => .ok (f level, dropLazy cs)) :=
    .after fun _ => dropLazy_append cs ▸ .ok
  unfold readStep
  split
  · exact .bind (extends_readOpening flags cs) (fun _ left => .ok (List.suffix_refl left))
      fun _ _ => .ok
  · exact .ok
  · exact .ok
  · intro step after h
    obtain ⟨⟨member, left⟩, hclass, h⟩ := bind_eq_ok_iff.1 h
    obtain ⟨rest, rfl, halone⟩ := readClass_append hclass
    cases h
    exact .inr ⟨rest, rfl, by rw [halone]; rfl⟩
  · exact hlazy
  · exact hlazy
  · exact hlazy
  · refine .after fun _ => .bind (extends_readBounds flags cs) (fun _ left => ?_) fun _ _ => ?_
    · exact .after fun _ => .ok (List.suffix_refl left)
    · exact .after fun _ => .ok
  · exact absurd rfl hc
  · exact .after fun _ => .ok
  · exact .ok
  · exact .ok
  · exact .ok

/-- A step with `)$` behind the text is taken as without, or it gets into what is behind, or it is
an assertion in front of a brace with nothing of the text behind it. -/
theorem readStep_append {step : Step} {after : List Char}
    (h : readStep flags level c (cs ++ closing) = .ok (step, after)) :
    after.length < closing.length ∨
      (∃ rest, after = rest ++ closing ∧ readStep flags level c cs = .ok (step, rest)) ∨
      ∃ l rest, step = .on flags l ∧ after = '\x7b' :: rest ∧ skip flags rest = closing := by
  by_cases hc : c = '\\'
  · subst hc
    obtain ⟨⟨atom, left⟩, hescape, h⟩ := bind_eq_ok_iff.1 h
    obtain ⟨regex, hregex, h⟩ := bind_eq_ok_iff.1 h
    cases h
    rcases extends_readEscape flags cs atom _ hescape with hshort | ⟨rest, rfl, halone⟩ | hbrace
    · exact .inl hshort
    · refine .inr (.inl ⟨rest, rfl, ?_⟩)
      rw [readStep, halone, ok_bind]
      simp only [hregex, ok_bind]
    · obtain ⟨l, rest, rfl, rfl, hrest⟩ := hbrace
      exact .inr (.inr ⟨_, rest, rfl, rfl, hrest⟩)
  · rcases extends_readStep flags level hc cs step after h with h | h
    · exact .inl h
    · exact .inr (.inl h)

/-! ### Levels -/

/-- The flags after a group, and whether it captures: what is known of it from the start. -/
def Level.frame (level : Level) : Flags × Bool := (level.outerFlags, level.capturing)

theorem frame_of_repeatLast {level' : Level} {min : Nat} {max : Option Nat}
    (h : level.repeatLast min max = .ok level') : level'.frame = level.frame := by
  unfold Level.repeatLast at h
  split at h
  · split at h
    · cases h
      rfl
    · cases h
  · cases h

/-- A step does not close the group being read, nor does it change what was known of it. -/
def Step.Stays (level : Level) : Step → Prop
  | .on _ level' => level'.frame = level.frame
  | .opened .. => True
  | .closed => False

/-- Only a parenthesis closes a group. -/
theorem stays_of_readStep {step : Step} (hc : c ≠ ')')
    (h : readStep flags level c cs = .ok (step, left)) : step.Stays level := by
  unfold readStep at h
  split at h
  case h_1 =>
    obtain ⟨⟨opening, _⟩, -, h⟩ := bind_eq_ok_iff.1 h
    cases h
    cases opening
    · trivial
    · rfl
  case h_2 => exact absurd rfl hc
  case h_4 | h_10 =>
    obtain ⟨_, -, h⟩ := bind_eq_ok_iff.1 h
    cases h
    rfl
  case h_5 | h_6 | h_7 =>
    obtain ⟨_, hlast, h⟩ := bind_eq_ok_iff.1 h
    cases h
    exact frame_of_repeatLast hlast
  case h_8 =>
    obtain ⟨_, -, h⟩ := bind_eq_ok_iff.1 h
    obtain ⟨_, -, h⟩ := bind_eq_ok_iff.1 h
    obtain ⟨_, hlast, h⟩ := bind_eq_ok_iff.1 h
    cases h
    exact frame_of_repeatLast hlast
  case h_9 =>
    obtain ⟨_, -, h⟩ := bind_eq_ok_iff.1 h
    obtain ⟨_, -, h⟩ := bind_eq_ok_iff.1 h
    cases h
    rfl
  all_goals
    cases h
    rfl

/-! ### Groups left open -/

theorem readFrom_of_empty {n : Nat} {r : Node} (h : skip flags cs = []) (houter : outer ≠ []) :
    readFrom n flags level outer names cs ≠ .ok r := by
  cases n with
  | zero => exact nofun
  | succ n =>
    rw [readFrom_nil h, if_neg (by simpa using houter)]
    exact nofun

theorem skip_dollar (flags : Flags) : skip flags ['$'] = ['$'] := by
  unfold skip
  split <;> rfl

/-- The pattern text ends after the dollar sign. -/
theorem readFrom_dollar {n : Nat} {r : Node}
    (h : readFrom n flags level outer names ['$'] = .ok r) :
    outer = [] ∧ r = (level.item (.look (lineEnd flags)) 0).node := by
  cases n with
  | zero => cases h
  | succ n =>
    rw [readFrom_cons (skip_dollar flags), readStep, ok_bind] at h
    have houter : outer = [] := Classical.byContradiction fun houter =>
      readFrom_of_empty (skip_nil flags) houter h
    subst houter
    cases n with
    | zero => cases h
    | succ n =>
      dsimp only [resume] at h
      rw [readFrom_nil (skip_nil flags)] at h
      cases h
      exact ⟨rfl, rfl⟩

/-- Nothing closes a group behind the parenthesis. -/
theorem readFrom_of_behind {n : Nat} {r : Node} (hcs : cs.length < closing.length)
    (hsuffix : cs <:+ closing) (houter : outer ≠ []) :
    readFrom n flags level outer names cs ≠ .ok r := by
  rcases List.suffix_cons_iff.1 hsuffix with rfl | hsuffix
  · exact absurd hcs (Nat.lt_irrefl _)
  · rcases List.suffix_cons_iff.1 hsuffix with rfl | hsuffix
    · exact fun h => houter (readFrom_dollar h).1
    · obtain rfl := List.suffix_nil.1 hsuffix
      exact readFrom_of_empty (skip_nil flags) houter

theorem openGroup_of_behind {n : Nat} {r : Node} {inner : Flags} {capturing : Bool}
    {name : Option (List Char)} (hcs : cs.length < closing.length) (hsuffix : cs <:+ closing) :
    openGroup n flags level outer names inner capturing name cs ≠ .ok r := by
  have hopen : level :: outer ≠ [] := List.cons_ne_nil _ _
  unfold openGroup
  split
  · split
    · exact nofun
    · exact readFrom_of_behind hcs hsuffix hopen
  · exact readFrom_of_behind hcs hsuffix hopen

/-- A step that gets behind the parenthesis leaves the group open for good. -/
theorem resume_of_behind {n : Nat} {r : Node} {step : Step} (hstays : step.Stays level)
    (hcs : cs.length < closing.length) (hsuffix : cs <:+ closing) (houter : outer ≠ []) :
    resume n flags level outer names step cs ≠ .ok r := by
  cases step with
  | on flags' level' => exact readFrom_of_behind hcs hsuffix houter
  | opened inner capturing name => exact openGroup_of_behind hcs hsuffix
  | closed => exact absurd hstays not_false

theorem readBounds_closing (h : skip flags cs = closing) :
    readBounds flags cs = .error .repetitionCount := by
  rw [readBounds_eq, h]
  rfl

/-- A count is no count when the text ends after its brace. -/
theorem readFrom_of_brace {n : Nat} {r : Node} (hrest : skip flags rest = closing) :
    readFrom n flags level outer names ('\x7b' :: rest) ≠ .ok r := by
  cases n with
  | zero => exact nofun
  | succ n =>
    intro h
    rw [readFrom_cons (skip_brace flags rest)] at h
    obtain ⟨⟨step, left⟩, hstep, -⟩ := bind_eq_ok_iff.1 h
    obtain ⟨_, -, hstep⟩ := bind_eq_ok_iff.1 hstep
    obtain ⟨_, hbounds, -⟩ := bind_eq_ok_iff.1 hstep
    rw [readBounds_closing hrest] at hbounds
    cases hbounds

end JobExpansion.Pattern
