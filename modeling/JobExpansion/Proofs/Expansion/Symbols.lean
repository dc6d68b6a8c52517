import JobExpansion.Proofs.Expansion.Identities
import JobExpansion.Proofs.Job.Symbols

/-!
# Symbols along a branch

An app of the table puts something after the group of a symbol, and the other choices of a branch
put something after its leaf. A symbol of a group comes out with exactly that
(`expand_groupedSymbols`). A symbol without a group keeps its placeholder hidden on all branches but
those of the apps of the table (`expand_placeholder_iff`).
-/

namespace JobExpansion

variable {settings : Settings} {b : Branch} {j r : Job} {id : Identity} {s : Symbol}
  {t suffix : String} {c : Char}

/-! ### What is put after the parts of a symbol -/

namespace Symbol

/-- A text of letters, digits and dashes. -/
def Plain (suffix : String) : Prop := ∀ c ∈ suffix.toList, c.isAlphanum = true ∨ c = '-'

instance : DecidablePred Plain := fun suffix =>
  List.decidableBAll (fun c : Char => c.isAlphanum = true ∨ c = '-') suffix.toList

theorem Plain.not_mem (h : Plain suffix) (hc : c.isAlphanum = false ∧ c ≠ '-') :
    c ∉ suffix.toList := by
  intro hmem
  rcases h c hmem with ha | rfl
  · rw [hc.1] at ha
    cases ha
  · exact hc.2 rfl

theorem plain_number (n : Nat) : Plain ("-" ++ toString n) := by
  intro c hc
  rw [String.toList_append, List.mem_append] at hc
  rcases hc with hc | hc
  · exact .inr (List.mem_singleton.1 hc)
  · rw [Nat.toString_eq_repr, Nat.toList_repr] at hc
    have hd : c.isDigit = true := Nat.isDigit_of_mem_toDigits (by decide) (by decide) hc
    exact .inl (by simp [Char.isAlphanum, hd])

end Symbol

theorem App.plain_of_symbol? {app : String} (h : App.symbol? app = some suffix) :
    Symbol.Plain ("-" ++ suffix) := by
  have hall : ∀ row ∈ App.symbols, Symbol.Plain ("-" ++ row.2) := by decide
  obtain ⟨before, after, hrows, -⟩ := List.lookup_eq_some_iff.1 h
  exact hall (app, suffix) (hrows ▸ List.mem_append_right _ List.mem_cons_self)

/-- What the choice of the app puts after the group of a symbol. -/
def Branch.groupSuffix (b : Branch) : String :=
  match b.app.bind App.symbol? with
  | some suffix => "-" ++ suffix
  | none => ""

/-- What the other choices put after its leaf. -/
def Branch.leafSuffix (b : Branch) : String :=
  (if b.isCold then "-c" else "") ++ (if b.isTwin then "-condprof" else "") ++
    b.chunk.elim "" fun c => "-" ++ toString c.1

/-! ### The symbol along a branch -/

theorem Identity.symbol_toApp (app : Option String) (id : Identity) :
    (id.toApp app).symbol = match app.bind App.symbol? with
      | some suffix => ((Symbol.split id.symbol).suffixGroup ("-" ++ suffix)).text
      | none => id.symbol := by
  cases app <;> rfl

/-- What a longer leaf keeps, with all that has been put after the leaf so far, is kept from the
choice of the app to the end of the branch. -/
theorem Identity.symbol_along {P : String → String → Prop}
    (hstart : P "" (id.toApp b.app).symbol)
    (hleaf : ∀ done t suffix, Symbol.Plain suffix → P done t →
      P (done ++ suffix) ((Symbol.split t).suffixLeaf suffix).text) :
    P b.leafSuffix (id.along b).symbol := by
  have hload : P (if b.isCold then "-c" else "") ((id.toApp b.app).toLoad b.isCold).symbol := by
    cases b.isCold with
    | false => exact hstart
    | true => exact hleaf "" _ "-c" (by decide) hstart
  have hprofile : P ((if b.isCold then "-c" else "") ++ if b.isTwin then "-condprof" else "")
      (((id.toApp b.app).toLoad b.isCold).toProfile b.isTwin).symbol := by
    cases b.isTwin with
    | false => simpa [toProfile] using hload
    | true => exact hleaf _ _ "-condprof" (by decide) hload
  unfold Branch.leafSuffix along
  cases b.chunk with
  | none => simpa [toChunk] using hprofile
  | some c => exact hleaf _ _ _ (Symbol.plain_number c.1) hprofile

/-- The symbols of the records of an expansion. -/
theorem symbols_of_expand {out : List Job} (h : expand settings [j] = .ok out)
    (hs : j.get? Field.symbol = some (.text t)) :
    ∃ (id : Identity) (bs : List Branch), id.symbol = t ∧ j.branches settings = .ok bs ∧
      List.Forall₂ (fun b r => b.record settings j = .ok r ∧
        r.get? Field.symbol = some (.text (id.along b).symbol)) bs out := by
  obtain ⟨id, bs, hid, hbs, hall⟩ := identities_of_expand h
  have ht : j.withDefaults.get? Field.symbol = some (.text t) := by
    rw [Job.get?_withDefaults (by decide), hs]
  cases hid.symbol.symm.trans ht
  exact ⟨id, bs, rfl, hbs, hall.imp fun b r hr => ⟨hr.1, hr.2.symbol⟩⟩

/-! ### Symbols of a group -/

/-- An app puts nothing after a group that would make it the placeholder or close it. -/
theorem Branch.grouped_suffixGroup (h : s.Grouped) : (s.suffixGroup b.groupSuffix).Grouped := by
  unfold groupSuffix
  cases ha : b.app.bind App.symbol? with
  | none => simpa using h
  | some suffix =>
    obtain ⟨app, -, hsymbol⟩ := Option.bind_eq_some_iff.1 ha
    refine h.suffixGroup ((App.plain_of_symbol? hsymbol).not_mem (by decide)) fun hn => ?_
    have hdash : '-' ∈ (s.group ++ ("-" ++ suffix)).toList := by simp [String.toList_append]
    rw [hn] at hdash
    revert hdash
    decide

theorem Identity.symbol_along_of_grouped (h : s.Grouped) (hs : id.symbol = s.text) :
    (id.along b).symbol = ((s.suffixGroup b.groupSuffix).suffixLeaf b.leafSuffix).text := by
  have hstart : (id.toApp b.app).symbol = (s.suffixGroup b.groupSuffix).text := by
    rw [symbol_toApp, Branch.groupSuffix]
    cases b.app.bind App.symbol? with
    | none => simpa using hs
    | some suffix => simp only [hs, Symbol.split_text h]
  have hgrouped : (s.suffixGroup b.groupSuffix).Grouped := Branch.grouped_suffixGroup h
  -- at each choice the symbol is read back as it was written by the one before
  refine (symbol_along (P := fun done t => ((s.suffixGroup b.groupSuffix).suffixLeaf done).Grouped ∧
    t = ((s.suffixGroup b.groupSuffix).suffixLeaf done).text) ⟨?_, ?_⟩ ?_).2
  · simpa using hgrouped
  · simpa using hstart
  · rintro done _ suffix hplain ⟨hdone, rfl⟩
    have hlonger := hdone.suffixLeaf (hplain.not_mem (c := ')') (by decide))
    rw [Symbol.split_text hdone]
    rw [Symbol.suffixLeaf_suffixLeaf] at hlonger ⊢
    exact ⟨hlonger, rfl⟩

/-- **Symbols of a group get exactly the suffixes of their branch.**  The record of a branch has the
symbol of the job with the symbol of its app after the group, if the app is one of the table, and
after the leaf `-c` if it is cold, `-condprof` if it is a twin and the number of its subtest if it
has one. -/
theorem expand_groupedSymbols {out : List Job} {g l : String} (h : expand settings [j] = .ok out)
    (hs : j.get? Field.symbol = some (.text (g ++ "(" ++ l ++ ")"))) (hg : '(' ∉ g.toList)
    (hn : g ≠ Symbol.noGroup) (hl : ')' ∉ l.toList) :
    ∃ bs, j.branches settings = .ok bs ∧ List.Forall₂ (fun b r =>
      b.record settings j = .ok r ∧ r.get? Field.symbol =
        some (.text ((g ++ b.groupSuffix) ++ "(" ++ (l ++ b.leafSuffix) ++ ")"))) bs out := by
  have hgrouped : Symbol.Grouped ⟨g, l⟩ := ⟨hn, hg, hl⟩
  obtain ⟨id, bs, hid, hbs, hall⟩ := symbols_of_expand h hs
  refine ⟨bs, hbs, hall.imp fun b r hr => ⟨hr.1, hr.2.trans ?_⟩⟩
  have hid' : id.symbol = (⟨g, l⟩ : Symbol).text := by
    rw [hid, Symbol.text_of_group hn]
  have hb : ((Symbol.suffixGroup ⟨g, l⟩ b.groupSuffix).suffixLeaf b.leafSuffix).group ≠
      Symbol.noGroup := (Branch.grouped_suffixGroup hgrouped).group_ne
  rw [Identity.symbol_along_of_grouped hgrouped hid', Symbol.text_of_group hb]
  rfl

/-- A job of one app that loads pages cold, with its twin, with a parenthesis in its leaf. -/
def groupedSample : Job := ⟨[
  (Field.testName, .text "raptor-tp6m"), (Field.testPlatform, .text "android-hw-p2"),
  (Field.requireSignedExtensions, .bool false), (Field.symbol, .text "Rap(tp6(m)"),
  (Field.description, .text "Raptor tp6m"), (Field.raptorTest, .text "raptor-tp6m"),
  (Field.apps, .list [.text "fenix"]), (Field.pageload, .text "cold"),
  (Field.condprof, .bool true), (Field.raptorSubtests, .list [.text "amazon"])]⟩

theorem expand_groupedSample :
    (groupedSample.get? Field.symbol = some (.text ("Rap" ++ "(" ++ "tp6(m" ++ ")")) ∧
      '(' ∉ "Rap".toList ∧ "Rap" ≠ Symbol.noGroup ∧ ')' ∉ "tp6(m".toList) ∧
    groupedSample.branches {} = .ok [⟨some "fenix", true, false, some (1, "amazon")⟩,
      ⟨some "fenix", true, true, some (1, "amazon")⟩] ∧
    ∃ usual twin, expand {} [groupedSample] = .ok [usual, twin] ∧
      usual.get? Field.symbol = some (.text "Rap-fenix(tp6(m-c-1)") ∧
      twin.get? Field.symbol = some (.text "Rap-fenix(tp6(m-c-condprof-1)") := by
  have hs : groupedSample.get? Field.symbol = some (.text ("Rap" ++ "(" ++ "tp6(m" ++ ")")) := rfl
  have hg : '(' ∉ "Rap".toList := by decide
  have hn : "Rap" ≠ Symbol.noGroup := by decide
  have hl : ')' ∉ "tp6(m".toList := by decide
  have hb : groupedSample.branches {} = .ok [⟨some "fenix", true, false, some (1, "amazon")⟩,
      ⟨some "fenix", true, true, some (1, "amazon")⟩] := by
    decide +kernel
  have hok : (expand {} [groupedSample]).map (fun _ => ()) = .ok () := by decide +kernel
  obtain ⟨out, h, -⟩ := map_eq_ok_iff.1 hok
  obtain ⟨bs, hbs, hall⟩ := expand_groupedSymbols h hs hg hn hl
  cases hb.symm.trans hbs
  obtain ⟨usual, _, ⟨-, husual⟩, hrest, rfl⟩ := List.forall₂_cons_left_iff.1 hall
  obtain ⟨twin, _, ⟨-, htwin⟩, hend, rfl⟩ := List.forall₂_cons_left_iff.1 hrest
  cases List.forall₂_nil_left_iff.1 hend
  exact ⟨⟨hs, hg, hn, hl⟩, hb, usual, twin, h, husual, htwin⟩

/-! ### Symbols without a group -/

/-- A text that shows no placeholder shows none later, unless an app puts something after it. -/
theorem Identity.not_mem_symbol_along (h : '?' ∉ id.symbol.toList)
    (hb : (Symbol.split id.symbol).group ≠ Symbol.noGroup ∨ b.app.bind App.symbol? = none) :
    '?' ∉ (id.along b).symbol.toList := by
  have hstart : '?' ∉ (id.toApp b.app).symbol.toList := by
    rw [symbol_toApp]
    cases ha : b.app.bind App.symbol? with
    | none => exact h
    | some suffix =>
      have hn := hb.resolve_right (ha ▸ Option.some_ne_none suffix)
      obtain ⟨app, -, hsymbol⟩ := Option.bind_eq_some_iff.1 ha
      have hplain := (App.plain_of_symbol? hsymbol).not_mem (c := '?') (by decide)
      refine Symbol.not_mem_text ?_ (Symbol.not_mem_leaf_split h) (by decide)
      rw [Symbol.suffixGroup, String.toList_append, List.mem_append, not_or]
      exact ⟨Symbol.not_mem_group_split h hn, hplain⟩
  refine symbol_along (P := fun _ t => '?' ∉ t.toList) hstart fun _ t suffix hplain ht => ?_
  have hleaf : '?' ∉ ((Symbol.split t).leaf ++ suffix).toList := by
    rw [String.toList_append, List.mem_append, not_or]
    exact ⟨Symbol.not_mem_leaf_split ht, hplain.not_mem (by decide)⟩
  by_cases hn : (Symbol.split t).group = Symbol.noGroup
  · -- the placeholder is not written
    rw [Symbol.text, if_pos (show ((Symbol.split t).suffixLeaf suffix).group = _ from hn)]
    exact hleaf
  · exact Symbol.not_mem_text (Symbol.not_mem_group_split ht hn) hleaf (by decide)

/-- With something after it the placeholder is a group like any other, and stays one. -/
theorem Identity.mem_symbol_along (hn : (Symbol.split id.symbol).group = Symbol.noGroup)
    (ha : b.app.bind App.symbol? = some suffix) : '?' ∈ (id.along b).symbol.toList := by
  obtain ⟨app, -, hsymbol⟩ := Option.bind_eq_some_iff.1 ha
  have hopen : '(' ∉ (Symbol.noGroup ++ ("-" ++ suffix)).toList := by
    rw [String.toList_append, List.mem_append, not_or]
    exact ⟨by decide, (App.plain_of_symbol? hsymbol).not_mem (by decide)⟩
  have hne : Symbol.noGroup ++ ("-" ++ suffix) ≠ Symbol.noGroup := by
    intro h
    simpa using congrArg String.length h
  have hstart : (Symbol.split (id.toApp b.app).symbol).group =
      Symbol.noGroup ++ ("-" ++ suffix) := by
    simp only [symbol_toApp, ha]
    rw [Symbol.text_of_group (by rwa [Symbol.suffixGroup, hn]), Symbol.suffixGroup, hn,
      Symbol.group_split hopen]
  have hend : (Symbol.split (id.along b).symbol).group = Symbol.noGroup ++ ("-" ++ suffix) := by
    refine symbol_along (P := fun _ t => (Symbol.split t).group =
      Symbol.noGroup ++ ("-" ++ suffix)) hstart fun _ t more hplain ht => ?_
    have hgrouped : (Symbol.split t).Grouped := Symbol.grouped_split (ht ▸ hne)
    rw [Symbol.split_text (hgrouped.suffixLeaf (hplain.not_mem (by decide)))]
    exact ht
  refine Symbol.mem_of_mem_group_split ?_ (hend ▸ hne)
  rw [hend]
  simp [Symbol.noGroup]

/-- **When the placeholder shows.**  A symbol that shows no placeholder comes out with one exactly
if it belongs to no group and its record is that of an app of the table. -/
theorem expand_placeholder_iff {out : List Job} (h : expand settings [j] = .ok out)
    (hs : j.get? Field.symbol = some (.text t)) (ht : '?' ∉ t.toList) :
    ∃ bs, j.branches settings = .ok bs ∧ List.Forall₂ (fun b r =>
      b.record settings j = .ok r ∧ ∃ shown, r.get? Field.symbol = some (.text shown) ∧
        ('?' ∈ shown.toList ↔ (Symbol.split t).group = Symbol.noGroup ∧
          ∃ app suffix, b.app = some app ∧ App.symbol? app = some suffix)) bs out := by
  obtain ⟨id, bs, rfl, hbs, hall⟩ := symbols_of_expand h hs
  refine ⟨bs, hbs, hall.imp fun b r hr => ⟨hr.1, _, hr.2, ?_⟩⟩
  constructor
  · intro hshown
    by_contra hno
    refine Identity.not_mem_symbol_along ht ?_ hshown
    by_cases hn : (Symbol.split id.symbol).group = Symbol.noGroup
    · refine .inr (Option.bind_eq_none_iff.2 fun app happ => ?_)
      by_contra hsome
      obtain ⟨suffix, hsuffix⟩ := Option.ne_none_iff_exists'.1 hsome
      exact hno ⟨hn, app, suffix, happ, hsuffix⟩
    · exact .inl hn
  · rintro ⟨hn, app, suffix, happ, hsuffix⟩
    exact Identity.mem_symbol_along hn (by rw [happ, Option.bind_some, hsuffix])

/-- A job for an app of the table, with a symbol that has no group. -/
def ungroupedSample : Job := ⟨[
  (Field.testName, .text "raptor-speedometer"), (Field.testPlatform, .text "linux64/opt"),
  (Field.requireSignedExtensions, .bool false), (Field.symbol, .text "sp"),
  (Field.description, .text "Speedometer"), (Field.apps, .list [.text "chrome"])]⟩

/-- What becomes of it: the placeholder shows. -/
def ungroupedRecord : Job := ⟨[
  (Field.testName, .text "raptor-speedometer-chrome"), (Field.testPlatform, .text "linux64/opt"),
  (Field.requireSignedExtensions, .bool false), (Field.symbol, .text "?-ChR(sp)"),
  (Field.description, .text "Speedometer on Chrome"),
  (Field.tryName, .text "raptor-speedometer-chrome"),
  (Field.mozharness, .mapping [(Field.extraOptions, .list [.text "--app=chrome"])])]⟩

theorem placeholder_ungroupedRecord :
    expand {} [ungroupedSample] = .ok [ungroupedRecord] ∧
      ungroupedSample.get? Field.symbol = some (.text "sp") ∧ '?' ∉ "sp".toList ∧
      ungroupedSample.branches {} = .ok [⟨some "chrome", false, false, none⟩] ∧
      ∃ shown, ungroupedRecord.get? Field.symbol = some (.text shown) ∧ '?' ∈ shown.toList := by
  have h : expand {} [ungroupedSample] = .ok [ungroupedRecord] := by decide +kernel
  have hb : ungroupedSample.branches {} = .ok [⟨some "chrome", false, false, none⟩] := by
    decide +kernel
  have ht : '?' ∉ "sp".toList := by decide
  obtain ⟨bs, hbs, hall⟩ := expand_placeholder_iff h (t := "sp") rfl ht
  cases hb.symm.trans hbs
  obtain ⟨⟨-, shown, hshown, hiff⟩, -⟩ := List.forall₂_cons.1 hall
  exact ⟨h, rfl, ht, hb, shown, hshown, hiff.2 ⟨by decide, "chrome", "ChR", rfl, rfl⟩⟩

end JobExpansion
