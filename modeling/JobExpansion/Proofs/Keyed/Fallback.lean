import JobExpansion.Proofs.Keyed.Choice
import JobExpansion.Proofs.Keyed.Depth
import JobExpansion.Proofs.Pattern.Whole

/-!
# The default as a fallback

As a pattern `default` spells out that word, so it matches no other text. It is taken when the
attribute has no text, and when no other key fits the text it has (`takes_default_iff`). A keyed
value with a default everywhere fails for want of a choice only where there are too many, or where
a key is no pattern.
-/

namespace JobExpansion.Keyed

variable {text key : String} {es : Entries} {v w : Value} {t : Trouble}

/-- The alternative of a key is taken: whatever stands there is the choice. -/
def Takes (text : Option String) (es : Entries) (key : String) : Prop :=
  ∀ w, choose text (es.set key w) = .ok w

/-- All other keys are patterns that do not match, and none is the text itself. -/
structure NothingFits (text : String) (es : Entries) : Prop where
  noKey : text ∉ es.keys
  patterns : ∀ key ∈ es.keys, IsPattern key
  noMatch : ∀ key ∈ es.keys, key ≠ defaultKey → ¬ Matches key text

/-! ### The default as a pattern -/

theorem compile_default :
    Pattern.compile defaultKey = .ok (Regex.enclosed (Regex.literal defaultKey.toList)) := rfl

/-- As a pattern the default matches its own name only. -/
theorem matches_default_iff : Matches defaultKey text ↔ text = defaultKey := by
  have haccepts : Pattern.accepts (Regex.enclosed (Regex.literal defaultKey.toList)) text = true ↔
      text = defaultKey := by
    rw [Pattern.accepts, Regex.matchesIn_enclosed, Regex.matchesWhole_literal, String.toList_inj]
  constructor
  · rintro ⟨r, hr, hm⟩
    cases compile_default.symm.trans hr
    exact haccepts.1 hm
  · exact fun h => ⟨_, compile_default, haccepts.2 h⟩

/-- No row of the default is among those that match. -/
theorem key_ne_default_of_fitting {row : String × Value} (ht : text ≠ defaultKey)
    (h : row ∈ fitting text es) : row.1 ≠ defaultKey := fun hk =>
  ht (matches_default_iff.1 (hk ▸ (mem_fitting.1 h).2))

/-- What stands under the default does not count among the rows that match. -/
theorem fitting_set_default (ht : text ≠ defaultKey) (w : Value) (es : Entries) :
    fitting text (es.set defaultKey w) = fitting text es := by
  have hno : matchesText text defaultKey = false :=
    Bool.eq_false_iff.2 fun hm => ht (matches_default_iff.1 (matchesText_iff.1 hm))
  induction es with
  | nil => simp [fitting, hno]
  | cons row es ih =>
    obtain ⟨k, u⟩ := row
    unfold fitting at ih ⊢
    by_cases hk : k = defaultKey
    · subst hk
      simp [Entries.set, hno]
    · simp [Entries.set, hk, List.filter_cons, ih]

theorem fitting_erase_default (ht : text ≠ defaultKey) (es : Entries) :
    fitting text (es.erase defaultKey) = fitting text es := by
  rw [fitting, fitting, Entries.erase, List.filter_filter]
  refine List.filter_congr fun row hrow => ?_
  cases hm : matchesText text row.1 with
  | false => rfl
  | true =>
    have hne := key_ne_default_of_fitting ht (mem_fitting.2 ⟨hrow, matchesText_iff.1 hm⟩)
    simp [hne]

/-! ### The ways a choice goes -/

theorem forall_keys_iff {P : String → Prop} : (∀ row ∈ es, P row.1) ↔ ∀ key ∈ es.keys, P key := by
  rw [Entries.keys, List.forall_mem_map]

/-- A choice for a text goes by the key of the text, or stops at a key that is no pattern, or goes
by the rows that match. -/
theorem choose_some_cases (text : String) (es : Entries) :
    (∃ v, es.lookup text = some v ∧ choose (some text) es = .ok v) ∨
    (es.lookup text = none ∧ (¬ ∀ key ∈ es.keys, IsPattern key) ∧
      ∃ pattern reason, choose (some text) es = .error (.invalid pattern reason)) ∨
    (es.lookup text = none ∧ (∀ key ∈ es.keys, IsPattern key) ∧
      choose (some text) es =
        match fitting text es with
        | [] => fallback (.noMatch text) es
        | [row] => .ok row.2
        | _ :: _ :: _ => .error (.ambiguous text)) := by
  simp only [choose_some, ← forall_keys_iff]
  cases hkey : es.lookup text with
  | some v => exact .inl ⟨v, rfl, chooseFor_of_lookup hkey⟩
  | none =>
    by_cases hall : ∀ row ∈ es, IsPattern row.1
    · exact .inr (.inr ⟨rfl, hall, chooseFor_of_isPattern hkey hall⟩)
    · obtain ⟨row, -, fault, -, hc⟩ := chooseFor_of_not_isPattern hkey (by simpa using hall)
      exact .inr (.inl ⟨rfl, hall, _, _, hc⟩)

/-- A choice is ambiguous if all keys are patterns and several match. -/
theorem choose_eq_ambiguous_iff {text' : String} :
    choose (some text) es = .error (.ambiguous text') ↔
      text' = text ∧ es.lookup text = none ∧ (∀ key ∈ es.keys, IsPattern key) ∧
        2 ≤ (fitting text es).length := by
  rcases choose_some_cases text es with ⟨v, hkey, hc⟩ | ⟨hkey, hno, p, m, hc⟩ | ⟨hkey, hall, hc⟩
  · simp [hc, hkey]
  · simp only [hc, Except.error.injEq, reduceCtorEq, false_iff]
    exact fun h => hno h.2.2.1
  · rw [hc]
    rcases fitting text es with _ | ⟨first, _ | ⟨second, rest⟩⟩
    · cases hd : es.lookup defaultKey <;> simp [fallback, hd]
    · simp
    · simpa [hkey, eq_comm] using fun _ => hall

/-- With a default a choice fails only where there are too many or a key is no pattern. -/
theorem trouble_of_default {text : Option String} (hd : defaultKey ∈ es.keys)
    (h : choose text es = .error t) :
    (∃ text', t = .ambiguous text') ∨ ∃ pattern reason, t = .invalid pattern reason := by
  obtain ⟨v, hv⟩ := Option.isSome_iff_exists.1 ((Entries.lookup_isSome_iff es defaultKey).2 hd)
  cases text with
  | none =>
    rw [choose_none, fallback_of_lookup hv] at h
    cases h
  | some text =>
    rcases choose_some_cases text es with ⟨u, -, hc⟩ | ⟨-, -, p, m, hc⟩ | ⟨-, -, hc⟩ <;>
      rw [hc] at h
    · cases h
    · cases h
      exact .inr ⟨p, m, rfl⟩
    · rw [fallback_of_lookup hv] at h
      rcases hfits : fitting text es with _ | ⟨first, _ | ⟨second, rest⟩⟩ <;> rw [hfits] at h <;>
        cases h
      exact .inl ⟨text, rfl⟩

/-! ### When the default is taken -/

/-- Without a text the default is taken. -/
theorem takes_default_of_none (es : Entries) : Takes none es defaultKey := fun w => by
  rw [choose_none, fallback_of_lookup (Entries.lookup_set_self defaultKey w es)]

theorem NothingFits.fitting_eq_nil (h : NothingFits text es) : fitting text es = [] := by
  refine List.eq_nil_iff_forall_not_mem.2 fun row hrow => ?_
  obtain ⟨hmem, hm⟩ := mem_fitting.1 hrow
  have hkey : row.1 ∈ es.keys := List.mem_map_of_mem hmem
  by_cases hd : row.1 = defaultKey
  · -- a default that matches has the text as its key
    rw [hd] at hkey hm
    exact h.noKey (matches_default_iff.1 hm ▸ hkey)
  · exact h.noMatch row.1 hkey hd hm

/-- If nothing fits, the default decides. -/
theorem NothingFits.choose (h : NothingFits text es) :
    choose (some text) es = fallback (.noMatch text) es := by
  rw [choose_some, chooseFor_of_isPattern ((Entries.lookup_eq_none_iff es text).2 h.noKey)
    (forall_keys_iff.2 h.patterns), h.fitting_eq_nil]

theorem keys_set_of_mem (h : key ∈ es.keys) (w : Value) : (es.set key w).keys = es.keys := by
  rw [Entries.keys_set, if_pos h]

theorem NothingFits.set_default (h : NothingFits text es) (hd : defaultKey ∈ es.keys) (w : Value) :
    NothingFits text (es.set defaultKey w) := by
  obtain ⟨hkey, hpatterns, hmatch⟩ := h
  rw [← keys_set_of_mem hd w] at hkey hpatterns hmatch
  exact ⟨hkey, hpatterns, hmatch⟩

theorem ne_list_singleton (v : Value) : v ≠ .list [v] := fun h => by
  have := congrArg sizeOf h
  simp only [Value.list.sizeOf_spec, List.cons.sizeOf_spec, List.nil.sizeOf_spec] at this
  omega

/-- Where something fits, there is something under the default that the choice does not give. -/
theorem NothingFits.of_takes (ht : text ≠ defaultKey) (hd : defaultKey ∈ es.keys)
    (h : Takes (some text) es defaultKey) : NothingFits text es := by
  have hlookup (w : Value) : (es.set defaultKey w).lookup text = es.lookup text := by
    rw [Entries.lookup_set, if_neg ht]
  cases hkey : es.lookup text with
  | some v =>
    have hc := h (.list [v])
    rw [choose_some, chooseFor_of_lookup ((hlookup _).trans hkey), Except.ok.injEq] at hc
    exact absurd hc (ne_list_singleton v)
  | none =>
    have hscan (w : Value) := (choose_some_cases text (es.set defaultKey w)).resolve_left fun hu =>
      let ⟨u, hu, _⟩ := hu
      Option.some_ne_none u (hu.symm.trans ((hlookup w).trans hkey))
    simp only [h _, keys_set_of_mem hd, fitting_set_default ht, reduceCtorEq, exists_const,
      and_false, false_or] at hscan
    refine ⟨(Entries.lookup_eq_none_iff es text).1 hkey, (hscan .null).2.1, fun key hmem _ hm => ?_⟩
    obtain ⟨row, hrow, rfl⟩ := List.mem_map.1 hmem
    have hfit := mem_fitting.2 ⟨hrow, hm⟩
    rcases hfits : fitting text es with _ | ⟨first, _ | ⟨second, rest⟩⟩ <;>
      simp only [hfits] at hfit hscan
    · cases hfit
    · exact ne_list_singleton first.2 (Except.ok.inj (hscan (.list [first.2])).2.2).symm
    · cases (hscan .null).2.2

/-- **The default is taken exactly if nothing else fits.** -/
theorem takes_default_iff (ht : text ≠ defaultKey) (hd : defaultKey ∈ es.keys) :
    Takes (some text) es defaultKey ↔ NothingFits text es := by
  refine ⟨.of_takes ht hd, fun h w => ?_⟩
  rw [(h.set_default hd w).choose, fallback_of_lookup (Entries.lookup_set_self defaultKey w es)]

/-- The default does not make a choice ambiguous. -/
theorem ambiguous_without_default {text' : String} (ht : text ≠ defaultKey)
    (h : choose (some text) es = .error (.ambiguous text')) :
    choose (some text) (es.erase defaultKey) = .error (.ambiguous text') := by
  obtain ⟨htext, hkey, hall, hfits⟩ := choose_eq_ambiguous_iff.1 h
  refine choose_eq_ambiguous_iff.2 ⟨htext, by rw [Entries.lookup_erase, hkey, ite_self], ?_, ?_⟩
  · rw [Entries.keys_erase]
    exact fun key hmem => hall key (List.mem_filter.1 hmem).1
  · rwa [fitting_erase_default ht]

/-! ### The chain of chosen alternatives -/

/-- An evaluation under some attributes gets from one value to another. -/
inductive Reaches (attributes : Entries) : Value → Value → Prop where
  | refl (v : Value) : Reaches attributes v v
  | step {v w x : Value} {attr : String} {es : Entries} (hv : parts? v = some (attr, es))
      (hw : choose ((attributes.lookup attr).bind attributeText?) es = .ok w)
      (h : Reaches attributes w x) : Reaches attributes v x

/-- A keyed value has a default, and so do all keyed values among its alternatives. -/
inductive Defaulted : Value → Prop where
  | plain {v : Value} (hv : parts? v = none) : Defaulted v
  | keyed {v : Value} {attr : String} {es : Entries} (hv : parts? v = some (attr, es))
      (hd : defaultKey ∈ es.keys) (h : ∀ row ∈ es, Defaulted row.2) : Defaulted v

variable {item attr : String} {attributes : Entries} {f : Failure}

theorem Reaches.evaluate (h : Reaches attributes v w) :
    evaluate item attributes v = evaluate item attributes w := by
  induction h with
  | refl v => rfl
  | step hv hw _ ih => rw [evaluate_of_keyed hv, hw, ← ih]

/-- An evaluation fails where it gets to a choice that fails. -/
theorem evaluate_eq_error_iff :
    evaluate item attributes v = .error f ↔
      f.item = item ∧ ∃ w es, Reaches attributes v w ∧ parts? w = some (f.attr, es) ∧
        choose ((attributes.lookup f.attr).bind attributeText?) es = .error f.trouble := by
  constructor
  · intro h
    induction v using parts_induction with
    | plain v hv =>
      rw [evaluate_of_not_keyed hv] at h
      cases h
    | keyed v attr es hv ih =>
      rw [evaluate_of_keyed hv] at h
      cases hc : choose ((attributes.lookup attr).bind attributeText?) es with
      | error trouble =>
        rw [hc] at h
        cases h
        exact ⟨rfl, v, es, .refl v, hv, hc⟩
      | ok w =>
        rw [hc] at h
        obtain ⟨key, hmem⟩ := mem_of_choose hc
        obtain ⟨hitem, x, fs, hx, hparts, hfail⟩ := ih key w hmem h
        exact ⟨hitem, x, fs, .step hv hc hx, hparts, hfail⟩
  · rintro ⟨rfl, w, es, hw, hparts, hc⟩
    rw [hw.evaluate, evaluate_of_keyed hparts, hc]

theorem Defaulted.of_reaches (h : Defaulted v) (hw : Reaches attributes v w) : Defaulted w := by
  induction hw with
  | refl v => exact h
  | step hv hc _ ih =>
    cases h with
    | plain hn =>
      rw [hv] at hn
      cases hn
    | keyed hv' _ hes =>
      cases hv.symm.trans hv'
      obtain ⟨key, hmem⟩ := mem_of_choose hc
      exact ih (hes _ hmem)

theorem Defaulted.mem_keys (h : Defaulted v) (hv : parts? v = some (attr, es)) :
    defaultKey ∈ es.keys := by
  cases h with
  | plain hn =>
    rw [hv] at hn
    cases hn
  | keyed hv' hd _ =>
    cases hv.symm.trans hv'
    exact hd

/-! ### The rules of a fallback -/

/-- The default of some alternatives is the fallback for an attribute, which may have a value. -/
structure FallsBack (value : Option Value) (es : Entries) : Prop where
  /-- It is taken if the attribute has no text, and missed if it is not there. -/
  textless : (∀ u, value = some u → u.tag ≠ .string ∧ u.tag ≠ .boolean ∧ u.tag ≠ .number) →
    Takes (value.bind attributeText?) es defaultKey ∧
      (defaultKey ∉ es.keys → choose (value.bind attributeText?) es = .error .missing)
  /-- For another text than its own name it is taken if nothing else fits. -/
  otherText : ∀ text, value.bind attributeText? = some text → text ≠ defaultKey →
    defaultKey ∈ es.keys → (Takes (some text) es defaultKey ↔ NothingFits text es)
  /-- It is missed if it is not there. -/
  missed : ∀ text, value.bind attributeText? = some text → defaultKey ∉ es.keys →
    NothingFits text es → choose (some text) es = .error (.noMatch text)
  /-- It is no match, and it never makes a choice ambiguous. -/
  neverMatches : ∀ text, text ≠ defaultKey → ¬ Matches defaultKey text ∧
    ∀ text', choose (some text) es = .error (.ambiguous text') →
      choose (some text) (es.erase defaultKey) = .error (.ambiguous text')
  /-- If it stands alone, the short way gives what these rules give. -/
  lone : ∀ text v, es = [(defaultKey, v)] → choose text es = choose.chooseAmong text es

theorem attributeText?_eq_none_iff :
    attributeText? v = none ↔ v.tag ≠ .string ∧ v.tag ≠ .boolean ∧ v.tag ≠ .number := by
  cases v <;> simp [attributeText?, Value.tag]

theorem fallsBack (value : Option Value) (es : Entries) : FallsBack value es where
  textless h := by
    have hnone : value.bind attributeText? = none :=
      Option.bind_eq_none_iff.2 fun u hu => attributeText?_eq_none_iff.2 (h u hu)
    rw [hnone]
    refine ⟨takes_default_of_none es, fun hd => ?_⟩
    rw [choose_none, fallback_of_none ((Entries.lookup_eq_none_iff es defaultKey).2 hd)]
  otherText text _ ht hd := takes_default_iff ht hd
  missed text _ hd hfits := by
    rw [hfits.choose, fallback_of_none ((Entries.lookup_eq_none_iff es defaultKey).2 hd)]
  neverMatches text ht :=
    ⟨fun hm => ht (matches_default_iff.1 hm), fun text' => ambiguous_without_default ht⟩
  lone text _ _ := choose_eq_chooseAmong text es

/-- An evaluation goes by the choices: the value of a keyed value is that of the chosen alternative,
the failure of a choice is that of the evaluation, and any other value stands for itself. -/
structure GoesByChoices (item : String) (attributes : Entries) (w : Value)
    (e : Except Failure Value) : Prop where
  plain : parts? w = none → e = .ok w
  chosen : ∀ attr es u, parts? w = some (attr, es) →
    choose ((attributes.lookup attr).bind attributeText?) es = .ok u →
    e = evaluate item attributes u
  failed : ∀ attr es trouble, parts? w = some (attr, es) →
    choose ((attributes.lookup attr).bind attributeText?) es = .error trouble →
    e = .error ⟨attr, item, trouble⟩

theorem goesByChoices (item : String) (attributes : Entries) (w : Value) :
    GoesByChoices item attributes w (evaluate item attributes w) where
  plain hw := evaluate_of_not_keyed hw
  chosen attr es u hw hu := by rw [evaluate_of_keyed hw, hu]
  failed attr es trouble hw ht := by rw [evaluate_of_keyed hw, ht]

/-- **The default is exactly the fallback.**  The value of an evaluation is that of each value it
gets to, by the choice there, and at every keyed value among them the default is the fallback. An
evaluation misses an alternative only where it gets to a keyed value without a default; with a
default in all keyed values, at any depth, it fails only where several keys match or a key is no
pattern. -/
theorem default_is_fallback (item : String) (attributes : Entries) (v : Value) :
    (∀ w, Reaches attributes v w →
      evaluate item attributes v = evaluate item attributes w ∧
      GoesByChoices item attributes w (evaluate item attributes v) ∧
      ∀ attr es, parts? w = some (attr, es) → FallsBack (attributes.lookup attr) es) ∧
    (∀ f, evaluate item attributes v = .error f →
      (f.trouble = .missing ∨ ∃ text, f.trouble = .noMatch text) →
      f.item = item ∧ ∃ w es, Reaches attributes v w ∧ parts? w = some (f.attr, es) ∧
        choose ((attributes.lookup f.attr).bind attributeText?) es = .error f.trouble ∧
        defaultKey ∉ es.keys) ∧
    (Defaulted v → ∀ f, evaluate item attributes v = .error f →
      (∃ text, f.trouble = .ambiguous text) ∨
        ∃ pattern reason, f.trouble = .invalid pattern reason) := by
  refine ⟨fun w hw => ⟨hw.evaluate, ?_, fun attr es _ => fallsBack _ es⟩, fun f hf hmissed => ?_,
    fun hv f hf => ?_⟩
  · rw [hw.evaluate]
    exact goesByChoices item attributes w
  · obtain ⟨hitem, w, es, hw, hparts, hc⟩ := evaluate_eq_error_iff.1 hf
    refine ⟨hitem, w, es, hw, hparts, hc, fun hd => ?_⟩
    rcases trouble_of_default hd hc with ⟨text, ht⟩ | ⟨pattern, reason, ht⟩ <;> simp [ht] at hmissed
  · obtain ⟨-, w, es, hw, hparts, hc⟩ := evaluate_eq_error_iff.1 hf
    exact trouble_of_default ((hv.of_reaches hw).mem_keys hparts) hc

/-- Timeouts by platform. -/
def platformTimeouts : Entries :=
  [("linux.*", .number (.int 2)), ("default", .number (.int 3))]

/-- Timeouts by app, and by platform for the apps that are not named. -/
def appTimeouts : Entries :=
  [("fenix", .number (.int 1)), ("default", .mapping [("by-test-platform",
    .mapping platformTimeouts)])]

/-- The attributes of a job without an app, on a platform that no pattern matches. -/
def timeoutAttributes : Entries := [("app", .null), ("test-platform", .text "windows")]

theorem nothingFits_platformTimeouts : NothingFits "windows" platformTimeouts := by
  have hno : ¬ Matches "linux.*" "windows" := fun h =>
    absurd (matchesText_iff.2 h) (by decide +kernel)
  refine ⟨by decide, ?_, ?_⟩ <;> rw [platformTimeouts, Entries.keys_cons, Entries.keys_cons,
    Entries.keys_nil]
  · exact List.forall_mem_cons.2 ⟨⟨_, rfl⟩, List.forall_mem_singleton.2 isPattern_default⟩
  · exact List.forall_mem_cons.2 ⟨fun _ => hno, List.forall_mem_singleton.2 fun h => absurd rfl h⟩

theorem default_timeouts :
    Takes none appTimeouts defaultKey ∧ Takes (some "windows") platformTimeouts defaultKey ∧
    evaluate "t" timeoutAttributes (.mapping [("by-app", .mapping appTimeouts)]) =
      .ok (.number (.int 3)) ∧
    (∃ w es, Reaches timeoutAttributes (.mapping [("by-app", .mapping (appTimeouts.take 1))]) w ∧
      parts? w = some ("app", es) ∧
      choose ((timeoutAttributes.lookup "app").bind attributeText?) es = .error .missing ∧
      defaultKey ∉ es.keys) ∧
    ∀ f, evaluate "t" timeoutAttributes (.mapping [("by-app", .mapping appTimeouts)]) = .error f →
      (∃ text, f.trouble = .ambiguous text) ∨
        ∃ pattern reason, f.trouble = .invalid pattern reason := by
  obtain ⟨hreached, -, hdefaulted⟩ :=
    default_is_fallback "t" timeoutAttributes (.mapping [("by-app", .mapping appTimeouts)])
  obtain ⟨-, -, hfalls⟩ := hreached _ (.refl _)
  have houter : Takes none appTimeouts defaultKey :=
    ((hfalls "app" appTimeouts rfl).textless fun u hu => by cases hu; decide).1
  have hplatform : Reaches timeoutAttributes (.mapping [("by-app", .mapping appTimeouts)])
      (.mapping [("by-test-platform", .mapping platformTimeouts)]) := .step rfl (houter _) (.refl _)
  have hinner : Takes (some "windows") platformTimeouts defaultKey :=
    (((hreached _ hplatform).2.2 "test-platform" platformTimeouts rfl).otherText "windows" rfl
      (by decide) (by decide)).2 nothingFits_platformTimeouts
  have hvalue : evaluate "t" timeoutAttributes (.mapping [("by-app", .mapping appTimeouts)]) =
      .ok (.number (.int 3)) := by
    -- the evaluation gets to the default of the platforms, which stands for itself
    have hend : Reaches timeoutAttributes (.mapping [("by-app", .mapping appTimeouts)])
        (.number (.int 3)) := .step rfl (houter _) (.step rfl (hinner _) (.refl _))
    exact (hreached _ hend).2.1.plain rfl
  have hmissing : evaluate "t" timeoutAttributes
      (.mapping [("by-app", .mapping (appTimeouts.take 1))]) = .error ⟨"app", "t", .missing⟩ := by
    rw [evaluate_of_keyed (show parts? _ = some ("app", appTimeouts.take 1) from rfl)]
    rfl
  obtain ⟨-, hmissed, -⟩ := default_is_fallback "t" timeoutAttributes
    (.mapping [("by-app", .mapping (appTimeouts.take 1))])
  refine ⟨houter, hinner, hvalue, (hmissed _ hmissing (.inl rfl)).2, hdefaulted ?_⟩
  have hplatforms : Defaulted (.mapping [("by-test-platform", .mapping platformTimeouts)]) :=
    .keyed rfl (by decide)
      (List.forall_mem_cons.2 ⟨.plain rfl, List.forall_mem_singleton.2 (.plain rfl)⟩)
  exact .keyed rfl (by decide)
    (List.forall_mem_cons.2 ⟨.plain rfl, List.forall_mem_singleton.2 hplatforms⟩)

end JobExpansion.Keyed
