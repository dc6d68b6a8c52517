import Mathlib.Data.List.Nodup
import JobExpansion.Proofs.Keyed.Choice
import JobExpansion.Proofs.Keyed.Depth
import JobExpansion.Proofs.Value.Rows

/-!
# The order of alternatives

No choice looks at where an alternative stands. So keyed values that differ in the order of their
alternatives only, at any depth, come to the same value or to failures of the same kind
(`evaluate_of_reordered`). Two alternatives that match are never settled by their order: they are
too many, unless a key that is no pattern stops the choice before.
-/

namespace JobExpansion

/-- Two outcomes of steps that may fail: both succeed or both fail, with related results. -/
inductive Parallel {ε α : Type} (E : ε → ε → Prop) (R : α → α → Prop) :
    Except ε α → Except ε α → Prop where
  | ok {a b : α} (h : R a b) : Parallel E R (.ok a) (.ok b)
  | error {e f : ε} (h : E e f) : Parallel E R (.error e) (.error f)

theorem Parallel.cases {ε α : Type} {E : ε → ε → Prop} {R : α → α → Prop} {x y : Except ε α}
    (h : Parallel E R x y) : (∃ a b, x = .ok a ∧ y = .ok b ∧ R a b) ∨
      ∃ e f, x = .error e ∧ y = .error f ∧ E e f := by
  cases h with
  | ok h => exact .inl ⟨_, _, rfl, rfl, h⟩
  | error h => exact .inr ⟨_, _, rfl, rfl, h⟩

namespace Keyed

/-- Troubles of one kind, with the same text; which of several keys is no pattern does not count. -/
inductive Trouble.Alike : Trouble → Trouble → Prop where
  | refl (t : Trouble) : Alike t t
  | invalid (p q : String) (m n : String) : Alike (.invalid p m) (.invalid q n)

/-- Failures of one kind, for the same attribute and item. -/
structure Failure.Alike (f g : Failure) : Prop where
  attr : f.attr = g.attr
  item : f.item = g.item
  trouble : f.trouble.Alike g.trouble

/-- A value with the alternatives of the keyed values it is built from in some other order, at any
depth. The keys of a mapping being different, a key tells which alternatives belong together. -/
inductive Reordered : Value → Value → Prop where
  | plain {v : Value} (hv : parts? v = none) : Reordered v v
  | keyed {v w : Value} {attr : String} {es fs : Entries} (hv : parts? v = some (attr, es))
      (hw : parts? w = some (attr, fs)) (hkeys : es.keys.Perm fs.keys)
      (hvalues : ∀ key a b, (key, a) ∈ es → (key, b) ∈ fs → Reordered a b) : Reordered v w

variable {text : String} {es fs : Entries} {R : Value → Value → Prop} {t : Trouble}

/-! ### Rows with the same keys -/

/-- Rows with the same keys, and related values under each. -/
structure SameRows (R : Value → Value → Prop) (es fs : Entries) : Prop where
  keys : es.keys.Perm fs.keys
  values : ∀ key a b, (key, a) ∈ es → (key, b) ∈ fs → R a b

theorem SameRows.lookup (h : SameRows R es fs) (key : String) :
    (es.lookup key = none ∧ fs.lookup key = none) ∨
      ∃ a b, es.lookup key = some a ∧ fs.lookup key = some b ∧ R a b := by
  by_cases hk : key ∈ es.keys
  · obtain ⟨a, ha⟩ := Option.isSome_iff_exists.1 ((Entries.lookup_isSome_iff es key).2 hk)
    obtain ⟨b, hb⟩ := Option.isSome_iff_exists.1
      ((Entries.lookup_isSome_iff fs key).2 (h.keys.mem_iff.1 hk))
    exact .inr ⟨a, b, ha, hb, h.values key a b (Entries.mem_of_lookup ha)
      (Entries.mem_of_lookup hb)⟩
  · exact .inl ⟨(Entries.lookup_eq_none_iff es key).2 hk,
      (Entries.lookup_eq_none_iff fs key).2 fun hf => hk (h.keys.mem_iff.2 hf)⟩

/-- What holds of the keys of some rows holds of those of the others. -/
theorem SameRows.forall_keys (h : SameRows R es fs) {P : String → Prop}
    (hall : ∀ row ∈ es, P row.1) : ∀ row ∈ fs, P row.1 := by
  intro row hrow
  have hkey : row.1 ∈ es.keys := h.keys.mem_iff.2 (List.mem_map_of_mem hrow)
  obtain ⟨other, hother, he⟩ := List.mem_map.1 hkey
  exact he ▸ hall other hother

theorem SameRows.fallback (h : SameRows R es fs) (t : Trouble) :
    Parallel Trouble.Alike R (fallback t es) (fallback t fs) := by
  rcases h.lookup defaultKey with ⟨he, hf⟩ | ⟨a, b, ha, hb, hab⟩
  · rw [fallback_of_none he, fallback_of_none hf]
    exact .error (.refl t)
  · rw [fallback_of_lookup ha, fallback_of_lookup hb]
    exact .ok hab

/-- The rows that match have the same keys on both sides, too. -/
theorem SameRows.fitting (h : SameRows R es fs) (text : String) :
    SameRows R (fitting text es) (fitting text fs) where
  keys := by
    rw [keys_fitting, keys_fitting]
    exact h.keys.filter _
  values := fun key a b ha hb => h.values key a b (mem_fitting.1 ha).1 (mem_fitting.1 hb).1

/-! ### Choices -/

theorem SameRows.chooseFor_of_isPattern (h : SameRows R es fs) (he : es.lookup text = none)
    (hf : fs.lookup text = none) (hall : ∀ row ∈ es, IsPattern row.1) :
    Parallel Trouble.Alike R (chooseFor text es) (chooseFor text fs) := by
  rw [Keyed.chooseFor_of_isPattern he hall, Keyed.chooseFor_of_isPattern hf (h.forall_keys hall)]
  have hfit := h.fitting text
  have hlength : (Keyed.fitting text es).length = (Keyed.fitting text fs).length := by
    simpa [Entries.keys] using hfit.keys.length_eq
  -- as many rows match on both sides: none, one under the same key, or more
  rcases hes : Keyed.fitting text es with _ | ⟨⟨p, a⟩, _ | ⟨row, rest⟩⟩ <;>
    rcases hfs : Keyed.fitting text fs with _ | ⟨⟨q, b⟩, _ | ⟨row', rest'⟩⟩ <;>
      rw [hes, hfs] at hlength
  case nil.nil => exact h.fallback _
  case cons.nil.cons.nil =>
    rw [hes, hfs] at hfit
    obtain rfl : p = q := by simpa [Entries.keys] using hfit.keys
    exact .ok (hfit.values p a b List.mem_cons_self List.mem_cons_self)
  case cons.cons.cons.cons => exact .error (.refl _)
  all_goals simp at hlength

theorem SameRows.chooseFor (h : SameRows R es fs) (text : String) :
    Parallel Trouble.Alike R (chooseFor text es) (chooseFor text fs) := by
  rcases h.lookup text with ⟨he, hf⟩ | ⟨a, b, ha, hb, hab⟩
  · by_cases hall : ∀ row ∈ es, IsPattern row.1
    · exact h.chooseFor_of_isPattern he hf hall
    · -- some key is no pattern, and it is there on both sides
      have hno : ¬ ∀ row ∈ fs, IsPattern row.1 := fun hfs =>
        hall (SameRows.forall_keys ⟨h.keys.symm, fun k a b ha hb => h.values k b a hb ha⟩ hfs)
      obtain ⟨p, -, m, -, hp⟩ := chooseFor_of_not_isPattern he (by simpa using hall)
      obtain ⟨q, -, n, -, hq⟩ := chooseFor_of_not_isPattern hf (by simpa using hno)
      rw [hp, hq]
      exact .error (.invalid ..)
  · rw [chooseFor_of_lookup ha, chooseFor_of_lookup hb]
    exact .ok hab

theorem SameRows.choose (h : SameRows R es fs) (key : Option String) :
    Parallel Trouble.Alike R (choose key es) (choose key fs) := by
  cases key with
  | none =>
    rw [choose_none, choose_none]
    exact h.fallback _
  | some text =>
    rw [choose_some, choose_some]
    exact h.chooseFor text

/-- Alternatives that both match are too many, or a key is no pattern. -/
theorem choose_of_two_matches {row other : String × Value} (h : es.lookup text = none)
    (hrow : row ∈ es) (hother : other ∈ es) (hne : row ≠ other) (hm : Matches row.1 text)
    (hm' : Matches other.1 text) :
    ((∀ row ∈ es, IsPattern row.1) ∧ choose (some text) es = .error (.ambiguous text)) ∨
      ∃ bad ∈ es, ∃ fault, Pattern.compile bad.1 = .error fault ∧
        choose (some text) es = .error (.invalid bad.1 fault.message) := by
  rw [choose_some]
  by_cases hall : ∀ row ∈ es, IsPattern row.1
  · refine .inl ⟨hall, ?_⟩
    have hrow := mem_fitting.2 ⟨hrow, hm⟩
    have hother := mem_fitting.2 ⟨hother, hm'⟩
    rw [chooseFor_of_isPattern h hall]
    rcases hfit : fitting text es with _ | ⟨first, _ | ⟨second, rest⟩⟩
    · rw [hfit] at hrow
      cases hrow
    · rw [hfit, List.mem_singleton] at hrow hother
      exact absurd (hrow.trans hother.symm) hne
    · rfl
  · exact .inr (chooseFor_of_not_isPattern h (by simpa using hall))

/-! ### Evaluations -/

section Evaluation

variable {item attr : String} {attributes : Entries} {v w : Value}

theorem Reordered.evaluate (item : String) (attributes : Entries) (h : Reordered v w) :
    Parallel Failure.Alike Eq (evaluate item attributes v) (evaluate item attributes w) := by
  induction h with
  | plain hv =>
    rw [evaluate_of_not_keyed hv]
    exact .ok rfl
  | @keyed v w attr es fs hv hw hkeys _ ih =>
    rw [evaluate_of_keyed hv, evaluate_of_keyed hw]
    have hrows : SameRows (fun a b => Parallel Failure.Alike Eq (Keyed.evaluate item attributes a)
        (Keyed.evaluate item attributes b)) es fs := ⟨hkeys, ih⟩
    rcases (hrows.choose ((attributes.lookup attr).bind attributeText?)).cases with
      ⟨a, b, ha, hb, h⟩ | ⟨t, u, ht, hu, h⟩
    · rw [ha, hb]
      exact h
    · rw [ht, hu]
      exact .error ⟨rfl, rfl, h⟩

/-! ### Permutations -/

/-- In a well-formed keyed value each key has one alternative, which is well formed. -/
theorem alternatives_of_wellFormed (h : v.WellFormed) (hv : parts? v = some (attr, es)) :
    es.keys.Nodup ∧ ∀ row ∈ es, row.2.WellFormed := by
  obtain ⟨key, -, rfl⟩ := parts?_eq_some_iff.1 hv
  obtain ⟨-, ⟨hn, hes⟩, -⟩ := h
  exact ⟨hn, fun row hrow => Entries.wellFormed_of_mem hes hrow⟩

theorem eq_of_nodup_keys {key : String} {a b : Value} (hn : es.keys.Nodup) (ha : (key, a) ∈ es)
    (hb : (key, b) ∈ es) : a = b :=
  congrArg Prod.snd (List.inj_on_of_nodup_map hn ha hb rfl)

theorem Reordered.refl (h : v.WellFormed) : Reordered v v := by
  induction v using parts_induction with
  | plain v hv => exact .plain hv
  | keyed v attr es hv ih =>
    obtain ⟨hn, hes⟩ := alternatives_of_wellFormed h hv
    refine .keyed hv hv (List.Perm.refl _) fun key a b ha hb => ?_
    cases eq_of_nodup_keys hn ha hb
    exact ih key a ha (hes _ ha)

/-- A permutation of the alternatives of a well-formed value. -/
theorem Reordered.of_perm (h : v.WellFormed) (hv : parts? v = some (attr, es))
    (hw : parts? w = some (attr, fs)) (hperm : es.Perm fs) : Reordered v w := by
  obtain ⟨hn, hes⟩ := alternatives_of_wellFormed h hv
  refine .keyed hv hw (hperm.map _) fun key a b ha hb => ?_
  cases eq_of_nodup_keys hn ha (hperm.mem_iff.2 hb)
  exact .refl (hes _ ha)

/-- **The order of alternatives does not count.**  Whatever the order in which the alternatives of
a value stand, at any depth, it evaluates to the same or fails in the same way. Two alternatives
that match the text of an attribute, none having just that key, are too many if all keys are
patterns; if not, one that is none is told. -/
theorem evaluate_of_reordered (item : String) (attributes : Entries) (v : Value) :
    (∀ w, Reordered v w →
      Parallel Failure.Alike Eq (evaluate item attributes v) (evaluate item attributes w)) ∧
    ∀ attr es text, parts? v = some (attr, es) →
      (attributes.lookup attr).bind attributeText? = some text → es.lookup text = none →
      ∀ row ∈ es, ∀ other ∈ es, row ≠ other → Matches row.1 text → Matches other.1 text →
        ((∀ row ∈ es, IsPattern row.1) ∧
          evaluate item attributes v = .error ⟨attr, item, .ambiguous text⟩) ∨
        ∃ bad ∈ es, ∃ fault, Pattern.compile bad.1 = .error fault ∧
          evaluate item attributes v = .error ⟨attr, item, .invalid bad.1 fault.message⟩ := by
  refine ⟨fun w h => h.evaluate item attributes, ?_⟩
  intro attr es text hv htext hnone row hrow other hother hne hm hm'
  rw [evaluate_of_keyed hv, htext]
  rcases choose_of_two_matches hnone hrow hother hne hm hm' with
    ⟨hall, hc⟩ | ⟨bad, hbad, fault, hfault, hc⟩
  · exact .inl ⟨hall, by rw [hc]⟩
  · exact .inr ⟨bad, hbad, fault, hfault, by rw [hc]⟩

end Evaluation

/-- Numbers by platform, for two patterns that have texts in common. -/
def rivals : Entries := [("linux.*", .number (.int 1)), (".*64.*", .number (.int 2))]

/-- Numbers by platform for one app, in some order. -/
def rivalsIn (order : Entries → Entries) : Value :=
  .mapping [("by-app", .mapping (order [
    ("fenix", .mapping [("by-test-platform", .mapping (order rivals))]), ("default", .null)]))]

/-- The attributes of a job for that app on a platform that both patterns match. -/
def rivalAttributes : Entries := [("app", .text "fenix"), ("test-platform", .text "linux64/opt")]

theorem reordered_rivals : Reordered (rivalsIn id) (rivalsIn List.reverse) := by
  have hinner : Reordered (.mapping [("by-test-platform", .mapping rivals)])
      (.mapping [("by-test-platform", .mapping rivals.reverse)]) :=
    .of_perm (by simp [rivals, Value.WellFormed, EntriesWellFormed]) rfl rfl
      rivals.reverse_perm.symm
  refine .keyed rfl rfl (by decide) fun key a b ha hb => ?_
  simp only [id, List.reverse_cons, List.reverse_nil, List.nil_append, List.cons_append,
    List.mem_cons, List.not_mem_nil, or_false, Prod.mk.injEq] at ha hb
  rcases ha with ⟨rfl, rfl⟩ | ⟨rfl, rfl⟩ <;> rcases hb with ⟨hk, rfl⟩ | ⟨hk, rfl⟩
  · exact absurd hk (by decide)
  · exact hinner
  · exact .plain rfl
  · exact absurd hk (by decide)

theorem ambiguous_rivals :
    (Reordered (rivalsIn id) (rivalsIn List.reverse) ∧ rivals.lookup "linux64/opt" = none ∧
      Matches "linux.*" "linux64/opt" ∧ Matches ".*64.*" "linux64/opt") ∧
    Parallel Failure.Alike Eq (evaluate "t" rivalAttributes (rivalsIn id))
      (evaluate "t" rivalAttributes (rivalsIn List.reverse)) ∧
    evaluate "t" rivalAttributes (.mapping [("by-test-platform", .mapping rivals)]) =
      .error ⟨"test-platform", "t", .ambiguous "linux64/opt"⟩ := by
  have hfirst : Matches "linux.*" "linux64/opt" := matchesText_iff.1 (by decide +kernel)
  have hsecond : Matches ".*64.*" "linux64/opt" := matchesText_iff.1 (by decide +kernel)
  have hall : ∀ row ∈ rivals, IsPattern row.1 :=
    List.forall_mem_cons.2 ⟨hfirst.isPattern, List.forall_mem_singleton.2 hsecond.isPattern⟩
  have hreordered := (evaluate_of_reordered "t" rivalAttributes (rivalsIn id)).1 _ reordered_rivals
  have htwo := (evaluate_of_reordered "t" rivalAttributes
    (.mapping [("by-test-platform", .mapping rivals)])).2 "test-platform" rivals "linux64/opt" rfl
    rfl rfl _ List.mem_cons_self _ (List.mem_cons_of_mem _ List.mem_cons_self) (by decide) hfirst
    hsecond
  rcases htwo with ⟨-, htwo⟩ | ⟨bad, hbad, fault, hfault, -⟩
  · exact ⟨⟨reordered_rivals, rfl, hfirst, hsecond⟩, hreordered, htwo⟩
  · exact absurd (hall bad hbad) (not_isPattern_iff.2 ⟨fault, hfault⟩)

/-- Rows of which two match a text, and a third is no pattern. -/
def brokenRivals : Entries :=
  [("fen.*", .number (.int 1)), ("f.*", .number (.int 2)), ("(", .number (.int 3))]

/-- Where a key is no pattern, alternatives that both match are not what is told. -/
theorem invalid_brokenRivals :
    (Matches "fen.*" "fenix" ∧ Matches "f.*" "fenix" ∧ brokenRivals.lookup "fenix" = none) ∧
      evaluate "t" [("app", .text "fenix")] (.mapping [("by-app", .mapping brokenRivals)]) =
        .error ⟨"app", "t", .invalid "(" "unclosed group"⟩ := by
  have hv : parts? (.mapping [("by-app", .mapping brokenRivals)]) = some ("app", brokenRivals) :=
    rfl
  refine ⟨⟨matchesText_iff.1 (by decide +kernel), matchesText_iff.1 (by decide +kernel), rfl⟩, ?_⟩
  rw [evaluate_of_keyed hv]
  have hc : choose (some "fenix") brokenRivals = .error (.invalid "(" "unclosed group") := by
    decide +kernel
  rw [show (List.lookup "app" [("app", Value.text "fenix")]).bind attributeText? = some "fenix"
    from rfl, hc]

end Keyed

end JobExpansion
