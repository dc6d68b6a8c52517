import JobExpansion.Expansion.Pipeline
import JobExpansion.Proofs.Job.Identity
import JobExpansion.Proofs.Keyed.InPlace
import JobExpansion.Proofs.Schema.Kept

/-!
# Jobs between the stages

After the schema has been checked and the defaults are set, a job meets the schema and has a try
name (`Job.Ready`), so it carries an identity and its lists hold texts. Every edit of the later
stages keeps it so; the keyed fields do because what a well-keyed value evaluates to is well keyed.
-/

namespace JobExpansion.Job

open Schema

variable {j r : Job} {id : Identity} {k s : String} {v : Value} {settings : Settings}

/-- A job as every stage after the defaults finds it. -/
structure Ready (j : Job) : Prop where
  meets : Meets j
  hasTryName : j.get? Field.tryName ≠ none

/-! ### What a ready job holds -/

theorem Ready.tryName (h : j.Ready) : ∃ s, j.get? Field.tryName = some (.text s) := by
  obtain ⟨v, hv⟩ := Option.ne_none_iff_exists'.1 h.hasTryName
  obtain ⟨s, rfl⟩ := h.meets.text (by decide) hv
  exact ⟨s, hv⟩

theorem Ready.carries (h : j.Ready) : ∃ id, j.Carries id := by
  obtain ⟨n, hn⟩ := h.meets.required_text (k := Field.testName) (by decide)
  obtain ⟨t, ht⟩ := h.tryName
  obtain ⟨d, hd⟩ := h.meets.required_text (k := Field.description) (by decide)
  obtain ⟨y, hy⟩ := h.meets.required_text (k := Field.symbol) (by decide)
  exact ⟨⟨n, t, d, y⟩, hn, ht, hd, hy⟩

/-- The defaults make a job that meets the schema ready. -/
theorem ready_withDefaults (h : Meets j) : j.withDefaults.Ready := by
  have hm : Meets ((j.setDefault Field.pageload (.text "warm")).setDefault Field.runVisualMetrics
      (.bool false)) := by
    refine (h.setDefault fun rule hr hf => .plain rfl ?_).setDefault fun rule hr hf =>
      wellKeyed_bool ?_
    · revert rule
      decide
    · revert rule
      decide
  obtain ⟨name, hn⟩ := hm.required_text (k := Field.testName) (by decide)
  have hd : j.withDefaults = Job.setDefault Field.tryName (.text name) ((j.setDefault Field.pageload
      (.text "warm")).setDefault Field.runVisualMetrics (.bool false)) := by
    rw [withDefaults, text?_eq_some_iff.2 hn]
  rw [hd]
  refine ⟨hm.setDefault fun rule hr hf => wellKeyed_text ?_, get?_setDefault_ne_none⟩
  revert rule
  decide

/-! ### Edits that keep a job ready -/

theorem Ready.set (h : j.Ready) (hv : ∀ rule ∈ rules, rule.field = k → WellKeyed rule v) :
    (j.set k v).Ready where
  meets := h.meets.set hv
  hasTryName := by
    rw [get?_set]
    split
    · simp
    · exact h.hasTryName

theorem Ready.set_text (h : j.Ready)
    (hk : ∀ rule ∈ rules, rule.field = k → rule.shape = .string) : (j.set k (.text s)).Ready :=
  h.set fun rule hr hf => wellKeyed_text (hk rule hr hf)

/-- A field without a rule may be set to anything. -/
theorem Ready.set_free (h : j.Ready) (hk : ∀ rule ∈ rules, rule.field ≠ k) : (j.set k v).Ready :=
  h.set fun rule hr hf => absurd hf (hk rule hr)

theorem Ready.erase (h : j.Ready) (hk : ∀ rule ∈ rules, rule.field = k → rule.required = false)
    (ht : Field.tryName ≠ k) : (j.erase k).Ready where
  meets := h.meets.erase hk
  hasTryName := by
    rw [get?_erase_of_ne ht]
    exact h.hasTryName

theorem Ready.relabel (h : j.Ready) : (j.relabel id).Ready :=
  (((h.set_text (by decide)).set_text (by decide)).set_text (by decide)).set_text (by decide)

theorem Ready.markCold {name test : String} (h : j.Ready) : (j.markCold name test).Ready := by
  unfold Job.markCold
  split
  · exact h.set_free (by decide)
  · exact h.set_text (by decide)

theorem Ready.addOptions {options : List String} (h : j.Ready)
    (hr : j.addOptions options = .ok r) : r.Ready := by
  obtain ⟨mozharness, old, -, -, rfl⟩ := addOptions_eq_ok_iff.1 hr
  exact h.set_free (by decide)

/-! ### Keyed fields -/

/-- A field that is resolved is one key, not a path. -/
theorem segments_eq_singleton {field : String} (h : field ∈ Field.apps :: keyedFields) :
    Entries.segments field = [field] := by
  revert field
  decide

/-- A field that is resolved is set to what its value evaluates to. -/
theorem resolveField_eq {item field : String} (h : field ∈ Field.apps :: keyedFields) :
    j.resolveField settings item field =
      match j.get? field with
      | none => .ok j
      | some v =>
        match Keyed.evaluate item (j.entries.setAll settings.attributes) v with
        | .ok w => .ok (j.set field w)
        | .error e => .error ⟨.keyed e, some item, some field, none, none⟩ := by
  rw [resolveField, Keyed.resolve, Keyed.run_resolveInPlace_of_key (segments_eq_singleton h), get?]
  cases hv : j.entries.lookup field with
  | none => rfl
  | some v =>
    simp only
    cases Keyed.evaluate item (j.entries.setAll settings.attributes) v <;> rfl

/-- **A resolved field keeps a job ready.** -/
theorem Ready.resolveField {item field : String} (h : j.Ready)
    (hf : field ∈ Field.apps :: keyedFields) (hr : j.resolveField settings item field = .ok r) :
    r.Ready := by
  rw [resolveField_eq hf] at hr
  split at hr
  · cases hr
    exact h
  · next v hv =>
    split at hr
    · next w hw =>
      cases hr
      refine h.set fun rule hrule hk => ?_
      subst hk
      exact (h.meets.wellKeyed hrule hv).evaluate hw
    · cases hr

theorem Ready.resolveFields {item : String} {fields : List String} (h : j.Ready)
    (hf : fields ⊆ keyedFields) (hr : j.resolveFields settings item fields = .ok r) : r.Ready := by
  induction fields generalizing j with
  | nil =>
    cases hr
    exact h
  | cons field fields ih =>
    obtain ⟨m, hm, hr⟩ := bind_eq_ok_iff.1 hr
    have hmem : field ∈ keyedFields := hf List.mem_cons_self
    exact ih (h.resolveField (List.mem_cons_of_mem _ hmem) hm)
      (fun l hl => hf (List.mem_cons_of_mem _ hl)) hr

theorem Ready.resolved (h : j.Ready) (hr : j.resolved settings = .ok r) : r.Ready :=
  h.resolveFields (List.Subset.refl _) hr

/-! ### Edits of a branch -/

theorem Ready.forApp (h : j.Ready) (app : String) : ∃ r, j.forApp app = .ok r ∧ r.Ready := by
  obtain ⟨id, hid⟩ := h.carries
  exact ⟨_, forApp_eq hid, (h.set_free (by decide)).relabel⟩

theorem Ready.cold (h : j.Ready) :
    (∃ r, j.cold = .ok r ∧ r.Ready) ∨
      j.cold = .error (j.failure Field.raptorTest .coldWithoutTest) := by
  cases ht : j.get? Field.raptorTest with
  | none => exact .inr (cold_of_no_test ht)
  | some v =>
    obtain ⟨test, rfl⟩ := h.meets.text (by decide) ht
    obtain ⟨id, hid⟩ := h.carries
    have hm : ((j.markCold id.testName test).set Field.maxRunTime
        (.number (.int coldMaxRunTime))).Ready :=
      h.markCold.set fun rule hr hf => wellKeyed_integer (by revert rule; decide)
    exact .inl ⟨_, cold_eq hid ht, hm.relabel⟩

theorem Ready.profiled (h : j.Ready) (hr : j.profiled = .ok r) : r.Ready := by
  obtain ⟨id, hid⟩ := h.carries
  rw [profiled_eq hid, map_eq_ok_iff] at hr
  obtain ⟨m, hm, rfl⟩ := hr
  exact (h.addOptions hm).relabel

theorem Ready.markMetrics (h : j.Ready) (hr : j.markMetrics = .ok r) : r.Ready := by
  have he : (j.erase Field.runVisualMetrics).Ready := h.erase (by decide) (by decide)
  unfold Job.markMetrics at hr
  split at hr
  · obtain ⟨entries, -, rfl⟩ := setIn_eq_ok_iff.1 hr
    exact he.set_free (by decide)
  · cases hr
    exact he

theorem Ready.dropConsumed (h : j.Ready) : j.dropConsumed.Ready := by
  have ha : (j.erase Field.app).Ready := h.erase (by decide) (by decide)
  have hc : (if (j.erase Field.app).isBrowsertime then (j.erase Field.app).erase Field.cold
      else j.erase Field.app).Ready := by
    split
    · exact ha.erase (by decide) (by decide)
    · exact ha
  exact ((hc.erase (by decide) (by decide)).erase (by decide) (by decide)).erase (by decide)
    (by decide)

theorem Ready.withOptions (h : j.Ready) (hr : j.withOptions settings = .ok r) : r.Ready := by
  obtain ⟨m, hm, hr⟩ := bind_eq_ok_iff.1 hr
  exact (h.markMetrics hm).dropConsumed.addOptions hr

theorem Ready.symbol (h : j.Ready) :
    ∃ id, j.Carries id ∧ j.symbol = .ok (Symbol.split id.symbol) := by
  obtain ⟨id, hid⟩ := h.carries
  exact ⟨id, hid, symbol_of_text hid.symbol⟩

end JobExpansion.Job
