import JobExpansion.Proofs.Expansion.Ready
import JobExpansion.Proofs.Job.Edited
import Mathlib.Data.List.Basic

/-!
# The order of keyed fields

The keyed fields of a job are resolved in place, each seeing what the ones before it became. In a
validated job this makes no difference: the schema lets a field be keyed only by attributes that are
no keyed fields, so no field that is resolved feeds another (`Job.Unfed`). The one keyed field that
the schema says nothing of is that of the platforms. `resolveInPlace_anyOrder` says that the fields
may be resolved in any order.
-/

namespace JobExpansion

open Schema

namespace Job

variable {item field other : String} {extra es m r : Entries} {v w : Value}

/-- No keyed field depends on another, or on itself. -/
def Unfed (es : Entries) : Prop := ∀ field ∈ keyedFields, ∀ v, es.lookup field = some v →
  ∀ attr ∈ keyedFields, ¬ Keyed.KeyedBy attr v

/-- Every other keyed field has a rule, which allows no keyed field as attribute. -/
theorem exists_rule_of_unfed (hf : field ∈ keyedFields) (hl : field ≠ Field.limitPlatforms) :
    ∃ rule ∈ rules, rule.field = field ∧ ∀ attr ∈ keyedFields, attr ∉ rule.keyedBy := by
  revert field
  decide

/-- The keyed fields of a validated job are independent of each other if the platforms are. -/
theorem unfed_of_meets {j : Job} (h : Meets j) (hplatforms : ∀ v,
    j.get? Field.limitPlatforms = some v → ∀ attr ∈ keyedFields, ¬ Keyed.KeyedBy attr v) :
    Unfed j.entries := by
  intro field hf v hv
  by_cases hl : field = Field.limitPlatforms
  · subst hl
    exact hplatforms v hv
  · obtain ⟨rule, hrule, rfl, hattr⟩ := exists_rule_of_unfed hf hl
    exact fun attr ha hk => hattr attr ha ((h.wellKeyed hrule hv).mem_of_keyedBy hk)

/-! ### One field -/

theorem run_eq_ok_iff_of_keyed (hf : field ∈ keyedFields) :
    (Keyed.resolveInPlace field item extra).run es = .ok () m ↔
      (es.lookup field = none ∧ m = es) ∨ ∃ v w, es.lookup field = some v ∧
        Keyed.evaluate item (es.setAll extra) v = .ok w ∧ m = es.set field w := by
  rw [Keyed.run_resolveInPlace_of_key (segments_eq_singleton (List.mem_cons_of_mem _ hf))]
  cases es.lookup field with
  | none => simp [@eq_comm _ m]
  | some v => cases hw : Keyed.evaluate item (es.setAll extra) v <;> simp [hw, @eq_comm _ m]

theorem lookup_of_run (hf : field ∈ keyedFields)
    (hm : (Keyed.resolveInPlace field item extra).run es = .ok () m) (hne : other ≠ field) :
    m.lookup other = es.lookup other := by
  rcases (run_eq_ok_iff_of_keyed hf).1 hm with ⟨-, rfl⟩ | ⟨v, w, -, -, rfl⟩
  · rfl
  · rw [Entries.lookup_set, if_neg hne]

/-- A field that has been resolved is not keyed. -/
theorem plainAt_of_run (hf : field ∈ keyedFields)
    (hm : (Keyed.resolveInPlace field item extra).run es = .ok () m) : PlainAt field ⟨m⟩ := by
  intro v hv
  rcases (run_eq_ok_iff_of_keyed hf).1 hm with ⟨hn, rfl⟩ | ⟨u, w, -, hw, rfl⟩
  · cases hn.symm.trans hv
  · cases (get?_set_self field w ⟨es⟩).symm.trans hv
    exact Keyed.isKeyed_eq_false_iff.2 (Keyed.parts?_of_evaluate hw)

theorem PlainAt.run (h : PlainAt other ⟨es⟩) (hf : field ∈ keyedFields)
    (hm : (Keyed.resolveInPlace field item extra).run es = .ok () m) : PlainAt other ⟨m⟩ := by
  by_cases hne : other = field
  · subst hne
    exact plainAt_of_run hf hm
  · exact fun v hv => h v ((lookup_of_run hf hm hne).symm.trans hv)

/-- A field that is not keyed is left alone. -/
theorem PlainAt.run_eq (h : PlainAt field ⟨es⟩) (hf : field ∈ keyedFields) :
    (Keyed.resolveInPlace field item extra).run es = .ok () es :=
  Keyed.run_resolveAt_of_plain fun v hv => by
    rw [segments_eq_singleton (List.mem_cons_of_mem _ hf)] at hv
    exact h v hv

theorem Unfed.run (h : Unfed es) (hf : field ∈ keyedFields)
    (hm : (Keyed.resolveInPlace field item extra).run es = .ok () m) : Unfed m := by
  intro other ho v hv
  by_cases hne : other = field
  · subst hne
    have hplain : Keyed.isKeyed v = false := plainAt_of_run ho hm v hv
    exact fun _ _ => Keyed.not_keyedBy_of_plain (Keyed.isKeyed_eq_false_iff.1 hplain)
  · exact h other ho v ((lookup_of_run hf hm hne).symm.trans hv)

/-! ### Two fields -/

/-- What a field evaluates to does not depend on another keyed field. -/
theorem Unfed.evaluate_set (h : Unfed es) (hf : field ∈ keyedFields) (ho : other ∈ keyedFields)
    (hv : es.lookup other = some v) :
    Keyed.evaluate item ((es.set field w).setAll extra) v =
      Keyed.evaluate item (es.setAll extra) v := by
  refine Keyed.evaluate_congr fun attr hk => Entries.lookup_setAll_congr ?_
  have hattr : attr ≠ field := by
    rintro rfl
    exact h other ho v hv attr hf hk
  rw [Entries.lookup_set, if_neg hattr]

/-- Two keyed fields may be resolved in either order. -/
theorem Unfed.run_swap (h : Unfed es) (hf : field ∈ keyedFields) (ho : other ∈ keyedFields)
    (hm : (Keyed.resolveInPlace field item extra).run es = .ok () m)
    (hr : (Keyed.resolveInPlace other item extra).run m = .ok () r) :
    ∃ m', (Keyed.resolveInPlace other item extra).run es = .ok () m' ∧
      (Keyed.resolveInPlace field item extra).run m' = .ok () r := by
  by_cases hne : other = field
  · subst hne
    exact ⟨m, hm, hr⟩
  have hsame : m.lookup other = es.lookup other := lookup_of_run hf hm hne
  simp only [run_eq_ok_iff_of_keyed hf, run_eq_ok_iff_of_keyed ho] at hm hr ⊢
  rcases hr with ⟨hn, rfl⟩ | ⟨v', w', hv', hw', rfl⟩
  · -- the other field is not there
    exact ⟨es, .inl ⟨hsame ▸ hn, rfl⟩, hm⟩
  · rw [hsame] at hv'
    rcases hm with ⟨hn, rfl⟩ | ⟨v, w, hv, hw, rfl⟩
    · refine ⟨_, .inr ⟨v', w', hv', hw', rfl⟩, .inl ⟨?_, rfl⟩⟩
      rw [Entries.lookup_set, if_neg (Ne.symm hne), hn]
    · -- both are there: each is evaluated as if the other had not been set
      rw [h.evaluate_set hf ho hv'] at hw'
      refine ⟨es.set other w', .inr ⟨v', w', hv', hw', rfl⟩, .inr ⟨v, w, ?_, ?_, ?_⟩⟩
      · rw [Entries.lookup_set, if_neg (Ne.symm hne), hv]
      · rw [h.evaluate_set ho hf hv, hw]
      · have hmem : other ∈ es.keys := (Entries.lookup_isSome_iff es other).1 (by simp [hv'])
        exact Entries.set_comm hne hmem

/-! ### All fields -/

/-- Fields that have been resolved one after another are not keyed. -/
theorem plainAt_of_forM {fields : List String} (hf : fields ⊆ keyedFields) (hmem : field ∈ fields)
    (hr : (fields.forM (Keyed.resolveInPlace · item extra)).run es = .ok () r) :
    PlainAt field ⟨r⟩ := by
  induction fields generalizing es with
  | nil => cases hmem
  | cons first fields ih =>
    obtain ⟨m, hm, hnext⟩ := run_forM_cons_eq_ok_iff.1 hr
    obtain ⟨hfirst, hrest⟩ := List.cons_subset.1 hf
    rcases List.mem_cons.1 hmem with rfl | hmem
    · exact run_forM_keeps (P := fun es => PlainAt field ⟨es⟩)
        (fun other ho s n hs hn => hs.run (hrest ho) hn) (plainAt_of_run hfirst hm) hnext
    · exact ih hrest hmem hnext

/-- Any order of the keyed fields gives what another one gives. -/
theorem Unfed.run_forM_perm {order order' : List String} (h : Unfed es) (ho : order ⊆ keyedFields)
    (hperm : order.Perm order')
    (hr : (order.forM (Keyed.resolveInPlace · item extra)).run es = .ok () r) :
    (order'.forM (Keyed.resolveInPlace · item extra)).run es = .ok () r :=
  JobExpansion.run_forM_perm hperm ho (fun _ hf _ _ hs hm => Unfed.run hs hf hm)
    (fun _ _ hf ho _ _ _ hs hm hr => Unfed.run_swap hs hf ho hm hr) h hr

/-- A job that the stage makes is one that resolving its fields in place makes. -/
theorem resolveField_eq_ok_iff {settings : Settings} {j r : Job} :
    j.resolveField settings item field = .ok r ↔
      (Keyed.resolveInPlace field item settings.attributes).run j.entries = .ok () r.entries := by
  rw [resolveField, Keyed.resolve]
  cases (Keyed.resolveInPlace field item settings.attributes).run j.entries with
  | ok u es =>
    obtain ⟨fs⟩ := r
    simp
  | error e es => simp

theorem resolveFields_eq_ok_iff {settings : Settings} {fields : List String} {j r : Job} :
    j.resolveFields settings item fields = .ok r ↔
      (fields.forM (Keyed.resolveInPlace · item settings.attributes)).run j.entries =
        .ok () r.entries := by
  induction fields generalizing j with
  | nil =>
    obtain ⟨es⟩ := j
    obtain ⟨fs⟩ := r
    simp [resolveFields]
  | cons field fields ih =>
    rw [resolveFields, bind_eq_ok_iff, run_forM_cons_eq_ok_iff]
    constructor
    · rintro ⟨m, hm, hr⟩
      exact ⟨m.entries, resolveField_eq_ok_iff.1 hm, ih.1 hr⟩
    · rintro ⟨m, hm, hr⟩
      exact ⟨⟨m⟩, resolveField_eq_ok_iff.2 hm, ih.2 hr⟩

end Job

/-- **The order of keyed fields does not matter.**  In a validated job whose platforms are keyed by
no keyed field, at any depth, the keyed fields may be resolved in place in any order: one order
succeeds when the usual one does, with the same fields in the same places. Resolving them again, in
any order and with any attributes, changes nothing. So the stage may go through them in any
order. -/
theorem resolveInPlace_anyOrder {j : Job} (hj : validate j = .ok ())
    (hplatforms : ∀ v, j.get? Field.limitPlatforms = some v →
      ∀ attr ∈ Job.keyedFields, ¬ Keyed.KeyedBy attr v)
    (item : String) (extra : Entries) {order : List String}
    (horder : order.Perm Job.keyedFields) :
    (∀ r, (order.forM (Keyed.resolveInPlace · item extra)).run j.entries = .ok () r ↔
      (Job.keyedFields.forM (Keyed.resolveInPlace · item extra)).run j.entries = .ok () r) ∧
    (∀ r, (Job.keyedFields.forM (Keyed.resolveInPlace · item extra)).run j.entries = .ok () r →
      ∀ again : List String, again.Perm Job.keyedFields → ∀ item' others,
        (again.forM (Keyed.resolveInPlace · item' others)).run r = .ok () r) ∧
    ∀ settings r, j.resolveFields settings item order = .ok r ↔
      j.resolveFields settings item Job.keyedFields = .ok r := by
  have hunfed : Job.Unfed j.entries := Job.unfed_of_meets (validate_eq_ok_iff.1 hj) hplatforms
  have hswap : ∀ extra r, (order.forM (Keyed.resolveInPlace · item extra)).run j.entries =
      .ok () r ↔ (Job.keyedFields.forM (Keyed.resolveInPlace · item extra)).run j.entries =
        .ok () r :=
    fun extra r => ⟨hunfed.run_forM_perm horder.subset horder,
      hunfed.run_forM_perm (List.Subset.refl _) horder.symm⟩
  refine ⟨hswap extra, fun r hr again hagain item' others => ?_, fun settings r => ?_⟩
  · refine run_forM_of_fixed fun field hf => ?_
    have hkeyed : field ∈ Job.keyedFields := hagain.subset hf
    have hplain : Job.PlainAt field ⟨r⟩ := Job.plainAt_of_forM (List.Subset.refl _) hkeyed hr
    exact hplain.run_eq hkeyed
  · rw [Job.resolveFields_eq_ok_iff, Job.resolveFields_eq_ok_iff, hswap]

/-- A value that is one thing in an app and another elsewhere. -/
def inFenix (v w : Value) : Value := .mapping [("by-app", .mapping [("fenix", v), ("default", w)])]

/-- A job for an app with keyed fields, limited to some platforms. -/
def manyKeyed (platforms : Value) : Job := ⟨leastFields ++ [(Field.app, .text "fenix"),
  (Field.limitPlatforms, platforms),
  (Field.pageload, inFenix (.text "both") (.text "warm")),
  (Field.maxRunTime, .mapping [("by-test-platform", .mapping [
    ("android-hw-p2", inFenix (.number (.int 3000)) (.number (.int 900))),
    ("default", .number (.int 1800))])])]⟩

/-- The job with its fields resolved. -/
def manyResolved : Job := ⟨leastFields ++ [(Field.app, .text "fenix"),
  (Field.limitPlatforms, .list [.text "android-hw-p2"]), (Field.pageload, .text "both"),
  (Field.maxRunTime, .number (.int 3000))]⟩

theorem resolveInPlace_manyKeyed :
    validate (manyKeyed (inFenix (.list [.text "android-hw-p2"]) (.list []))) = .ok () ∧
    (∀ v, (manyKeyed (inFenix (.list [.text "android-hw-p2"]) (.list []))).get?
      Field.limitPlatforms = some v → ∀ attr ∈ Job.keyedFields, ¬ Keyed.KeyedBy attr v) ∧
    Job.keyedFields.reverse.Perm Job.keyedFields ∧
    (Job.keyedFields.reverse.forM (Keyed.resolveInPlace · "t" ({} : Settings).attributes)).run
        (manyKeyed (inFenix (.list [.text "android-hw-p2"]) (.list []))).entries =
      .ok () manyResolved.entries ∧
    (Job.keyedFields.reverse.forM (Keyed.resolveInPlace · "u" [])).run manyResolved.entries =
      .ok () manyResolved.entries := by
  have hvalid : validate (manyKeyed (inFenix (.list [.text "android-hw-p2"]) (.list []))) =
      .ok () := by decide +kernel
  have hfree : ∀ v, (manyKeyed (inFenix (.list [.text "android-hw-p2"]) (.list []))).get?
      Field.limitPlatforms = some v → ∀ attr ∈ Job.keyedFields, ¬ Keyed.KeyedBy attr v := by
    intro v hv attr ha
    cases hv
    have hparts : Keyed.parts? (inFenix (.list [.text "android-hw-p2"]) (.list [])) =
      some ("app", _) := rfl
    rw [Keyed.keyedBy_iff_of_keyed hparts]
    have happ : attr ≠ "app" := by
      revert attr
      decide
    simp [happ, Keyed.not_keyedBy_of_plain (v := .list _) rfl]
  have husual : (Job.keyedFields.forM (Keyed.resolveInPlace · "t" ({} : Settings).attributes)).run
      (manyKeyed (inFenix (.list [.text "android-hw-p2"]) (.list []))).entries =
        .ok () manyResolved.entries :=
    Job.resolveFields_eq_ok_iff.1 (by decide +kernel)
  have hperm : Job.keyedFields.reverse.Perm Job.keyedFields := List.reverse_perm _
  obtain ⟨hsame, hagain, -⟩ := resolveInPlace_anyOrder hvalid hfree "t" ({} : Settings).attributes
    hperm
  exact ⟨hvalid, hfree, hperm, (hsame _).2 husual, hagain _ husual _ hperm "u" []⟩

-- platforms that are keyed by a keyed field are not those of each order
example : (manyKeyed (.mapping [("by-pageload", .mapping [("both", .null),
      ("default", .list [])])])).resolveFields {} "t" Job.keyedFields ≠
    (manyKeyed (.mapping [("by-pageload", .mapping [("both", .null),
      ("default", .list [])])])).resolveFields {} "t" Job.keyedFields.reverse := by
  decide +kernel

end JobExpansion
