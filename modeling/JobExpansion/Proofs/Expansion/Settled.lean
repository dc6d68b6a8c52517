import JobExpansion.Proofs.Expansion.Trace

/-!
# Settled jobs

What an expansion ends in. Its records meet the schema as the jobs did. Of the fields that the
schema or the list of keyed fields names none is keyed, since each that may be keyed has been
resolved or consumed. And what the harness is called with is there: the identity, the platform and
a list of options. `expand_settled` says so of every record.
-/

namespace JobExpansion

open Schema

variable {settings : Settings} {j r : Job} {k : String}

namespace Job

/-- The mapping for the harness has a list of options. -/
def HasOptions (j : Job) : Prop := ∃ rows items,
  j.get? Field.mozharness = some (.mapping rows) ∧
    rows.lookup Field.extraOptions = some (.list items)

/-- A record as it goes out. -/
structure Settled (j : Job) : Prop where
  valid : validate j = .ok ()
  plain : ∀ k ∈ rules.map Rule.field ++ keyedFields, j.PlainAt k
  texts : ∀ k ∈ [Field.testName, Field.tryName, Field.description, Field.symbol,
    Field.testPlatform], ∃ s, j.get? k = some (.text s)
  options : j.HasOptions

theorem hasOptions_of_addOptions {options : List String} (hr : j.addOptions options = .ok r) :
    r.HasOptions := by
  obtain ⟨rows, old, -, -, rfl⟩ := addOptions_eq_ok_iff.1 hr
  exact ⟨_, _, get?_set_self _ _ _, Entries.lookup_set_self _ _ _⟩

theorem hasOptions_of_withOptions (hr : j.withOptions settings = .ok r) : r.HasOptions := by
  obtain ⟨m, -, hr⟩ := bind_eq_ok_iff.1 hr
  exact hasOptions_of_addOptions hr

/-! ### Keyed fields -/

theorem plainAt_of_none (h : j.get? k = none) : j.PlainAt k := by
  intro v hv
  rw [h] at hv
  cases hv

/-- A field that has been resolved is not keyed. -/
theorem plainAt_resolveField {item field : String} (hf : field ∈ Field.apps :: keyedFields)
    (hr : j.resolveField settings item field = .ok r) : r.PlainAt field := by
  rw [resolveField_eq hf] at hr
  split at hr
  · next hn =>
    cases hr
    exact plainAt_of_none hn
  · split at hr
    · next w hw =>
      cases hr
      intro v hv
      rw [get?_set_self] at hv
      cases hv
      exact Keyed.isKeyed_eq_false_iff.2 (Keyed.parts?_of_evaluate hw)
    · cases hr

/-- Fields that are resolved one after another stay so. -/
theorem plainAt_resolveFields {item : String} {fields : List String} (hf : fields ⊆ keyedFields)
    (hr : j.resolveFields settings item fields = .ok r) (hk : k ∈ fields) : r.PlainAt k := by
  induction fields generalizing j with
  | nil => cases hk
  | cons field fields ih =>
    obtain ⟨m, hm, hnext⟩ := bind_eq_ok_iff.1 hr
    have hmem : field ∈ keyedFields := hf List.mem_cons_self
    have hrest : fields ⊆ keyedFields := fun l hl => hf (List.mem_cons_of_mem _ hl)
    rcases List.mem_cons.1 hk with rfl | hk
    · have hplain : m.PlainAt k := plainAt_resolveField (List.mem_cons_of_mem _ hmem) hm
      exact (edited_resolveFields hrest hnext).plainAt hplain
    · exact ih hrest hnext hk

theorem plainAt_resolved (hr : j.resolved settings = .ok r) (hk : k ∈ keyedFields) :
    r.PlainAt k :=
  plainAt_resolveFields (List.Subset.refl _) hr hk

end Job

/-- A field with a rule that allows no attribute is not keyed. -/
theorem Schema.Meets.plainAt {rule : Rule} (h : Meets j) (hrule : rule ∈ rules)
    (hn : rule.keyedBy = []) : j.PlainAt rule.field := by
  intro v hv
  rcases h.wellKeyed hrule hv with ⟨hp, -⟩ | ⟨-, ha, -⟩
  · exact Keyed.isKeyed_eq_false_iff.2 hp
  · rw [hn] at ha
    cases ha

/-- **The schema and the stages agree**: each field that may be keyed is resolved. -/
theorem resolved_of_keyedBy {rule : Rule} (hrule : rule ∈ rules) (hk : rule.keyedBy ≠ []) :
    rule.field ∈ Field.apps :: Job.keyedFields := by
  revert rule
  decide

/-! ### Along a run -/

/-- Fields that have been resolved are not keyed. -/
def Job.Unkeyed (done : List Stage) (j : Job) : Prop :=
  .keyed ∈ done → ∀ k ∈ keyedFields, j.PlainAt k

theorem unkeyed_kept : KeptBySteps settings Job.Unkeyed := by
  intro done s rest hall m r hready hm hstep hdone k hk
  rcases List.mem_append.1 hdone with hdone | hs
  · exact (hstep.edited hready).plainAt (hm hdone k hk)
  · cases List.mem_singleton.1 hs
    exact Job.plainAt_resolved hstep hk

theorem hasOptions_kept : KeptBySteps settings fun done j => .options ∈ done → j.HasOptions := by
  intro done s rest hall m r hready hm hstep hdone
  have hlast : .options ∉ done := Stage.options_not_mem hall
  cases List.mem_singleton.1 ((List.mem_append.1 hdone).resolve_left hlast)
  exact Job.hasOptions_of_withOptions hstep

/-- None of the fields that the schema or the list of keyed fields names is keyed at the end. -/
theorem Job.plainAt_of_all (hmeets : Meets j) (hconsumed : j.Consumed Stage.all)
    (hunkeyed : j.Unkeyed Stage.all) (hk : k ∈ rules.map Rule.field ++ keyedFields) :
    j.PlainAt k := by
  rcases List.mem_append.1 hk with hk | hk
  · obtain ⟨rule, hrule, rfl⟩ := List.mem_map.1 hk
    by_cases hn : rule.keyedBy = []
    · exact hmeets.plainAt hrule hn
    · rcases List.mem_cons.1 (resolved_of_keyedBy hrule hn) with happs | hkeyed
      · rw [happs]
        exact plainAt_of_none (hconsumed .apps (by decide) _ (by decide))
      · exact hunkeyed (by decide) _ hkeyed
  · exact hunkeyed (by decide) _ hk

/-- **Expansion keeps jobs within the schema and leaves nothing to resolve.** -/
theorem expand_settled {js out : List Job} (h : expand settings js = .ok out) :
    ∀ r ∈ out, r.Settled := by
  have hall : Stage.all <+: Stage.all := List.prefix_refl _
  intro r hr
  obtain ⟨hchecked, hconsumed⟩ := consumed_kept.of_expandThrough hall (fun _ _ => nofun) h r hr
  have hunkeyed : r.Unkeyed Stage.all :=
    (unkeyed_kept.of_expandThrough hall (fun _ _ => nofun) h r hr).2
  have hoptions : r.HasOptions :=
    (hasOptions_kept.of_expandThrough hall (fun _ _ => nofun) h r hr).2 (by decide)
  have hready : r.Ready := hchecked.ready (by decide)
  obtain ⟨id, hid⟩ := hready.carries
  have hplatform : ∃ s, r.get? Field.testPlatform = some (.text s) :=
    hready.meets.required_text (by decide)
  refine ⟨validate_eq_ok_iff.2 hready.meets,
    fun k hk => Job.plainAt_of_all hready.meets hconsumed hunkeyed hk, ?_, hoptions⟩
  simp only [List.forall_mem_cons, List.not_mem_nil, false_imp_iff, implies_true, and_true]
  exact ⟨⟨_, hid.testName⟩, ⟨_, hid.tryName⟩, ⟨_, hid.description⟩, ⟨_, hid.symbol⟩, hplatform⟩

/-- A job for an app, with variants that depend on it. -/
def variedSample : Job := ⟨leastFields ++ [(Field.apps, .list [.text "fenix"]),
  (Field.variants, .mapping [("by-app", .mapping [("fenix", .list [.text "fission"]),
    ("default", .list [])])])]⟩

/-- What becomes of it: the variants of the app. -/
def variedRecord : Job := ⟨[
  (Field.testName, .text "raptor-tp6m-amazon-fenix"),
  (Field.testPlatform, .text "android-hw-p2"), (Field.requireSignedExtensions, .bool false),
  (Field.symbol, .text "Rap-fenix(amazon)"),
  (Field.description, .text "Raptor tp6m on amazon on Fenix"),
  (Field.variants, .list [.text "fission"]), (Field.tryName, .text "raptor-tp6m-amazon-fenix"),
  (Field.mozharness, .mapping [(Field.extraOptions, .list [.text "--app=fenix"])])]⟩

theorem settled_variedRecord :
    expand {} [variedSample] = .ok [variedRecord] ∧ variedRecord.Settled := by
  have h : expand {} [variedSample] = .ok [variedRecord] := by decide +kernel
  exact ⟨h, expand_settled h variedRecord List.mem_cons_self⟩

end JobExpansion
