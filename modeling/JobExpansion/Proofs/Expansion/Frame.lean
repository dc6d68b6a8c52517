import JobExpansion.Proofs.Expansion.Trace

/-!
# The frame of an expansion

What a record has in common with the job that it comes from. Fields that no stage is about are as
they were, and so are fields that are only resolved if they were not keyed. Fields that are still
there keep their order. The mapping for the harness only gets more options at the end of their list,
and the attributes only the mark for visual metrics.
-/

namespace JobExpansion

variable {settings : Settings} {j m r : Job} {s : Stage} {k : String}

namespace Job

/-- The fields that some stage is about. -/
def stageFields : List String := [Field.testName, Field.tryName, Field.description, Field.symbol,
  Field.apps, Field.app, Field.pageload, Field.condprof, Field.variants, Field.limitPlatforms,
  Field.activity, Field.binaryPath, Field.maxRunTime, Field.runOnProjects, Field.target,
  Field.runVisualMetrics, Field.raptorTest, Field.raptorSubtests, Field.cold, Field.mozharness,
  Field.attributes]

/-- The fields that are resolved and nothing else. -/
def onlyResolved : List String :=
  [Field.variants, Field.limitPlatforms, Field.runOnProjects, Field.target]

/-- The options of a job with more at the end; the rest of their mapping is as it was. -/
def MoreOptions (j r : Job) : Prop :=
  ∃ (rows : Entries) (old : List Value) (new : List String),
    j.mapping Field.mozharness = .ok rows ∧ j.optionList rows = .ok old ∧
      r.get? Field.mozharness =
        some (.mapping (rows.set Field.extraOptions (.list (old ++ new.map Value.text))))

/-- The attributes of a job with the mark for visual metrics; the rest of them is as it was. -/
def Marked (j r : Job) : Prop := ∃ rows : Entries, j.mapping Field.attributes = .ok rows ∧
  r.get? Field.attributes = some (.mapping (rows.set Field.runVisualMetrics (.bool true)))

/-- What a record `r` keeps of the job `j`. -/
structure Framed (j r : Job) : Prop where
  untouched : ∀ k ∉ stageFields, r.get? k = j.get? k
  plain : ∀ k ∈ onlyResolved, j.PlainAt k → r.get? k = j.get? k
  inOrder : r.entries.keys.filter j.has = j.entries.keys.filter r.has
  options : j.MoreOptions r
  attributes : r.get? Field.attributes = j.get? Field.attributes ∨ j.Marked r

/-! ### Fields that are only resolved -/

theorem plainAt_congr (h : m.get? k = j.get? k) : m.PlainAt k ↔ j.PlainAt k := by
  rw [PlainAt, PlainAt, h]

/-- A field that is not keyed is as good as resolved. -/
theorem resolveField_of_plainAt {item field : String} (hf : field ∈ Field.apps :: keyedFields)
    (h : j.PlainAt field) : j.resolveField settings item field = .ok j := by
  rw [resolveField_eq hf]
  cases hv : j.get? field with
  | none => rfl
  | some v =>
    have hn : Keyed.parts? v = none := Keyed.isKeyed_eq_false_iff.1 (h v hv)
    simp only [Keyed.evaluate_of_not_keyed hn, set_of_get? hv]

theorem get?_resolveFields_of_plainAt {item : String} {fields : List String}
    (hf : fields ⊆ keyedFields) (h : j.PlainAt k)
    (hr : j.resolveFields settings item fields = .ok r) : r.get? k = j.get? k := by
  induction fields generalizing j with
  | nil =>
    cases hr
    rfl
  | cons field fields ih =>
    obtain ⟨m, hm, hnext⟩ := bind_eq_ok_iff.1 hr
    have hmem : field ∈ Field.apps :: keyedFields :=
      List.mem_cons_of_mem _ (hf List.mem_cons_self)
    have hedited : j.Edited [field] [] m := edited_resolveField hmem hm
    have hfirst : m.get? k = j.get? k := by
      by_cases hk : k = field
      · subst hk
        cases (resolveField_of_plainAt hmem h).symm.trans hm
        rfl
      · exact hedited.get?_eq (by simpa using hk)
    rw [ih (fun l hl => hf (List.mem_cons_of_mem _ hl)) (hedited.plainAt h) hnext, hfirst]

theorem get?_resolved_of_plainAt (h : j.PlainAt k) (hr : j.resolved settings = .ok r) :
    r.get? k = j.get? k :=
  get?_resolveFields_of_plainAt (List.Subset.refl _) h hr

/-! ### Options and attributes -/

theorem mapping_congr (h : m.get? k = j.get? k) {rows : Entries} (hm : m.mapping k = .ok rows) :
    j.mapping k = .ok rows := by
  rw [mapping_eq_ok_iff] at hm ⊢
  rwa [← h]

theorem MoreOptions.congr_left (h : m.get? Field.mozharness = j.get? Field.mozharness)
    (hr : m.MoreOptions r) : j.MoreOptions r := by
  obtain ⟨rows, old, new, hrows, hold, hr⟩ := hr
  have hold' : j.optionList rows = .ok old := by
    rw [optionList_eq_ok_iff] at hold ⊢
    exact hold
  exact ⟨rows, old, new, mapping_congr h hrows, hold', hr⟩

theorem MoreOptions.congr_right (h : r.get? Field.mozharness = m.get? Field.mozharness)
    (hm : j.MoreOptions m) : j.MoreOptions r := by
  rwa [MoreOptions, h]

theorem MoreOptions.trans (hm : j.MoreOptions m) (hr : m.MoreOptions r) : j.MoreOptions r := by
  obtain ⟨rows, old, new, hrows, hold, hm⟩ := hm
  obtain ⟨rows', old', more, hrows', hold', hr⟩ := hr
  -- the options of `m` are those that `j` has been given
  have hmapping := mapping_eq_ok_iff.2 (.inr hm)
  cases hmapping.symm.trans hrows'
  have hlist := (optionList_eq_ok_iff (j := m)).2 (.inr (Entries.lookup_set_self
    Field.extraOptions (.list (old ++ new.map Value.text)) rows))
  cases hlist.symm.trans hold'
  refine ⟨rows, old, new ++ more, hrows, hold, ?_⟩
  rw [hr, Entries.set_set_self, List.map_append, List.append_assoc]

theorem moreOptions_of_addOptions {options : List String} (hr : j.addOptions options = .ok r) :
    j.MoreOptions r := by
  obtain ⟨rows, old, hrows, hold, rfl⟩ := addOptions_eq_ok_iff.1 hr
  exact ⟨rows, old, options, hrows, hold, get?_set_self _ _ _⟩

theorem moreOptions_of_withOptions (hr : j.withOptions settings = .ok r) : j.MoreOptions r := by
  obtain ⟨m, hm, hr⟩ := bind_eq_ok_iff.1 hr
  have hsame : m.dropConsumed.get? Field.mozharness = j.get? Field.mozharness := by
    rw [get?_dropConsumed (by decide), get?_markMetrics hm (by decide) (by decide)]
  exact (moreOptions_of_addOptions hr).congr_left hsame

theorem moreOptions_of_toProfile {isTwin : Bool} (h : j.Ready) (hr : j.toProfile isTwin = .ok r) :
    r.get? Field.mozharness = j.get? Field.mozharness ∨ j.MoreOptions r := by
  have he : (j.erase Field.condprof).get? Field.mozharness = j.get? Field.mozharness :=
    get?_erase_of_ne (by decide)
  cases isTwin with
  | false =>
    cases hr
    exact .inl he
  | true =>
    obtain ⟨id, hid⟩ := h.carries
    obtain ⟨m, hm, rfl⟩ := toProfile_twin hid hr
    have hmore : j.MoreOptions m := (moreOptions_of_addOptions hm).congr_left he
    exact .inr (hmore.congr_right (get?_relabel (by decide)))

/-- A job that is marked has been told to be. -/
theorem attributes_of_withOptions (hr : j.withOptions settings = .ok r) :
    if j.flag Field.runVisualMetrics then j.Marked r
    else r.get? Field.attributes = j.get? Field.attributes := by
  obtain ⟨m, hm, hr⟩ := bind_eq_ok_iff.1 hr
  have hsame : r.get? Field.attributes = m.get? Field.attributes := by
    rw [(edited_addOptions hr).get?_eq (by decide), get?_dropConsumed (by decide)]
  have he : (j.erase Field.runVisualMetrics).get? Field.attributes = j.get? Field.attributes :=
    get?_erase_of_ne (by decide)
  unfold markMetrics at hm
  split at hm
  · next hflag =>
    obtain ⟨rows, hrows, rfl⟩ := setIn_eq_ok_iff.1 hm
    rw [get?_set_self] at hsame
    exact (if_pos hflag).mpr ⟨rows, mapping_congr he hrows, hsame⟩
  · next hflag =>
    cases hm
    exact (if_neg hflag).mpr (hsame.trans he)

theorem marked_of_withOptions (hr : j.withOptions settings = .ok r) :
    r.get? Field.attributes = j.get? Field.attributes ∨ j.Marked r := by
  have h := attributes_of_withOptions hr
  split at h
  · exact .inr h
  · exact .inl h

end Job

/-! ### Along a run -/

/-- A field that is only resolved stays as it is if it is not keyed. -/
theorem plain_kept (hk : k ∈ Job.onlyResolved) (h : j.PlainAt k) :
    KeptBySteps settings fun _ r => r.get? k = j.get? k := by
  intro done s rest hall m r hready hm hstep
  by_cases hs : s = .keyed
  · subst hs
    rw [Job.get?_resolved_of_plainAt ((Job.plainAt_congr hm).2 h) hstep, hm]
  · have hout : ∀ l ∈ Job.onlyResolved, l ∉ s.drops ++ s.sets := by
      revert hs
      cases s <;> decide
    rw [(hstep.edited hready).get?_eq (hout k hk), hm]

/-- The options grow in two stages, in the last of them for sure, and no other touches them. -/
theorem Stage.Step.moreOptions (hready : s ∈ fanStages → j.Ready) (hr : s.Step settings j r) :
    (s ≠ .options ∧ r.get? Field.mozharness = j.get? Field.mozharness) ∨ j.MoreOptions r := by
  by_cases hoptions : s = .options
  · subst hoptions
    exact .inr (Job.moreOptions_of_withOptions hr)
  · by_cases hcondprof : s = .condprof
    · subst hcondprof
      obtain ⟨isTwin, htwin⟩ := hr
      exact (Job.moreOptions_of_toProfile (hready (by decide)) htwin).imp_left fun h => ⟨nofun, h⟩
    · have hout : Field.mozharness ∉ s.drops ++ s.sets := by
        revert hoptions hcondprof
        cases s <;> decide
      exact .inl ⟨hoptions, (hr.edited hready).get?_eq hout⟩

theorem moreOptions_kept : KeptBySteps settings fun done r =>
    (.options ∉ done ∧ r.get? Field.mozharness = j.get? Field.mozharness) ∨ j.MoreOptions r := by
  intro done s rest hall m r hready hm hstep
  rcases hm with ⟨hdone, hm⟩ | hm
  · rcases hstep.moreOptions hready with ⟨hs, hr⟩ | hr
    · exact .inl ⟨by simp [hdone, Ne.symm hs], hr.trans hm⟩
    · exact .inr (hr.congr_left hm)
  · rcases hstep.moreOptions hready with ⟨-, hr⟩ | hr
    · exact .inr (hm.congr_right hr)
    · exact .inr (hm.trans hr)

theorem marked_kept : KeptBySteps settings fun done r =>
    r.get? Field.attributes = j.get? Field.attributes ∨ (.options ∈ done ∧ j.Marked r) := by
  intro done s rest hall m r hready hm hstep
  have hlast : .options ∉ done := Stage.options_not_mem hall
  have hm : m.get? Field.attributes = j.get? Field.attributes :=
    hm.resolve_right fun h => hlast h.1
  by_cases hs : s = .options
  · subst hs
    rcases Job.marked_of_withOptions hstep with hr | ⟨rows, hrows, hr⟩
    · exact .inl (hr.trans hm)
    · exact .inr ⟨by simp, rows, Job.mapping_congr hm hrows, hr⟩
  · have hout : Field.attributes ∉ s.drops ++ s.sets := by
      revert hs
      cases s <;> decide
    exact .inl (((hstep.edited hready).get?_eq hout).trans hm)

/-- The stages edit no fields but theirs. -/
theorem not_mem_footprint (hk : k ∉ Job.stageFields) : ∀ s ∈ Stage.all, k ∉ s.drops ++ s.sets := by
  have hsub : ∀ s ∈ Stage.all, s.drops ++ s.sets ⊆ Job.stageFields := by decide
  exact fun s hs h => hk (hsub s hs h)

/-- **The frame of the expansion.** -/
theorem expand_framed {out : List Job} (h : expand settings [j] = .ok out) :
    ∀ r ∈ out, j.Framed r := by
  have hall : Stage.all <+: Stage.all := List.prefix_refl _
  intro r hr
  have huntouched : j.Untouched Stage.all r :=
    untouched_kept.of_singleton hall (fun _ _ => rfl) h r hr
  have hordered : j.Ordered Stage.all r :=
    ordered_kept.of_singleton hall ⟨fun _ _ hk => hk, .refl j⟩ h r hr
  have hoptions := moreOptions_kept.of_singleton hall (.inl ⟨nofun, rfl⟩) h r hr
  have hmarked := marked_kept.of_singleton hall (.inl rfl) h r hr
  constructor
  case untouched => exact fun k hk => huntouched k (not_mem_footprint hk)
  case plain =>
    intro k hk hplain
    exact (plain_kept hk hplain).of_singleton hall rfl h r hr
  case inOrder => exact hordered.inOrder
  case options => exact hoptions.resolve_left fun hnone => hnone.1 (by decide)
  case attributes => exact hmarked.imp_right And.right

/-- A job with options, attributes and a field that no stage is about. -/
def markedSample : Job := ⟨Schema.leastFields ++ [("worker-type", .text "t-bitbar"),
  (Field.mozharness, .mapping [(Field.extraOptions, .list [.text "--hint"]),
    ("script", .text "raptor.py")]),
  (Field.attributes, .mapping [("tier", .number (.int 2))]), (Field.variants, .list []),
  (Field.runVisualMetrics, .bool true)]⟩

/-- What becomes of it: one more option, and the mark. -/
def markedRecord : Job := ⟨Schema.leastFields ++ [("worker-type", .text "t-bitbar"),
  (Field.mozharness, .mapping [
    (Field.extraOptions, .list [.text "--hint", .text "--browsertime-video"]),
    ("script", .text "raptor.py")]),
  (Field.attributes, .mapping [("tier", .number (.int 2)),
    (Field.runVisualMetrics, .bool true)]),
  (Field.variants, .list []), (Field.tryName, .text "raptor-tp6m-amazon")]⟩

theorem framed_markedRecord :
    expand {} [markedSample] = .ok [markedRecord] ∧ markedSample.Framed markedRecord := by
  have h : expand {} [markedSample] = .ok [markedRecord] := by decide +kernel
  exact ⟨h, expand_framed h markedRecord List.mem_cons_self⟩

end JobExpansion
