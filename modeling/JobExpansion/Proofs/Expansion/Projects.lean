import JobExpansion.Proofs.Expansion.Trace

/-!
# What a run knows and what it makes

Of all that a run knows only the name of its project gets anywhere near a job: as an attribute that
values may be keyed by. The schema lets no field be keyed by it, but has no rule for the platforms
that a job is limited to. So runs of different kinds and for different projects make the same of
jobs whose platforms are not keyed by `project` (`expand_congr_settings`).
-/

namespace JobExpansion

open Schema

variable {a b : Settings} {j r : Job} {s : Stage}

namespace Job

variable {item field : String} {sets drops : List String}

/-- The platforms that a job is limited to are keyed by the project at no depth. -/
def FreeOfProject (j : Job) : Prop :=
  ∀ v, j.get? Field.limitPlatforms = some v → ¬ Keyed.KeyedBy "project" v

theorem FreeOfProject.edited (h : j.FreeOfProject) (he : j.Edited sets drops r) :
    r.FreeOfProject := by
  intro v hv
  rcases he.get?_eq_or_plain hv with hj | hplain
  · exact h v hj
  · exact Keyed.not_keyedBy_of_plain (Keyed.isKeyed_eq_false_iff.1 hplain)

/-! ### Keyed fields -/

/-- Every other field that is resolved has a rule, and no rule allows the project. -/
theorem exists_rule_of_keyed (hf : field ∈ Field.apps :: keyedFields)
    (hl : field ≠ Field.limitPlatforms) :
    ∃ rule ∈ rules, rule.field = field ∧ "project" ∉ rule.keyedBy := by
  revert field
  decide

theorem Ready.not_keyedBy_project (h : j.Ready) (hfree : j.FreeOfProject)
    (hf : field ∈ Field.apps :: keyedFields) {v : Value} (hv : j.get? field = some v) :
    ¬ Keyed.KeyedBy "project" v := by
  by_cases hl : field = Field.limitPlatforms
  · subst hl
    exact hfree v hv
  · obtain ⟨rule, hrule, rfl, hproject⟩ := exists_rule_of_keyed hf hl
    exact fun hk => hproject ((h.meets.wellKeyed hrule hv).mem_of_keyedBy hk)

/-- The run has a say in no attribute but the project. -/
theorem lookup_setAll_attributes {es : Entries} {attr : String} (h : attr ≠ "project") :
    (es.setAll a.attributes).lookup attr = es.lookup attr := by
  have hset : es.setAll a.attributes = es.set "project" (.text a.parameters.project) := rfl
  rw [hset, Entries.lookup_set, if_neg h]

theorem Ready.resolveField_congr (h : j.Ready) (hfree : j.FreeOfProject)
    (hf : field ∈ Field.apps :: keyedFields) :
    j.resolveField a item field = j.resolveField b item field := by
  rw [resolveField_eq hf, resolveField_eq hf]
  cases hv : j.get? field with
  | none => rfl
  | some v =>
    have hsame : Keyed.evaluate item (j.entries.setAll a.attributes) v =
        Keyed.evaluate item (j.entries.setAll b.attributes) v := by
      refine Keyed.evaluate_congr fun attr hk => ?_
      have hattr : attr ≠ "project" := fun e => h.not_keyedBy_project hfree hf hv (e ▸ hk)
      rw [lookup_setAll_attributes hattr, lookup_setAll_attributes hattr]
    simp only [hsame]

theorem Ready.resolveFields_congr {fields : List String} (h : j.Ready) (hfree : j.FreeOfProject)
    (hf : fields ⊆ keyedFields) :
    j.resolveFields a item fields = j.resolveFields b item fields := by
  induction fields generalizing j with
  | nil => rfl
  | cons field fields ih =>
    have hmem : field ∈ Field.apps :: keyedFields :=
      List.mem_cons_of_mem _ (hf List.mem_cons_self)
    rw [Job.resolveFields, Job.resolveFields, h.resolveField_congr hfree hmem]
    cases hm : j.resolveField b item field with
    | error e => rfl
    | ok m =>
      exact ih (h.resolveField hmem hm) (hfree.edited (edited_resolveField hmem hm))
        fun l hl => hf (List.mem_cons_of_mem _ hl)

end Job

/-! ### Options -/

/-- A rule without branches is for all projects. -/
theorem UrlRule.applies_of_no_branches {rule : UrlRule} (h : rule.branches = [])
    (platform testName project : String) (isTry : Bool) :
    rule.applies platform testName project isTry =
      (Text.startsWith platform rule.platformPrefix &&
        rule.testNames.any (Text.contains testName)) := by
  simp [applies, h]

theorem Job.harnessOptions_congr : j.harnessOptions a = j.harnessOptions b := by
  have hall : ∀ rule ∈ UrlRule.table, rule.branches = [] := by decide
  have hrules : UrlRule.table.filter (·.applies j.testPlatform j.testName a.parameters.project
      a.parameters.isTry) = UrlRule.table.filter (·.applies j.testPlatform j.testName
        b.parameters.project b.parameters.isTry) := by
    refine List.filter_congr fun rule hrule => ?_
    rw [UrlRule.applies_of_no_branches (hall rule hrule),
      UrlRule.applies_of_no_branches (hall rule hrule)]
  rw [harnessOptions, harnessOptions, hrules]

/-! ### Stages -/

/-- A stage makes the same of a job in both runs, or fails alike. -/
theorem replace_congr (hready : s ∈ fanStages → j.Ready) (hfree : j.FreeOfProject) (i : Nat) :
    s.replace a i j = s.replace b i j := by
  cases s with
  | schema | defaults | pageload | condprof | subtests => rfl
  | apps =>
    have hw : j.withApps a = j.withApps b :=
      (hready (by decide)).resolveField_congr hfree List.mem_cons_self
    rw [Stage.replace, Stage.replace, Job.splitApps, Job.splitApps, hw]
  | keyed =>
    have hr : j.resolved a = j.resolved b :=
      (hready (by decide)).resolveFields_congr hfree (List.Subset.refl _)
    rw [Stage.replace, Stage.replace, hr]
  | options =>
    rw [Stage.replace, Stage.replace, Job.withOptions, Job.withOptions,
      Job.harnessOptions_congr (a := a) (b := b)]

theorem freeOfProject_kept : KeptBySteps a fun _ j => j.FreeOfProject :=
  fun _ _ _ _ _ _ hready hfree hstep => hfree.edited (hstep.edited hready)

/-! ### Runs -/

theorem replaceAll_congr {f g : Nat → Job → Except Failure (List Job)} {i : Nat} {js : List Job}
    (h : ∀ i, ∀ j ∈ js, f i j = g i j) : replaceAll f i js = replaceAll g i js := by
  induction js generalizing i with
  | nil => rfl
  | cons j js ih =>
    rw [replaceAll, replaceAll, h i j List.mem_cons_self,
      ih fun i k hk => h i k (List.mem_cons_of_mem _ hk)]

/-- Runs whose stages make the same of all jobs that they meet give the same. -/
theorem expandThrough_congr {kept : List Stage → Job → Prop} (hkept : KeptByStages a kept)
    (hsame : ∀ done s rest, done ++ s :: rest = Stage.all → ∀ i j, kept done j →
      s.replace a i j = s.replace b i j) {done stages rest : List Stage} {js : List Job}
    (hall : done ++ stages ++ rest = Stage.all) (hjs : ∀ j ∈ js, kept done j) :
    expandThrough a stages js = expandThrough b stages js := by
  induction stages generalizing done js with
  | nil => rfl
  | cons s stages ih =>
    have hs : done ++ s :: (stages ++ rest) = Stage.all := by simpa using hall
    have happly : s.apply a js = s.apply b js :=
      replaceAll_congr fun i j hj => hsame done s _ hs i j (hjs j hj)
    rw [expandThrough, expandThrough, ← happly]
    cases hm : s.apply a js with
    | error e => rfl
    | ok made => exact ih (by simpa using hall) (apply_keeps hkept hs hjs hm)

/-- **Parameters of a run reach jobs only through `by-project`.**  Two runs, of any kind and with
any parameters, make the same of all lists of jobs whose platforms are not keyed by the project, or
fail alike. -/
theorem expand_congr_settings (a b : Settings) {js : List Job}
    (h : ∀ j ∈ js, ∀ v, j.get? Field.limitPlatforms = some v → ¬ Keyed.KeyedBy "project" v) :
    expand a js = expand b js := by
  have hsame : ∀ done s rest, done ++ s :: rest = Stage.all → ∀ i j,
      j.Checked done ∧ j.FreeOfProject → s.replace a i j = s.replace b i j :=
    fun done s rest hall i j hj => replace_congr (hj.1.ready_of_fan hall) hj.2 i
  have hstart : ∀ j ∈ js, j.Checked [] ∧ j.FreeOfProject := fun j hj => ⟨⟨nofun, nofun⟩, h j hj⟩
  have hall : [] ++ Stage.all ++ [] = Stage.all := rfl
  exact expandThrough_congr freeOfProject_kept.checked_and hsame hall hstart

/-- Platforms that depend on an attribute. -/
def platformsBy (attr : String) : Value :=
  .mapping [("by-" ++ attr, .mapping [("autoland", .list [.text "android-hw-p2"]),
    ("default", .list [])])]

/-- Platforms that depend on the app, and for one app on another attribute. -/
def fenixPlatformsBy (attr : String) : Value :=
  .mapping [("by-app", .mapping [("fenix", platformsBy attr), ("default", .null)])]

/-- A job for an app that is limited to some platforms. -/
def limitedSample (attr : String) : Job := ⟨leastFields ++ [(Field.apps, .list [.text "fenix"]),
  (Field.limitPlatforms, fenixPlatformsBy attr)]⟩

/-- What becomes of it if the platform decides. -/
def limitedRecord : Job := ⟨[
  (Field.testName, .text "raptor-tp6m-amazon-fenix"),
  (Field.testPlatform, .text "android-hw-p2"), (Field.requireSignedExtensions, .bool false),
  (Field.symbol, .text "Rap-fenix(amazon)"),
  (Field.description, .text "Raptor tp6m on amazon on Fenix"),
  (Field.limitPlatforms, .list []), (Field.tryName, .text "raptor-tp6m-amazon-fenix"),
  (Field.mozharness, .mapping [(Field.extraOptions, .list [.text "--app=fenix"])])]⟩

/-- A run that is not the usual one in anything. -/
def tryRun : Settings where
  kind := "browsertime"
  parameters := ⟨"autoland", some "try_task_config", some "3", [("pushlog_id", .text "7")]⟩

theorem expand_limitedSample :
    (∀ j ∈ [limitedSample "test-platform"], ∀ v, j.get? Field.limitPlatforms = some v →
      ¬ Keyed.KeyedBy "project" v) ∧
    expand {} [limitedSample "test-platform"] = .ok [limitedRecord] ∧
    expand tryRun [limitedSample "test-platform"] = .ok [limitedRecord] := by
  have hinner : ¬ Keyed.KeyedBy "project" (platformsBy "test-platform") := by
    have hv : Keyed.parts? (platformsBy "test-platform") = some ("test-platform", _) := rfl
    rw [Keyed.keyedBy_iff_of_keyed hv]
    simp +decide [Keyed.not_keyedBy_of_plain (v := .list _) rfl]
  have hfree : ∀ j ∈ [limitedSample "test-platform"], ∀ v,
      j.get? Field.limitPlatforms = some v → ¬ Keyed.KeyedBy "project" v := by
    intro j hj v hv
    cases List.mem_singleton.1 hj
    cases hv
    have hv : Keyed.parts? (fenixPlatformsBy "test-platform") = some ("app", _) := rfl
    rw [Keyed.keyedBy_iff_of_keyed hv]
    simp +decide [hinner, Keyed.not_keyedBy_of_plain (v := .null) rfl]
  have h : expand {} [limitedSample "test-platform"] = .ok [limitedRecord] := by decide +kernel
  exact ⟨hfree, h, (expand_congr_settings tryRun {} hfree).trans h⟩

-- keyed by the project, the platforms are those of each run
example : expand tryRun [limitedSample "project"] ≠ expand {} [limitedSample "project"] := by
  decide +kernel

end JobExpansion
