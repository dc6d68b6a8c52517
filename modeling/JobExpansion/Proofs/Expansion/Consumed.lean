import JobExpansion.Proofs.Expansion.Independence
import JobExpansion.Proofs.Expansion.Trace
import JobExpansion.Proofs.Text.Starts

/-!
# Consumed fields

Fields that a stage turns into jobs, names or options are gone after it, and no later stage brings
them back. Only the flag that tells a test to run cold may be left over: it is read for tests of one
family, and a job of another that had it from the start keeps it. `expandThrough_consumes` says so
of every run of the first stages.
-/

namespace JobExpansion

variable {settings : Settings} {j m r : Job} {s : Stage}

/-! ### The flag for cold runs -/

namespace Job

theorem isBrowsertime_congr (h : r.get? Field.testName = j.get? Field.testName) :
    r.isBrowsertime = j.isBrowsertime := by
  unfold isBrowsertime Job.testName text?
  rw [h]

theorem Carries.isBrowsertime_eq {id : Identity} (h : j.Carries id) :
    j.isBrowsertime = Text.startsWith id.testName browsertimePrefix := by
  rw [isBrowsertime, testName_of_text h.testName]

/-- The flag is set for tests of the family only. -/
theorem get?_cold_of_toLoad {isCold : Bool} (h : j.Ready) (hr : j.toLoad isCold = .ok r)
    (hc : r.get? Field.cold ≠ none) : j.get? Field.cold ≠ none ∨ r.isBrowsertime = true := by
  obtain ⟨id, hid⟩ := h.carries
  have hname : r.Carries (id.toLoad isCold) := hid.toLoad h hr
  cases isCold with
  | false =>
    cases hr
    rw [get?_erase_of_ne (by decide)] at hc
    exact .inl hc
  | true =>
    obtain ⟨test, -, rfl⟩ := h.toLoad_cold hid hr
    by_cases hfamily : Text.startsWith id.testName browsertimePrefix = true
    · refine .inr ?_
      rw [hname.isBrowsertime_eq]
      exact Text.startsWith_append hfamily
    · rw [get?_relabel (by decide), get?_set_of_ne (by decide), markCold, if_neg hfamily,
        get?_set_of_ne (by decide), get?_erase_of_ne (by decide)] at hc
      exact .inl hc

theorem get?_cold_dropConsumed :
    j.dropConsumed.get? Field.cold = if j.isBrowsertime then none else j.get? Field.cold := by
  have hfamily : (j.erase Field.app).isBrowsertime = j.isBrowsertime :=
    isBrowsertime_congr (get?_erase_of_ne (by decide))
  simp only [dropConsumed, hfamily]
  split <;> simp +decide [get?_erase]

theorem get?_cold_withOptions (hr : j.withOptions settings = .ok r) :
    r.get? Field.cold = if j.isBrowsertime then none else j.get? Field.cold := by
  obtain ⟨m, hm, hr⟩ := bind_eq_ok_iff.1 hr
  have hfamily : m.isBrowsertime = j.isBrowsertime :=
    isBrowsertime_congr (get?_markMetrics hm (by decide) (by decide))
  rw [(edited_addOptions hr).get?_eq (by decide), get?_cold_dropConsumed, hfamily,
    get?_markMetrics hm (by decide) (by decide)]

/-- The options leave the flag to no test of the family. -/
theorem isBrowsertime_of_withOptions (hr : j.withOptions settings = .ok r)
    (hc : r.get? Field.cold ≠ none) : r.isBrowsertime = false := by
  have hname : r.isBrowsertime = j.isBrowsertime :=
    isBrowsertime_congr (get?_withOptions hr (by decide))
  rw [get?_cold_withOptions hr] at hc
  rw [hname, ← Bool.not_eq_true]
  exact fun hfamily => hc (if_pos hfamily)

end Job

/-- The stages after the one that sets the flag keep a test in its family: its name only grows. -/
theorem Stage.Step.isBrowsertime (hs : s ∈ [Stage.condprof, .subtests, .options])
    (hready : s ∈ fanStages → j.Ready) (hr : s.Step settings j r) (hj : j.isBrowsertime = true) :
    r.isBrowsertime = true := by
  simp only [List.mem_cons, List.not_mem_nil, or_false] at hs
  rcases hs with rfl | rfl | rfl
  · obtain ⟨id, hid⟩ := (hready (by decide)).carries
    obtain ⟨isTwin, htwin⟩ := hr
    rw [hid.isBrowsertime_eq] at hj
    rw [(hid.toProfile htwin).isBrowsertime_eq, Identity.toProfile_testName]
    exact Text.startsWith_append hj
  · obtain ⟨id, hid⟩ := (hready (by decide)).carries
    obtain ⟨chunk, hchunk⟩ := hr
    rw [hid.isBrowsertime_eq] at hj
    rw [(hid.toChunk hchunk).isBrowsertime_eq, Identity.toChunk_testName]
    exact Text.startsWith_append hj
  · rw [Job.isBrowsertime_congr (Job.get?_withOptions hr (by decide)), hj]

/-- Where the flag of a job comes from, after the stages so far: from the job `j`, or from the stage
that sets it for a test of the family, where the options take it away. -/
structure Job.ColdFrom (j : Job) (done : List Stage) (r : Job) : Prop where
  before : .options ∉ done → r.get? Field.cold ≠ none →
    j.get? Field.cold ≠ none ∨ (.pageload ∈ done ∧ r.isBrowsertime = true)
  after : .options ∈ done → r.get? Field.cold ≠ none →
    j.get? Field.cold ≠ none ∧ r.isBrowsertime = false

theorem coldFrom_kept : KeptBySteps settings j.ColdFrom := by
  intro done s rest hall m r hready hm hstep
  have hlast : .options ∉ done := Stage.options_not_mem hall
  have hloaded : .pageload ∈ done → s ∈ [Stage.condprof, .subtests, .options] := fun h =>
    Stage.pairwise_of_all (R := fun t s => t = .pageload → s ∈ [Stage.condprof, .subtests,
      .options]) (by decide) hall _ h rfl
  have hfamily : .pageload ∈ done → m.isBrowsertime = true → r.isBrowsertime = true :=
    fun h => hstep.isBrowsertime (hloaded h) hready
  by_cases hoptions : s = .options
  · subst hoptions
    refine ⟨fun h => absurd (by simp) h, fun _ hc => ?_⟩
    have hnone : r.isBrowsertime = false := Job.isBrowsertime_of_withOptions hstep hc
    have hcm : m.get? Field.cold ≠ none := fun h =>
      hc ((hstep.edited hready).get?_eq_none (by decide) h)
    rcases hm.before hlast hcm with h | ⟨h, hb⟩
    · exact ⟨h, hnone⟩
    · rw [hfamily h hb] at hnone
      cases hnone
  · refine ⟨fun _ hc => ?_, fun h => absurd h (by simp [hlast, Ne.symm hoptions])⟩
    have hcm : m.get? Field.cold ≠ none ∨ (s = .pageload ∧ r.isBrowsertime = true) := by
      by_cases hpageload : s = .pageload
      · subst hpageload
        obtain ⟨isCold, hcold⟩ := hstep
        exact (Job.get?_cold_of_toLoad (hready (by decide)) hcold hc).imp_right fun h => ⟨rfl, h⟩
      · have hk : Field.cold ∉ s.drops ++ s.sets := by
          revert hoptions hpageload
          cases s <;> decide
        rw [(hstep.edited hready).get?_eq hk] at hc
        exact .inl hc
    rcases hcm with hcm | ⟨rfl, hb⟩
    · exact (hm.before hlast hcm).imp_right fun h => ⟨List.mem_append_left _ h.1, hfamily h.1 h.2⟩
    · exact .inr ⟨by simp, hb⟩

/-! ### All runs -/

/-- **Consumed fields never reappear.**  After the first stages of an expansion no job has a field
that one of them consumes. After the options a job that comes from the job `j` of the list has the
flag for cold runs only if its name does not start as those of the family do, and `j` has the flag
itself. -/
theorem expandThrough_consumes {stages : List Stage} (hstages : stages <+: Stage.all)
    {js out : List Job} (h : expandThrough settings stages js = .ok out) :
    ∃ parts : List (List Job), parts.flatten = out ∧ List.Forall₂ (fun j part =>
      expandThrough settings stages [j] = .ok part ∧ ∀ r ∈ part,
        (∀ s ∈ stages, ∀ k ∈ s.consumes, r.has k = false) ∧
        (.options ∈ stages → r.has Field.cold = true →
          Text.startsWith r.testName Job.browsertimePrefix = false ∧ j.has Field.cold = true))
      js parts := by
  obtain ⟨parts, hparts, rfl⟩ := expandThrough_iff_parts.1 h
  refine ⟨parts, rfl, hparts.imp fun j part hj => ⟨hj, fun r hr => ⟨?_, ?_⟩⟩⟩
  · intro s hs k hk
    have hconsumed : r.Consumed stages := consumed_kept.of_singleton hstages nofun hj r hr
    rw [← Bool.not_eq_true, Job.has_iff, not_not]
    exact hconsumed s hs k hk
  · intro hs hc
    have hstart : j.ColdFrom [] j := ⟨fun _ => .inl, nofun⟩
    have hcold : j.ColdFrom stages r := coldFrom_kept.of_singleton hstages hstart hj r hr
    exact (hcold.after hs (Job.has_iff.1 hc)).symm.imp_right Job.has_iff.2

/-- A job that loads pages cold, with the flag that tests of another family are told by. -/
def flaggedSample : Job := ⟨Schema.leastFields ++ [(Field.raptorTest, .text "raptor-tp6m"),
  (Field.pageload, .text "cold"), (Field.cold, .bool true)]⟩

/-- What becomes of it: the flag passes through. -/
def flaggedRecord : Job := ⟨[
  (Field.testName, .text "raptor-tp6m-amazon-cold"),
  (Field.testPlatform, .text "android-hw-p2"), (Field.requireSignedExtensions, .bool false),
  (Field.symbol, .text "Rap(amazon-c)"),
  (Field.description, .text "Raptor tp6m on amazon using cold pageload"),
  (Field.cold, .bool true), (Field.tryName, .text "raptor-tp6m-amazon-cold"),
  (Field.maxRunTime, .number (.int 3000)),
  (Field.mozharness, .mapping [(Field.extraOptions, .list [.text "--test=raptor-tp6m-cold"])])]⟩

theorem expandThrough_flaggedSample :
    Stage.all <+: Stage.all ∧
      expandThrough {} Stage.all [flaggedSample] = .ok [flaggedRecord] ∧
      flaggedRecord.has Field.cold = true ∧
      (∀ s ∈ Stage.all, ∀ k ∈ s.consumes, flaggedRecord.has k = false) ∧
      Text.startsWith flaggedRecord.testName Job.browsertimePrefix = false ∧
      flaggedSample.has Field.cold = true := by
  have h : expandThrough {} Stage.all [flaggedSample] = .ok [flaggedRecord] := by decide +kernel
  have hcold : flaggedRecord.has Field.cold = true := by decide
  obtain ⟨parts, -, hall⟩ := expandThrough_consumes (List.prefix_refl Stage.all) h
  obtain ⟨part, _, ⟨hpart, hrecords⟩, -, -⟩ := List.forall₂_cons_left_iff.1 hall
  cases h.symm.trans hpart
  obtain ⟨hgone, hflag⟩ := hrecords flaggedRecord List.mem_cons_self
  exact ⟨List.prefix_refl _, h, hcold, hgone, hflag (by decide) hcold⟩

end JobExpansion
