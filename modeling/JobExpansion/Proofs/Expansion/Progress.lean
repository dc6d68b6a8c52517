import JobExpansion.Proofs.Expansion.Nested

/-!
# Progress of a run

What is true of the jobs in the middle of a run. After the check of the schema every job meets it,
and after the defaults every job is ready and stays so (`checked_kept`), whichever stage comes next.
`Stage.Step` says what a stage can make of such a job; a property that all steps keep
(`KeptBySteps`) is one of every job that a run gives.
-/

namespace JobExpansion

open Schema

variable {settings : Settings} {j : Job} {s : Stage}

/-! ### What a stage can make of a job -/

/-- A stage makes the job `r`, among others, of the job `j`. -/
def Stage.Step (settings : Settings) : Stage → Job → Job → Prop
  | .schema, j, r => r = j
  | .defaults, j, r => r = j.withDefaults
  | .apps, j, r => ∃ app, j.toApp app = .ok r
  | .keyed, j, r => j.resolved settings = .ok r
  | .pageload, j, r => ∃ isCold, j.toLoad isCold = .ok r
  | .condprof, j, r => ∃ isTwin, j.toProfile isTwin = .ok r
  | .subtests, j, r => ∃ chunk, j.toChunk chunk = .ok r
  | .options, j, r => j.withOptions settings = .ok r

theorem Stage.step_of_mem (h : s ∈ fanStages → j.Ready) {i : Nat} {made : List Job}
    (hm : s.replace settings i j = .ok made) {r : Job} (hr : r ∈ made) : s.Step settings j r := by
  cases s with
  | schema =>
    obtain ⟨-, -, rfl⟩ := map_eq_ok_iff.1 hm
    exact List.mem_singleton.1 hr
  | defaults =>
    cases hm
    exact List.mem_singleton.1 hr
  | apps => exact (h (by decide)).splitApps_madeBy.edit_of_mem hm hr
  | keyed =>
    obtain ⟨r', hr', rfl⟩ := map_eq_ok_iff.1 hm
    cases List.mem_singleton.1 hr
    exact hr'
  | pageload => exact Job.splitPageload_madeBy.edit_of_mem hm hr
  | condprof => exact Job.splitProfile_madeBy.edit_of_mem hm hr
  | subtests => exact (h (by decide)).splitSubtests_madeBy.edit_of_mem hm hr
  | options =>
    obtain ⟨r', hr', rfl⟩ := map_eq_ok_iff.1 hm
    cases List.mem_singleton.1 hr
    exact hr'

/-- A ready job stays ready in the stages after the defaults. -/
theorem Job.Ready.step (h : j.Ready) (hs : s ∈ fanStages) {r : Job} (hr : s.Step settings j r) :
    r.Ready := by
  cases s with
  | schema => exact absurd hs (by decide)
  | defaults => exact absurd hs (by decide)
  | apps =>
    obtain ⟨app, happ⟩ := hr
    exact holds_of_eq_ok (h.toApp app) happ
  | keyed => exact h.resolved hr
  | pageload =>
    obtain ⟨isCold, hcold⟩ := hr
    exact h.toLoad hcold
  | condprof =>
    obtain ⟨isTwin, htwin⟩ := hr
    exact h.toProfile htwin
  | subtests =>
    obtain ⟨chunk, hchunk⟩ := hr
    exact holds_of_eq_ok (h.toChunk chunk) hchunk
  | options => exact h.withOptions hr

/-! ### Jobs that have been checked -/

/-- What the stages done so far have made of a job. -/
structure Job.Checked (done : List Stage) (j : Job) : Prop where
  meets : Stage.schema ∈ done → Meets j
  ready : Stage.defaults ∈ done → j.Ready

theorem position_of_stage {done rest : List Stage} (h : done ++ s :: rest = Stage.all) :
    (s = .schema ∧ done = []) ∨ (s = .defaults ∧ done = [.schema]) ∨
      (s ∈ fanStages ∧ Stage.defaults ∈ done) := by
  match done with
  | [] =>
    cases h
    exact .inl ⟨rfl, rfl⟩
  | [_] =>
    cases h
    exact .inr (.inl ⟨rfl, rfl⟩)
  | _ :: _ :: done =>
    have hs : done ++ s :: rest = fanStages := by
      injection h with _ h
      injection h
    injection h with h1 h
    injection h with h2
    subst h1 h2
    exact .inr (.inr ⟨hs ▸ by simp, by simp⟩)

/-- A job is ready for the stage that comes next. -/
theorem Job.Checked.ready_of_fan {done rest : List Stage} (h : j.Checked done)
    (hall : done ++ s :: rest = Stage.all) (hs : s ∈ fanStages) : j.Ready := by
  rcases position_of_stage hall with ⟨rfl, -⟩ | ⟨rfl, -⟩ | ⟨-, hdone⟩
  · exact absurd hs (by decide)
  · exact absurd hs (by decide)
  · exact h.ready hdone

theorem checked_kept : KeptByStages settings Job.Checked := by
  intro done s rest hall i j made hj hm r hr
  have hstep : s.Step settings j r := Stage.step_of_mem (hj.ready_of_fan hall) hm hr
  rcases position_of_stage hall with ⟨rfl, rfl⟩ | ⟨rfl, rfl⟩ | ⟨hs, hdone⟩
  · obtain ⟨⟨⟩, hv, -⟩ := map_eq_ok_iff.1 hm
    cases hstep
    exact ⟨fun _ => validate_eq_ok_iff.1 (mapError_eq_ok_iff.1 hv), nofun⟩
  · cases hstep
    have hready : j.withDefaults.Ready := Job.ready_withDefaults (hj.meets List.mem_cons_self)
    exact ⟨fun _ => hready.meets, fun _ => hready⟩
  · have hready : r.Ready := (hj.ready hdone).step hs hstep
    exact ⟨fun _ => hready.meets, fun _ => hready⟩

/-! ### Properties that steps keep -/

/-- A property that the stages done so far have given to a job, and that each step of the next stage
gives to what it makes of the job. -/
def KeptBySteps (settings : Settings) (kept : List Stage → Job → Prop) : Prop :=
  ∀ done s rest, done ++ s :: rest = Stage.all → ∀ j r, (s ∈ fanStages → j.Ready) → kept done j →
    s.Step settings j r → kept (done ++ [s]) r

/-- What all steps keep is kept by the stages, which keep besides what they have checked. -/
theorem KeptBySteps.checked_and {kept : List Stage → Job → Prop}
    (hkept : KeptBySteps settings kept) :
    KeptByStages settings fun done j => j.Checked done ∧ kept done j := by
  intro done s rest hall i j made hj hm r hr
  have hready := hj.1.ready_of_fan hall
  exact ⟨checked_kept done s rest hall i j made hj.1 hm r hr,
    hkept done s rest hall j r hready hj.2 (Stage.step_of_mem hready hm hr)⟩

/-- **What all steps keep is true of every job at the end of a run.** -/
theorem KeptBySteps.of_expandThrough {kept : List Stage → Job → Prop} {stages : List Stage}
    {js out : List Job} (hkept : KeptBySteps settings kept) (hstages : stages <+: Stage.all)
    (hjs : ∀ j ∈ js, kept [] j) (h : expandThrough settings stages js = .ok out) :
    ∀ r ∈ out, r.Checked stages ∧ kept stages r := by
  obtain ⟨rest, hall⟩ := hstages
  have hstart : ∀ j ∈ js, j.Checked [] ∧ kept [] j := fun j hj => ⟨⟨nofun, nofun⟩, hjs j hj⟩
  exact run_keeps hkept.checked_and (show [] ++ stages ++ rest = Stage.all from hall) hstart h

/-- What is true of a job is true of all that a run makes of it. -/
theorem KeptBySteps.of_singleton {kept : List Stage → Job → Prop} {stages : List Stage}
    {out : List Job} (hkept : KeptBySteps settings kept) (hstages : stages <+: Stage.all)
    (hj : kept [] j) (h : expandThrough settings stages [j] = .ok out) :
    ∀ r ∈ out, kept stages r := by
  have hjs : ∀ i ∈ [j], kept [] i := by
    intro i hi
    cases List.mem_singleton.1 hi
    exact hj
  exact fun r hr => (hkept.of_expandThrough hstages hjs h r hr).2

end JobExpansion
