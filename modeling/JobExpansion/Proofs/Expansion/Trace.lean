import JobExpansion.Proofs.Expansion.Progress
import JobExpansion.Proofs.Expansion.Steps

/-!
# Traces of a run on jobs

What the edits of all stages done so far amount to. No stage sets a field that it or an earlier one
takes out, so what has been consumed stays away (`consumed_kept`), fields outside the footprints of
the stages are as they were (`untouched_kept`), and fields that stay keep their order
(`ordered_kept`).
-/

namespace JobExpansion

variable {settings : Settings} {j r : Job} {s : Stage} {k : String}

/-! ### One step -/

theorem Job.get?_dropConsumed_eq_none
    (hk : k ∈ [Field.app, Field.activity, Field.binaryPath, Field.raptorTest]) :
    j.dropConsumed.get? k = none := by
  have happ : (if (j.erase Field.app).isBrowsertime then (j.erase Field.app).erase Field.cold
      else j.erase Field.app).get? Field.app = none := by
    split <;> simp [get?_erase]
  simp only [List.mem_cons, List.not_mem_nil, or_false] at hk
  rcases hk with rfl | rfl | rfl | rfl <;> simp +decide [dropConsumed, get?_erase, happ]

theorem Job.get?_withOptions_eq_none (hr : j.withOptions settings = .ok r)
    (hk : k ∈ Stage.options.consumes) : r.get? k = none := by
  obtain ⟨m, hm, hr⟩ := bind_eq_ok_iff.1 hr
  have hset : k ∉ [Field.mozharness] := by
    revert k
    decide
  refine (edited_addOptions hr).get?_eq_none hset ?_
  by_cases hv : k = Field.runVisualMetrics
  · subst hv
    exact edited_dropConsumed.get?_eq_none List.not_mem_nil
      ((edited_markMetrics hm).get?_erased (by decide))
  · refine get?_dropConsumed_eq_none ?_
    simpa [Stage.consumes, hv] using hk

namespace Stage

/-- A step edits no fields but those of its stage. -/
theorem Step.edited (h : s ∈ fanStages → j.Ready) (hr : s.Step settings j r) :
    j.Edited s.sets s.drops r := by
  cases s with
  | schema =>
    cases hr
    exact .refl
  | defaults =>
    cases hr
    exact Job.edited_withDefaults
  | apps =>
    obtain ⟨app, happ⟩ := hr
    exact (Job.edited_toApp (h (by decide)) happ).of_erase
  | keyed => exact Job.edited_resolved hr
  | pageload =>
    obtain ⟨isCold, hcold⟩ := hr
    exact (Job.edited_toLoad (h (by decide)) hcold).of_erase
  | condprof =>
    obtain ⟨isTwin, htwin⟩ := hr
    exact (Job.edited_toProfile (h (by decide)) htwin).of_erase
  | subtests =>
    obtain ⟨chunk, hchunk⟩ := hr
    exact (Job.edited_toChunk (h (by decide)) hchunk).of_erase
  | options => exact Job.edited_withOptions hr

/-- What a stage consumes is gone after its step. -/
theorem Step.get?_eq_none (h : s ∈ fanStages → j.Ready) (hr : s.Step settings j r)
    (hk : k ∈ s.consumes) : r.get? k = none := by
  cases s with
  | schema => cases hk
  | defaults => cases hk
  | apps =>
    obtain ⟨app, happ⟩ := hr
    cases List.mem_singleton.1 hk
    exact (Job.edited_toApp (h (by decide)) happ).get?_erased (by decide)
  | keyed => cases hk
  | pageload =>
    obtain ⟨isCold, hcold⟩ := hr
    cases List.mem_singleton.1 hk
    exact (Job.edited_toLoad (h (by decide)) hcold).get?_erased (by decide)
  | condprof =>
    obtain ⟨isTwin, htwin⟩ := hr
    cases List.mem_singleton.1 hk
    exact (Job.edited_toProfile (h (by decide)) htwin).get?_erased (by decide)
  | subtests =>
    obtain ⟨chunk, hchunk⟩ := hr
    cases List.mem_singleton.1 hk
    exact (Job.edited_toChunk (h (by decide)) hchunk).get?_erased (by decide)
  | options => exact Job.get?_withOptions_eq_none hr hk

/-! ### The order of stages -/

theorem mem_drops_of_mem_consumes (hk : k ∈ s.consumes) : k ∈ s.drops := by
  cases s <;> first | exact hk | exact List.mem_cons_of_mem _ hk

/-- No stage sets a field that it takes out. -/
theorem not_mem_drops_of_mem_sets (hk : k ∈ s.sets) : k ∉ s.drops := by
  cases s <;> revert k <;> decide

theorem pairwise_of_all {R : Stage → Stage → Prop} (h : all.Pairwise R) {done rest : List Stage}
    (hall : done ++ s :: rest = all) : ∀ t ∈ done, R t s := by
  rw [← hall, List.pairwise_append] at h
  exact fun t ht => h.2.2 t ht s List.mem_cons_self

/-- **What a stage takes out no later stage sets.** -/
theorem not_mem_sets_later {done rest : List Stage} (hall : done ++ s :: rest = all) :
    ∀ t ∈ done, ∀ k ∈ t.drops, k ∉ s.sets :=
  pairwise_of_all (R := fun t s => ∀ k ∈ t.drops, k ∉ s.sets) (by decide) hall

/-- The options come last. -/
theorem options_not_mem {done rest : List Stage} (hall : done ++ s :: rest = all) :
    .options ∉ done := by
  have hnone : ∀ t ∈ done, t ≠ .options :=
    pairwise_of_all (R := fun t _ => t ≠ .options) (by decide) hall
  exact fun h => hnone _ h rfl

end Stage

/-! ### Along a run -/

/-- What the stages so far have consumed is gone. -/
def Job.Consumed (done : List Stage) (r : Job) : Prop :=
  ∀ s ∈ done, ∀ k ∈ s.consumes, r.get? k = none

theorem consumed_kept : KeptBySteps settings Job.Consumed := by
  intro done s rest hall j r hready hj hstep t ht k hk
  rcases List.mem_append.1 ht with ht | ht
  · have hset : k ∉ s.sets :=
      Stage.not_mem_sets_later hall t ht k (Stage.mem_drops_of_mem_consumes hk)
    exact (hstep.edited hready).get?_eq_none hset (hj t ht k hk)
  · cases List.mem_singleton.1 ht
    exact hstep.get?_eq_none hready hk

/-- Fields that no stage so far edits are as they were. -/
def Job.Untouched (j : Job) (done : List Stage) (r : Job) : Prop :=
  ∀ k, (∀ s ∈ done, k ∉ s.drops ++ s.sets) → r.get? k = j.get? k

theorem untouched_kept : KeptBySteps settings j.Untouched := by
  intro done s rest hall m r hready hm hstep k hk
  have hs : k ∉ s.drops ++ s.sets := hk s (by simp)
  rw [(hstep.edited hready).get?_eq hs, hm k fun t ht => hk t (List.mem_append_left _ ht)]

/-- Fields that no stage so far takes out are still there, and fields that are still there keep
their order. -/
structure Job.Ordered (j : Job) (done : List Stage) (r : Job) : Prop where
  there : ∀ k, (∀ s ∈ done, k ∉ s.drops) → j.get? k ≠ none → r.get? k ≠ none
  inOrder : j.InOrder r

theorem ordered_kept : KeptBySteps settings j.Ordered := by
  intro done s rest hall m r hready hm hstep
  have hedited : m.Edited s.sets s.drops r := hstep.edited hready
  constructor
  · intro k hk hj
    have hs : k ∉ s.drops := hk s (by simp)
    exact hedited.get?_ne_none hs (hm.there k (fun t ht => hk t (List.mem_append_left _ ht)) hj)
  · -- a field of the job that is set has not been taken out, and so has kept its place
    refine hm.inOrder.edited hedited (fun k hk => hm.there k fun t ht hd => ?_) fun k hk =>
      Stage.not_mem_drops_of_mem_sets hk
    exact Stage.not_mem_sets_later hall t ht k hd hk

end JobExpansion
