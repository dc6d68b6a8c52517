import JobExpansion.Proofs.Expansion.Branches
import JobExpansion.Proofs.Expansion.Fans
import JobExpansion.Proofs.Expansion.Runs

/-!
# Staged and nested expansion

The stages take all jobs through one fan-out after the other. `expand_singleton_eq_ok_iff` says that
for one job this is the same as going through its branches one by one: by apps, then by the modes of
loading pages that the job of an app has, then by profiles, then by subtests.
-/

namespace JobExpansion

open Schema

variable {settings : Settings} {j r : Job}

namespace Job

/-! ### Apps -/

theorem Ready.withApps_spec (h : j.Ready) (hr : j.withApps settings = .ok r) :
    r.erase Field.apps = j.erase Field.apps ∧
      ∃ names : List String, r.appList = names.map .text := by
  rw [Job.withApps, resolveField_eq List.mem_cons_self] at hr
  cases hv : j.get? Field.apps with
  | none =>
    rw [hv] at hr
    cases hr
    exact ⟨rfl, [], by simp [appList, hv]⟩
  | some v =>
    simp only [hv] at hr
    split at hr
    · next w hw =>
      cases hr
      have hwk : WellKeyed ⟨Field.apps, false, .stringList, ["test-platform"]⟩ v :=
        h.meets.wellKeyed (by decide) hv
      obtain ⟨names, rfl⟩ := texts_of_accepts (hwk.accepts_evaluate hw)
      exact ⟨erase_set_self _ _ _, names, by simp [appList, get?_set_self, Value.list?]⟩
    · cases hr

theorem forApps_madeBy {item : String} (names : List String) :
    MadeBy (j.forApps item (names.map .text)) (.ok names) (j.forApp ·) := by
  induction names with
  | nil => exact .nil
  | cons app names ih => exact ih.cons

theorem Ready.splitApps_madeBy (h : j.Ready) :
    MadeBy (j.splitApps settings) (j.appChoices settings) (j.toApp ·) := by
  unfold Job.splitApps appChoices
  cases hw : j.withApps settings with
  | error e =>
    intro out
    simp
  | ok r =>
    obtain ⟨he, names, hn⟩ := h.withApps_spec hw
    simp only [ok_bind, hn, he, Value.filterMap_text]
    cases names with
    | nil => exact .single rfl
    | cons app names => exact (forApps_madeBy (app :: names)).map fun _ => rfl

/-! ### Modes of loading pages -/

theorem splitPageload_madeBy : MadeBy j.splitPageload (.ok j.loadChoices) (j.toLoad ·) := by
  unfold splitPageload loadChoices
  cases PageloadMode.ofValue? (j.get? Field.pageload) with
  | warm => exact .single rfl
  | cold => exact MadeBy.edited (j.toLoad ·) true
  | both => exact MadeBy.twin (j.toLoad ·) rfl true

/-! ### Profiles -/

theorem unprofiled_erase_condprof : (j.erase Field.condprof).unprofiled = j.unprofiled := by
  unfold unprofiled Job.testName testPlatform text?
  rw [get?_erase_of_ne (by decide), get?_erase_of_ne (by decide)]

theorem splitProfile_madeBy : MadeBy j.splitProfile (.ok j.profileChoices) (j.toProfile ·) := by
  unfold splitProfile profileChoices
  simp only [unprofiled_erase_condprof]
  cases j.flag Field.condprof with
  | false => exact .single rfl
  | true =>
    cases j.unprofiled with
    | true => exact .single rfl
    | false => exact MadeBy.twin (j.toProfile ·) rfl true

/-! ### Subtests -/

theorem chunks_madeBy {symbol : Symbol} {number : Nat} (names : List String) :
    MadeBy (j.chunks symbol number (names.map .text)) (.ok (names.zipIdx number))
      (fun c => j.chunk symbol c.2 c.1) := by
  induction names generalizing number with
  | nil => exact .nil
  | cons subtest names ih =>
    rw [List.map_cons, List.zipIdx_cons, chunks]
    exact ih.cons (c := (subtest, number))

theorem subtests_of_list {names : List String}
    (h : j.get? Field.raptorSubtests = some (.list (names.map .text))) : j.subtests = names := by
  rw [subtests, h]
  exact Value.filterMap_text names

theorem Ready.splitSubtests_madeBy (h : j.Ready) :
    MadeBy j.splitSubtests (.ok j.chunkChoices) (j.toChunk ·) := by
  unfold Job.splitSubtests chunkChoices
  cases hv : j.get? Field.raptorSubtests with
  | none =>
    rw [show j.subtests = [] by rw [subtests, hv]; rfl]
    exact .single rfl
  | some v =>
    have hrule : ⟨Field.raptorSubtests, false, .stringList, []⟩ ∈ rules := by decide
    obtain ⟨names, rfl⟩ := texts_of_accepts (h.meets.accepts hrule rfl hv)
    rw [subtests_of_list hv]
    cases names with
    | nil => exact .single rfl
    | cons subtest names =>
      have he : (j.erase Field.raptorSubtests).Ready := h.erase (by decide) (by decide)
      obtain ⟨id, -, hs⟩ := he.symbol
      simp only [List.map_cons, hs, ok_bind]
      refine (chunks_madeBy (subtest :: names)).map fun c => ?_
      simp only [Job.toChunk, hs, ok_bind]

end Job

/-! ### All stages -/

/-- The branches of a ready job, the edits being those of one branch each. -/
theorem Job.Ready.madeByBranches (h : j.withDefaults.Ready) :
    MadeBy (replaceThrough settings fanStages j.withDefaults) (j.branches settings)
      (Branch.record settings · j) := by
  refine h.splitApps_madeBy.fan fun app m₁ h₁ => MadeBy.one fun m₂ h₂ => ?_
  refine Job.splitPageload_madeBy.fan fun isCold m₃ h₃ => ?_
  refine Job.splitProfile_madeBy.fan fun isTwin m₄ h₄ => ?_
  have hm₁ : m₁.Ready := holds_of_eq_ok (h.toApp app) h₁
  have hm₄ : m₄.Ready := ((hm₁.resolved h₂).toLoad h₃).toProfile h₄
  rw [replaceThrough, replaceThrough_singleton]
  refine (hm₄.splitSubtests_madeBy.andThen (Job.withOptions settings)).map fun chunk => ?_
  simp only [Branch.record, h₁, h₂, h₃, h₄, ok_bind]

/-- The jobs of an expansion and the branches that they come from. -/
theorem branches_of_expand {out : List Job} (h : expand settings [j] = .ok out) :
    j.withDefaults.Ready ∧ ∃ bs, j.branches settings = .ok bs ∧
      List.Forall₂ (fun b r => b.record settings j = .ok r) bs out := by
  rw [expand_iff_each, List.forall_mem_singleton, each_singleton] at h
  have hready := Job.ready_withDefaults (validate_eq_ok_iff.1 h.1)
  exact ⟨hready, (hready.madeByBranches out).1 h.2⟩

/-- **Staged expansion is nested expansion.**  An expansion of one job succeeds exactly when the job
meets the schema and all its branches can be told and followed to their ends, and it lists what
becomes of the job on each branch, in the order of the branches. -/
theorem expand_singleton_eq_ok_iff {out : List Job} :
    expand settings [j] = .ok out ↔ validate j = .ok () ∧
      ∃ bs, j.branches settings = .ok bs ∧
        List.Forall₂ (fun b r => b.record settings j = .ok r) bs out := by
  rw [expand_iff_each, List.forall_mem_singleton, each_singleton]
  refine and_congr_right fun hv => ?_
  exact (Job.ready_withDefaults (validate_eq_ok_iff.1 hv)).madeByBranches out

-- all subtests of one mode come before those of the next
example : Job.branches {} ⟨leastFields ++ [(Field.raptorTest, .text "raptor-tp6m"),
      (Field.pageload, .text "both"),
      (Field.raptorSubtests, .list [.text "amazon", .text "google"])]⟩ =
    .ok [⟨none, false, false, some (1, "amazon")⟩, ⟨none, false, false, some (2, "google")⟩,
      ⟨none, true, false, some (1, "amazon")⟩, ⟨none, true, false, some (2, "google")⟩] := by
  decide +kernel

end JobExpansion
