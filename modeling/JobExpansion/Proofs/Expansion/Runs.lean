import JobExpansion.Expansion.Pipeline
import JobExpansion.Proofs.Outcome

/-!
# Runs of stages

What a stage does to a list of jobs in terms of what it does to one job, and what a run of several
stages keeps. `expandThrough_eq_ok_iff` turns a run that takes all jobs through one stage after the
other into one that takes one job after the other through all stages. `run_keeps` and
`run_fails_at` carry a property of the jobs that may depend on the stages already done.
-/

namespace JobExpansion

variable {settings : Settings} {js out : List Job} {f : Failure}

/-! ### One stage -/

theorem replaceAll_eq_each {g : Job → Except Failure (List Job)} (i : Nat) (js : List Job) :
    replaceAll (fun _ => g) i js = each g js := by
  induction js generalizing i with
  | nil => rfl
  | cons j js ih => simp only [replaceAll, each, ih]

theorem mem_of_replaceAll {g : Nat → Job → Except Failure (List Job)} {i : Nat} {r : Job}
    (h : replaceAll g i js = .ok out) (hr : r ∈ out) :
    ∃ n, ∃ j ∈ js, ∃ made, g n j = .ok made ∧ r ∈ made := by
  induction js generalizing i out with
  | nil =>
    cases h
    cases hr
  | cons j js ih =>
    simp only [replaceAll, bind_eq_ok_iff, pure_eq_ok_iff] at h
    obtain ⟨made, hm, rest, hrest, rfl⟩ := h
    rcases List.mem_append.1 hr with hr | hr
    · exact ⟨i, j, List.mem_cons_self, made, hm, hr⟩
    · obtain ⟨n, k, hk, made, hm, hr⟩ := ih hrest hr
      exact ⟨n, k, List.mem_cons_of_mem _ hk, made, hm, hr⟩

theorem error_of_replaceAll {g : Nat → Job → Except Failure (List Job)} {i : Nat}
    (h : replaceAll g i js = .error f) : ∃ n, ∃ j ∈ js, g n j = .error f := by
  induction js generalizing i with
  | nil => cases h
  | cons j js ih =>
    simp only [replaceAll, bind_eq_error_iff, pure_ne_error, and_false, exists_false,
      or_false] at h
    rcases h with h | ⟨-, -, h⟩
    · exact ⟨i, j, List.mem_cons_self, h⟩
    · obtain ⟨n, k, hk, hf⟩ := ih h
      exact ⟨n, k, List.mem_cons_of_mem _ hk, hf⟩

/-- Only the check of the schema looks at positions. -/
theorem replace_eq_of_ne_schema {s : Stage} (hs : s ≠ .schema) (i : Nat) :
    s.replace settings i = s.replace settings 0 := by
  cases s with
  | schema => exact absurd rfl hs
  | _ => rfl

theorem apply_eq_each {s : Stage} (hs : s ≠ .schema) :
    s.apply settings js = each (s.replace settings 0) js := by
  have hg : s.replace settings = fun _ => s.replace settings 0 :=
    funext fun i => replace_eq_of_ne_schema hs i
  rw [Stage.apply, hg, replaceAll_eq_each]

/-! ### One job after the other -/

/-- The jobs after some stages, each job that a stage makes going through the others before the
next one does. -/
def replaceThrough (settings : Settings) : List Stage → Job → Except Failure (List Job)
  | [], j => .ok [j]
  | s :: stages, j => s.replace settings 0 j >>= each (replaceThrough settings stages)

theorem expandThrough_cons_eq_ok_iff {s : Stage} {stages : List Stage} :
    expandThrough settings (s :: stages) js = .ok out ↔
      ∃ made, s.apply settings js = .ok made ∧ expandThrough settings stages made = .ok out := by
  simp [expandThrough]

/-- **Breadth first and depth first succeed alike**, with the same jobs in the same order. -/
theorem expandThrough_eq_ok_iff {stages : List Stage} (hs : Stage.schema ∉ stages) :
    expandThrough settings stages js = .ok out ↔
      each (replaceThrough settings stages) js = .ok out := by
  induction stages generalizing js with
  | nil =>
    rw [show replaceThrough settings [] = fun j => .ok [j] from rfl, each_pure]
    rfl
  | cons s stages ih =>
    rw [List.mem_cons, not_or] at hs
    rw [expandThrough_cons_eq_ok_iff, apply_eq_each (Ne.symm hs.1)]
    simp only [ih hs.2, ← bind_eq_ok_iff, each_bind_eq_ok_iff]
    rfl

theorem replaceThrough_singleton (s : Stage) :
    replaceThrough settings [s] = s.replace settings 0 := by
  funext j
  rw [replaceThrough]
  cases s.replace settings 0 j with
  | error e => rfl
  | ok made => exact each_pure made

/-- The schema lets all jobs through as they are, or none. -/
theorem schema_apply_eq_ok_iff :
    Stage.schema.apply settings js = .ok out ↔
      (∀ j ∈ js, Schema.validate j = .ok ()) ∧ out = js := by
  have (i : Nat) : replaceAll (Stage.schema.replace settings) i js = .ok out ↔
      (∀ j ∈ js, Schema.validate j = .ok ()) ∧ out = js := by
    induction js generalizing i out with
    | nil => simp [replaceAll, eq_comm]
    | cons j js ih =>
      simp only [replaceAll, Stage.replace, bind_eq_ok_iff, map_eq_ok_iff, mapError_eq_ok_iff,
        pure_eq_ok_iff, ih, List.forall_mem_cons]
      constructor
      · rintro ⟨_, ⟨⟨⟩, hj, rfl⟩, _, ⟨hjs, rfl⟩, rfl⟩
        exact ⟨⟨hj, hjs⟩, rfl⟩
      · rintro ⟨⟨hj, hjs⟩, rfl⟩
        exact ⟨[j], ⟨(), hj, rfl⟩, js, ⟨hjs, rfl⟩, rfl⟩
  exact this 0

/-- The stages after the defaults. -/
def fanStages : List Stage := [.apps, .keyed, .pageload, .condprof, .subtests, .options]

/-- **An expansion job by job.**  It succeeds when all jobs meet the schema and each gets through
the other stages, and then lists what becomes of each. -/
theorem expand_iff_each :
    expand settings js = .ok out ↔ (∀ j ∈ js, Schema.validate j = .ok ()) ∧
      each (fun j => replaceThrough settings fanStages j.withDefaults) js = .ok out := by
  have hall : Stage.all = .schema :: .defaults :: fanStages := rfl
  have hdefaults : replaceThrough settings (.defaults :: fanStages) =
      fun j => replaceThrough settings fanStages j.withDefaults :=
    funext fun j => each_singleton j.withDefaults
  rw [expand, hall, expandThrough_cons_eq_ok_iff]
  simp only [expandThrough_eq_ok_iff (show Stage.schema ∉ .defaults :: fanStages by decide),
    schema_apply_eq_ok_iff, hdefaults]
  constructor
  · rintro ⟨_, ⟨hjs, rfl⟩, h⟩
    exact ⟨hjs, h⟩
  · rintro ⟨hjs, h⟩
    exact ⟨js, ⟨hjs, rfl⟩, h⟩

/-! ### What a run keeps -/

/-- A property of a job that the stages done so far have made true, kept by each stage of the
expansion that comes next. -/
def KeptByStages (settings : Settings) (kept : List Stage → Job → Prop) : Prop :=
  ∀ done s rest, done ++ s :: rest = Stage.all → ∀ i j made, kept done j →
    s.replace settings i j = .ok made → ∀ r ∈ made, kept (done ++ [s]) r

variable {kept : List Stage → Job → Prop}

theorem apply_keeps (hkept : KeptByStages settings kept) {done rest : List Stage} {s : Stage}
    (hall : done ++ s :: rest = Stage.all) (hjs : ∀ j ∈ js, kept done j)
    (h : s.apply settings js = .ok out) : ∀ r ∈ out, kept (done ++ [s]) r := by
  intro r hr
  obtain ⟨i, j, hj, made, hm, hr⟩ := mem_of_replaceAll h hr
  exact hkept done s rest hall i j made (hjs j hj) hm r hr

theorem run_keeps (hkept : KeptByStages settings kept) {done stages rest : List Stage}
    (hall : done ++ stages ++ rest = Stage.all) (hjs : ∀ j ∈ js, kept done j)
    (h : expandThrough settings stages js = .ok out) : ∀ r ∈ out, kept (done ++ stages) r := by
  induction stages generalizing done js with
  | nil =>
    cases h
    simpa using hjs
  | cons s stages ih =>
    obtain ⟨made, hm, h⟩ := expandThrough_cons_eq_ok_iff.1 h
    have hs : done ++ s :: (stages ++ rest) = Stage.all := by simpa using hall
    have := ih (by simpa using hall) (apply_keeps hkept hs hjs hm) h
    simpa using this

/-- A run that fails does so at one stage and one job, which has what the stages before have made
true. -/
theorem run_fails_at (hkept : KeptByStages settings kept) {done stages rest : List Stage}
    (hall : done ++ stages ++ rest = Stage.all) (hjs : ∀ j ∈ js, kept done j)
    (h : expandThrough settings stages js = .error f) :
    ∃ before s after i j e, before ++ s :: after = Stage.all ∧ kept before j ∧
      s.replace settings i j = .error e ∧ f = e.inStage s := by
  induction stages generalizing done js with
  | nil => cases h
  | cons s stages ih =>
    have hs : done ++ s :: (stages ++ rest) = Stage.all := by simpa using hall
    rw [expandThrough, bind_eq_error_iff] at h
    rcases h with h | ⟨made, hm, h⟩
    · obtain ⟨e, he, rfl⟩ := mapError_eq_error_iff.1 h
      obtain ⟨i, j, hj, he⟩ := error_of_replaceAll he
      exact ⟨done, s, _, i, j, e, hs, hjs j hj, he, rfl⟩
    · exact ih (by simpa using hall) (apply_keeps hkept hs hjs (mapError_eq_ok_iff.1 hm)) h

end JobExpansion
