import JobExpansion.Proofs.Expansion.Nested
import JobExpansion.Proofs.Expansion.Steps

/-!
# Options along a branch

The extra options of a job grow twice on a branch: by the option of a twin with a conditioned
profile, and at the end by the options that its fields give. The other steps leave them alone.
-/

namespace JobExpansion

namespace Job

variable {j r : Job} {settings : Settings}

theorem options_congr (h : r.get? Field.mozharness = j.get? Field.mozharness) :
    r.options = j.options := by
  rw [options, options, h]

/-- What the fields of a job give comes after the options that it has. -/
theorem options_withOptions (hr : j.withOptions settings = .ok r) :
    r.options = j.options ++ j.harnessOptions settings := by
  obtain ⟨m, hm, hr⟩ := bind_eq_ok_iff.1 hr
  have hsame : m.dropConsumed.options = j.options := by
    refine options_congr ?_
    rw [get?_dropConsumed (by decide), get?_markMetrics hm (by decide) (by decide)]
  rw [options_addOptions hr, hsame]

theorem options_toProfile {isTwin : Bool} (h : j.Ready) (hr : j.toProfile isTwin = .ok r) :
    r.options = j.options ++ if isTwin then [profileOption] else [] := by
  cases isTwin with
  | false =>
    cases hr
    rw [if_neg Bool.false_ne_true, List.append_nil]
    exact options_congr (get?_erase_of_ne (by decide))
  | true =>
    obtain ⟨id, hid⟩ := h.carries
    obtain ⟨m, hm, rfl⟩ := toProfile_twin hid hr
    have he : (j.erase Field.condprof).options = j.options :=
      options_congr (get?_erase_of_ne (by decide))
    rw [if_pos rfl, ← he, ← options_addOptions hm]
    exact options_congr (get?_relabel (by decide))

end Job

/-- The options of a record, from those of the job. -/
theorem Branch.Walk.options_eq {settings : Settings} {b : Branch} {j r : Job}
    (w : b.Walk settings j r) :
    r.options = (j.options ++ if b.isTwin then [Job.profileOption] else []) ++
      w.chunk.harnessOptions settings := by
  have hloaded : w.loaded.options = j.options := by
    refine Job.options_congr ?_
    rw [Job.get?_toLoad w.resolved_ready w.toLoad (by decide),
      Job.get?_resolved w.resolve (by decide), Job.get?_toApp w.ready w.toApp (by decide),
      Job.get?_withDefaults (by decide)]
  have hchunk : w.chunk.options = w.profiled.options :=
    Job.options_congr (Job.get?_toChunk w.profiled_ready w.toChunk (by decide))
  rw [Job.options_withOptions w.finish, hchunk, Job.options_toProfile w.loaded_ready w.toProfile,
    hloaded]

end JobExpansion
