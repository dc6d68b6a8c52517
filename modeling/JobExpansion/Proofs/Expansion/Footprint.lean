import JobExpansion.Proofs.Expansion.Branches
import JobExpansion.Proofs.Job.Edited

/-!
# What a stage may edit

Each stage may set some fields (`Stage.sets`) and take out some (`Stage.drops`), of which those of
`Stage.consumes` are gone for good. The steps of a branch are edits of these fields and no others.
-/

namespace JobExpansion

namespace Stage

/-- The fields that a stage may set. -/
def sets : Stage → List String
  | .schema => []
  | .defaults => [Field.pageload, Field.runVisualMetrics, Field.tryName]
  | .apps => Field.app :: Identity.fields
  | .keyed => Job.keyedFields
  | .pageload => Field.cold :: Field.raptorTest :: Field.maxRunTime :: Identity.fields
  | .condprof => Field.mozharness :: Identity.fields
  | .subtests => Field.raptorTest :: Identity.fields
  | .options => [Field.attributes, Field.mozharness]

/-- The fields that no job has after a stage. -/
def consumes : Stage → List String
  | .schema | .defaults | .keyed => []
  | .apps => [Field.apps]
  | .pageload => [Field.pageload]
  | .condprof => [Field.condprof]
  | .subtests => [Field.raptorSubtests]
  | .options => [Field.app, Field.activity, Field.binaryPath, Field.raptorTest,
      Field.runVisualMetrics]

/-- The fields that a stage may take out. -/
def drops : Stage → List String
  | .options => Field.cold :: consumes .options
  | s => s.consumes

end Stage

namespace Job

variable {j m r : Job} {id : Identity} {k : String} {sets drops : List String}
  {settings : Settings}

/-! ### Edits in common -/

theorem Edited.relabel (h : j.Edited sets drops m) (hs : Identity.fields ⊆ sets) :
    j.Edited sets drops (m.relabel id) :=
  (((h.set (hs (by decide)) rfl).set (hs (by decide)) rfl).set (hs (by decide)) rfl).set
    (hs (by decide)) rfl

theorem Edited.setDefault {v : Value} (h : j.Edited sets drops m) (hk : k ∈ sets)
    (hv : Keyed.isKeyed v = false) : j.Edited sets drops (m.setDefault k v) := by
  cases hm : m.get? k with
  | none =>
    rw [setDefault_of_none hm]
    exact h.set hk hv
  | some w =>
    rw [setDefault_of_some hm]
    exact h

/-! ### The steps -/

theorem edited_withDefaults : j.Edited Stage.defaults.sets Stage.defaults.drops j.withDefaults := by
  have h : j.Edited Stage.defaults.sets Stage.defaults.drops ((j.setDefault Field.pageload
      (.text "warm")).setDefault Field.runVisualMetrics (.bool false)) :=
    (Edited.refl.setDefault (by decide) rfl).setDefault (by decide) rfl
  simp only [withDefaults]
  split
  · exact h.setDefault (by decide) rfl
  · exact h

theorem edited_resolveField {item field : String} (hf : field ∈ Field.apps :: keyedFields)
    (hr : j.resolveField settings item field = .ok r) : j.Edited [field] [] r := by
  rw [resolveField_eq hf] at hr
  split at hr
  · cases hr
    exact .refl
  · split at hr
    · next w hw =>
      cases hr
      exact Edited.refl.set List.mem_cons_self
        (Keyed.isKeyed_eq_false_iff.2 (Keyed.parts?_of_evaluate hw))
    · cases hr

theorem edited_resolveFields {item : String} {fields : List String} (hf : fields ⊆ keyedFields)
    (hr : j.resolveFields settings item fields = .ok r) : j.Edited fields [] r := by
  induction fields generalizing j with
  | nil =>
    cases hr
    exact .refl
  | cons field fields ih =>
    obtain ⟨m, hm, hr⟩ := bind_eq_ok_iff.1 hr
    have hmem : field ∈ keyedFields := hf List.mem_cons_self
    have hfirst : j.Edited [field] [] m := edited_resolveField (List.mem_cons_of_mem _ hmem) hm
    have hrest : m.Edited fields [] r := ih (fun l hl => hf (List.mem_cons_of_mem _ hl)) hr
    exact (hfirst.mono (by simp) (List.Subset.refl _)).trans
      (hrest.mono (List.subset_cons_self _ _) (List.Subset.refl _))

theorem edited_resolved (hr : j.resolved settings = .ok r) :
    j.Edited Stage.keyed.sets Stage.keyed.drops r :=
  edited_resolveFields (List.Subset.refl _) hr

theorem edited_toApp {app : Option String} (h : j.Ready) (hr : j.toApp app = .ok r) :
    (j.erase Field.apps).Edited Stage.apps.sets [] r := by
  cases app with
  | none =>
    cases hr
    exact .refl
  | some app =>
    obtain ⟨id, hid⟩ := h.carries
    cases (forApp_eq (hid.erase (by decide))).symm.trans hr
    exact (Edited.refl.set (by decide) rfl).relabel (by decide)

theorem Edited.markCold {name test : String} (h : j.Edited sets drops m)
    (hs : [Field.cold, Field.raptorTest] ⊆ sets) :
    j.Edited sets drops (m.markCold name test) := by
  unfold Job.markCold
  split
  · exact h.set (hs (by decide)) rfl
  · exact h.set (hs (by decide)) rfl

/-- A job made cold, from the one it is made of. -/
theorem Ready.toLoad_cold (h : j.Ready) (hid : j.Carries id) (hr : j.toLoad true = .ok r) :
    ∃ test, j.get? Field.raptorTest = some (.text test) ∧
      r = (((j.erase Field.pageload).markCold id.testName test).set Field.maxRunTime
        (.number (.int coldMaxRunTime))).relabel id.cold := by
  have hc : (j.erase Field.pageload).cold = .ok r := hr
  cases ht : (j.erase Field.pageload).get? Field.raptorTest with
  | none => cases (cold_of_no_test ht).symm.trans hc
  | some v =>
    rw [get?_erase_of_ne (by decide)] at ht
    obtain ⟨test, rfl⟩ := h.meets.text (by decide) ht
    have ht' : (j.erase Field.pageload).get? Field.raptorTest = some (.text test) := by
      rw [get?_erase_of_ne (by decide), ht]
    cases (cold_eq (hid.erase (by decide)) ht').symm.trans hc
    exact ⟨test, ht, rfl⟩

theorem edited_toLoad {isCold : Bool} (h : j.Ready) (hr : j.toLoad isCold = .ok r) :
    (j.erase Field.pageload).Edited Stage.pageload.sets [] r := by
  cases isCold with
  | false =>
    cases hr
    exact .refl
  | true =>
    obtain ⟨id, hid⟩ := h.carries
    obtain ⟨test, -, rfl⟩ := h.toLoad_cold hid hr
    exact ((Edited.refl.markCold (by decide)).set (by decide) rfl).relabel (by decide)

/-- A twin with a conditioned profile, from the job it is the twin of. -/
theorem toProfile_twin (hid : j.Carries id) (hr : j.toProfile true = .ok r) :
    ∃ m, (j.erase Field.condprof).addOptions [profileOption] = .ok m ∧
      r = m.relabel id.profiled := by
  have hp : (j.erase Field.condprof).profiled = .ok r := hr
  rw [profiled_eq (hid.erase (by decide)), map_eq_ok_iff] at hp
  obtain ⟨m, hm, rfl⟩ := hp
  exact ⟨m, hm, rfl⟩

theorem edited_addOptions {options : List String} (hr : j.addOptions options = .ok r) :
    j.Edited [Field.mozharness] [] r := by
  obtain ⟨mozharness, old, -, -, rfl⟩ := addOptions_eq_ok_iff.1 hr
  exact Edited.refl.set List.mem_cons_self (Keyed.isKeyed_mapping_set rfl _)

theorem edited_toProfile {isTwin : Bool} (h : j.Ready) (hr : j.toProfile isTwin = .ok r) :
    (j.erase Field.condprof).Edited Stage.condprof.sets [] r := by
  cases isTwin with
  | false =>
    cases hr
    exact .refl
  | true =>
    obtain ⟨id, hid⟩ := h.carries
    obtain ⟨m, hm, rfl⟩ := toProfile_twin hid hr
    exact ((edited_addOptions hm).mono (by decide) (List.nil_subset _)).relabel (by decide)

/-- A chunk, from the job it is a chunk of. -/
theorem toChunk_some {number : Nat} {subtest : String} (hid : j.Carries id)
    (hr : j.toChunk (some (number, subtest)) = .ok r) :
    r = ((j.erase Field.raptorSubtests).set Field.raptorTest (.text subtest)).relabel
      (id.chunk number subtest) := by
  have he : (j.erase Field.raptorSubtests).Carries id := hid.erase (by decide)
  rw [Job.toChunk, symbol_of_text he.symbol, ok_bind, chunk_eq he] at hr
  cases hr
  rfl

theorem edited_toChunk {chunk : Option (Nat × String)} (h : j.Ready)
    (hr : j.toChunk chunk = .ok r) :
    (j.erase Field.raptorSubtests).Edited Stage.subtests.sets [] r := by
  cases chunk with
  | none =>
    cases hr
    exact .refl
  | some c =>
    obtain ⟨id, hid⟩ := h.carries
    rw [toChunk_some hid hr]
    exact (Edited.refl.set (by decide) rfl).relabel (by decide)

theorem edited_markMetrics (hr : j.markMetrics = .ok r) :
    (j.erase Field.runVisualMetrics).Edited [Field.attributes] [] r := by
  unfold Job.markMetrics at hr
  split at hr
  · obtain ⟨entries, -, rfl⟩ := setIn_eq_ok_iff.1 hr
    exact Edited.refl.set List.mem_cons_self (Keyed.isKeyed_mapping_set rfl _)
  · cases hr
    exact .refl

theorem edited_dropConsumed : j.Edited [] [Field.app, Field.cold, Field.activity,
    Field.binaryPath, Field.raptorTest] j.dropConsumed := by
  have ha : j.Edited [] [Field.app, Field.cold, Field.activity, Field.binaryPath,
      Field.raptorTest] (j.erase Field.app) := Edited.refl.erase (by decide)
  simp only [dropConsumed]
  split
  · exact (((ha.erase (by decide)).erase (by decide)).erase (by decide)).erase (by decide)
  · exact ((ha.erase (by decide)).erase (by decide)).erase (by decide)

theorem edited_withOptions (hr : j.withOptions settings = .ok r) :
    j.Edited Stage.options.sets Stage.options.drops r := by
  obtain ⟨m, hm, hr⟩ := bind_eq_ok_iff.1 hr
  have hmarked : j.Edited Stage.options.sets Stage.options.drops m :=
    (edited_markMetrics hm).of_erase.mono (by decide) (by decide)
  have hdropped : m.Edited Stage.options.sets Stage.options.drops m.dropConsumed :=
    edited_dropConsumed.mono (List.nil_subset _) (by decide)
  exact (hmarked.trans hdropped).trans ((edited_addOptions hr).mono (by decide) (by decide))

end Job

end JobExpansion
