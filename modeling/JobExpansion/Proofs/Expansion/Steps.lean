import JobExpansion.Proofs.Expansion.Footprint

/-!
# Steps of a branch

What the steps of a branch leave alone, and what they do to the identity of a job. Each step has a
list of fields that it may change (`appFields`, `loadFields`, `profileFields`, `chunkFields`,
`optionFields`); all others are after it as they were before.
-/

namespace JobExpansion

namespace Identity

/-- The identity after a choice of the app. -/
def toApp (app : Option String) (id : Identity) : Identity := app.elim id (id.forApp ·)

/-- The identity after a choice of the mode of loading pages. -/
def toLoad (isCold : Bool) (id : Identity) : Identity := if isCold then id.cold else id

/-- The identity after a choice of the profile. -/
def toProfile (isTwin : Bool) (id : Identity) : Identity := if isTwin then id.profiled else id

/-- The identity after a choice of the subtest. -/
def toChunk (chunk : Option (Nat × String)) (id : Identity) : Identity :=
  chunk.elim id fun c => id.chunk c.1 c.2

section Names

variable {id : Identity} {isCold isTwin : Bool} {chunk : Option (Nat × String)}

theorem toLoad_testName :
    (id.toLoad isCold).testName = id.testName ++ if isCold then "-cold" else "" := by
  cases isCold <;> simp [toLoad, cold]

theorem toProfile_testName :
    (id.toProfile isTwin).testName = id.testName ++ if isTwin then "-condprof" else "" := by
  cases isTwin <;> simp [toProfile, profiled]

theorem toChunk_testName :
    (id.toChunk chunk).testName = id.testName ++ chunk.elim "" fun c => "-" ++ c.2 := by
  cases chunk <;> simp [toChunk, Identity.chunk]

end Names

end Identity

namespace Job

variable {j r : Job} {id : Identity} {k : String} {settings : Settings}

/-! ### Fields that a step may change -/

/-- What the defaults may set. -/
def defaultFields : List String := [Field.pageload, Field.runVisualMetrics, Field.tryName]

/-- What the choice of an app may change. -/
def appFields : List String := Field.apps :: Field.app :: Identity.fields

/-- What the choice of a mode of loading pages may change. -/
def loadFields : List String :=
  Field.pageload :: Field.cold :: Field.raptorTest :: Field.maxRunTime :: Identity.fields

/-- What the choice of a profile may change. -/
def profileFields : List String := Field.condprof :: Field.mozharness :: Identity.fields

/-- What the choice of a subtest may change. -/
def chunkFields : List String := Field.raptorSubtests :: Field.raptorTest :: Identity.fields

/-- What the options of the harness may change. -/
def optionFields : List String := [Field.runVisualMetrics, Field.attributes, Field.app, Field.cold,
  Field.activity, Field.binaryPath, Field.raptorTest, Field.mozharness]

/-! ### Fields that a step leaves alone -/

theorem get?_withDefaults (hk : k ∉ defaultFields) : j.withDefaults.get? k = j.get? k :=
  edited_withDefaults.get?_eq hk

theorem get?_resolved (hr : j.resolved settings = .ok r) (hk : k ∉ keyedFields) :
    r.get? k = j.get? k :=
  (edited_resolved hr).get?_eq hk

theorem get?_toApp {app : Option String} (h : j.Ready) (hr : j.toApp app = .ok r)
    (hk : k ∉ appFields) : r.get? k = j.get? k :=
  (edited_toApp h hr).of_erase.get?_eq hk

theorem get?_toLoad {isCold : Bool} (h : j.Ready) (hr : j.toLoad isCold = .ok r)
    (hk : k ∉ loadFields) : r.get? k = j.get? k :=
  (edited_toLoad h hr).of_erase.get?_eq hk

theorem get?_toProfile {isTwin : Bool} (h : j.Ready) (hr : j.toProfile isTwin = .ok r)
    (hk : k ∉ profileFields) : r.get? k = j.get? k :=
  (edited_toProfile h hr).of_erase.get?_eq hk

theorem get?_toChunk {chunk : Option (Nat × String)} (h : j.Ready) (hr : j.toChunk chunk = .ok r)
    (hk : k ∉ chunkFields) : r.get? k = j.get? k :=
  (edited_toChunk h hr).of_erase.get?_eq hk

theorem get?_markMetrics (hr : j.markMetrics = .ok r) (h1 : k ≠ Field.runVisualMetrics)
    (h2 : k ≠ Field.attributes) : r.get? k = j.get? k :=
  (edited_markMetrics hr).of_erase.get?_eq (by simp [h1, h2])

theorem get?_dropConsumed (hk : k ∉ [Field.app, Field.cold, Field.activity, Field.binaryPath,
    Field.raptorTest]) : j.dropConsumed.get? k = j.get? k :=
  edited_dropConsumed.get?_eq (by simpa using hk)

theorem get?_withOptions (hr : j.withOptions settings = .ok r) (hk : k ∉ optionFields) :
    r.get? k = j.get? k := by
  have hsub : Stage.options.drops ++ Stage.options.sets ⊆ optionFields := by decide
  exact (edited_withOptions hr).get?_eq fun h => hk (hsub h)

/-- The test of a job is its subtest, if it has one. -/
theorem get?_raptorTest_of_toChunk {chunk : Option (Nat × String)} (hid : j.Carries id)
    (hr : j.toChunk chunk = .ok r) :
    r.get? Field.raptorTest = chunk.elim (j.get? Field.raptorTest) fun c => some (.text c.2) := by
  cases chunk with
  | none =>
    cases hr
    exact get?_erase_of_ne (by decide)
  | some c =>
    rw [toChunk_some hid hr, get?_relabel (by decide), get?_set_self]
    rfl

/-! ### The identity -/

theorem Carries.toApp {app : Option String} (hid : j.Carries id) (hr : j.toApp app = .ok r) :
    r.Carries (id.toApp app) := by
  cases app with
  | none =>
    cases hr
    exact hid.erase (by decide)
  | some app =>
    cases (forApp_eq (hid.erase (by decide))).symm.trans hr
    exact carries_relabel _ _

theorem Carries.toLoad {isCold : Bool} (hid : j.Carries id) (h : j.Ready)
    (hr : j.toLoad isCold = .ok r) : r.Carries (id.toLoad isCold) := by
  cases isCold with
  | false =>
    cases hr
    exact hid.erase (by decide)
  | true =>
    obtain ⟨test, -, rfl⟩ := h.toLoad_cold hid hr
    exact carries_relabel _ _

theorem Carries.toProfile {isTwin : Bool} (hid : j.Carries id)
    (hr : j.toProfile isTwin = .ok r) : r.Carries (id.toProfile isTwin) := by
  cases isTwin with
  | false =>
    cases hr
    exact hid.erase (by decide)
  | true =>
    obtain ⟨m, -, rfl⟩ := toProfile_twin hid hr
    exact carries_relabel _ _

theorem Carries.toChunk {chunk : Option (Nat × String)} (hid : j.Carries id)
    (hr : j.toChunk chunk = .ok r) : r.Carries (id.toChunk chunk) := by
  cases chunk with
  | none =>
    cases hr
    exact hid.erase (by decide)
  | some c =>
    rw [toChunk_some hid hr]
    exact carries_relabel _ _

end Job

/-! ### Along a walk -/

namespace Branch.Walk

variable {settings : Settings} {b : Branch} {j r : Job} {id : Identity} {k : String}
  (w : b.Walk settings j r)
include w

/-- The identity at the end of a walk, from the one that the job of the app has. -/
theorem carries (hid : w.resolved.Carries id) :
    w.chunk.Carries (((id.toLoad b.isCold).toProfile b.isTwin).toChunk b.chunk) :=
  ((hid.toLoad w.resolved_ready w.toLoad).toProfile w.toProfile).toChunk w.toChunk

theorem testName_eq : r.testName = w.chunk.testName := by
  have hk : r.get? Field.testName = w.chunk.get? Field.testName :=
    Job.get?_withOptions w.finish (by decide)
  rw [Job.testName, Job.testName, Job.text?, Job.text?, hk]

end Branch.Walk

end JobExpansion
