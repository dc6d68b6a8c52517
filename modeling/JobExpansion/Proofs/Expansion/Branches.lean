import JobExpansion.Proofs.Expansion.Ready

/-!
# Branches of a job

A job fans out by its apps, by the modes of loading pages, by conditioned profiles and by its
subtests. A `Branch` is one way through the four: `Branch.record` is what becomes of a copy of the
job on that way alone, and `Job.branches` lists the ways depth first, the modes and the profiles of
a way being read off the job as it is at that point of it.
-/

namespace JobExpansion

/-- One way through the fan-outs of a job. -/
structure Branch where
  /-- The app, if the job lists any. -/
  app : Option String
  /-- Pages are loaded cold. -/
  isCold : Bool
  /-- It is the twin with a conditioned profile. -/
  isTwin : Bool
  /-- The number and the name of the subtest, if the job lists any. -/
  chunk : Option (Nat × String)
  deriving DecidableEq, Repr

namespace Job

/-! ### Choices -/

/-- The apps to choose from. -/
def appChoices (settings : Settings) (j : Job) : Except Failure (List (Option String)) := do
  match (← j.withApps settings).appList.filterMap Value.text? with
  | [] => return [none]
  | apps => return apps.map some

/-- Whether to load pages cold: the modes to choose from. -/
def loadChoices (j : Job) : List Bool :=
  match PageloadMode.ofValue? (j.get? Field.pageload) with
  | .warm => [false]
  | .cold => [true]
  | .both => [false, true]

/-- The word `both` asks for a warm load and a cold one, `cold` for a cold one, and all else for a
warm one. -/
theorem loadChoices_eq (j : Job) : j.loadChoices =
    if j.text? "pageload" = some "both" then [false, true]
    else if j.text? "pageload" = some "cold" then [true] else [false] := by
  unfold loadChoices PageloadMode.ofValue? text?
  generalize (j.get? Field.pageload).bind Value.text? = word
  by_cases hboth : word = some "both"
  · rw [hboth]
    rfl
  · by_cases hcold : word = some "cold"
    · rw [hcold]
      rfl
    · simp [hboth, hcold]

/-- Whether to take the twin with a conditioned profile. -/
def profileChoices (j : Job) : List Bool :=
  if j.flag Field.condprof && !j.unprofiled then [false, true] else [false]

/-- A job that asks for a profile has a twin, except for tests of `chrome` and `chromium` and on the
platforms `windows10-aarch64`. -/
theorem profileChoices_eq (j : Job) : j.profileChoices =
    if j.get? "condprof" = some (.bool true) ∧ Text.contains j.testName "chrome" = false ∧
        Text.contains j.testName "chromium" = false ∧
        Text.startsWith j.testPlatform "windows10-aarch64" = false
      then [false, true] else [false] := by
  simp [profileChoices, flag, unprofiled, unprofiledNames, unprofiledPlatform, and_assoc]

/-- The names of the subtests. -/
def subtests (j : Job) : List String :=
  (((j.get? Field.raptorSubtests).bind Value.list?).getD []).filterMap Value.text?

/-- The subtests to choose from, each with its number. -/
def chunkChoices (j : Job) : List (Option (Nat × String)) :=
  match j.subtests with
  | [] => [none]
  | subtests => (subtests.zipIdx 1).map fun (subtest, number) => some (number, subtest)

/-! ### Edits -/

/-- The job of a choice of the app. -/
def toApp (app : Option String) (j : Job) : Except Failure Job :=
  match app with
  | none => .ok (j.erase Field.apps)
  | some app => (j.erase Field.apps).forApp app

/-- The job of a choice of the mode of loading pages. -/
def toLoad (isCold : Bool) (j : Job) : Except Failure Job :=
  if isCold then (j.erase Field.pageload).cold else .ok (j.erase Field.pageload)

/-- The job of a choice of the profile. -/
def toProfile (isTwin : Bool) (j : Job) : Except Failure Job :=
  if isTwin then (j.erase Field.condprof).profiled else .ok (j.erase Field.condprof)

/-- The job of a choice of the subtest. -/
def toChunk (chunk : Option (Nat × String)) (j : Job) : Except Failure Job :=
  match chunk with
  | none => .ok (j.erase Field.raptorSubtests)
  | some (number, subtest) => do
    let rest := j.erase Field.raptorSubtests
    rest.chunk (← rest.symbol) number subtest

/-! ### Ready jobs stay so -/

variable {j r : Job}

theorem Ready.toApp (h : j.Ready) (app : Option String) :
    ∃ r, j.toApp app = .ok r ∧ r.Ready := by
  have he : (j.erase Field.apps).Ready := h.erase (by decide) (by decide)
  cases app with
  | none => exact ⟨_, rfl, he⟩
  | some app => exact he.forApp app

theorem Ready.toLoad {isCold : Bool} (h : j.Ready) (hr : j.toLoad isCold = .ok r) : r.Ready := by
  have he : (j.erase Field.pageload).Ready := h.erase (by decide) (by decide)
  cases isCold with
  | false =>
    cases hr
    exact he
  | true =>
    rcases he.cold with ⟨m, hm, hready⟩ | hm
    · cases hm.symm.trans hr
      exact hready
    · cases hm.symm.trans hr

theorem Ready.toProfile {isTwin : Bool} (h : j.Ready) (hr : j.toProfile isTwin = .ok r) :
    r.Ready := by
  have he : (j.erase Field.condprof).Ready := h.erase (by decide) (by decide)
  cases isTwin with
  | false =>
    cases hr
    exact he
  | true => exact he.profiled hr

theorem Ready.toChunk (h : j.Ready) (chunk : Option (Nat × String)) :
    ∃ r, j.toChunk chunk = .ok r ∧ r.Ready := by
  have he : (j.erase Field.raptorSubtests).Ready := h.erase (by decide) (by decide)
  cases chunk with
  | none => exact ⟨_, rfl, he⟩
  | some c =>
    obtain ⟨id, hid, hs⟩ := he.symbol
    have ht : ((j.erase Field.raptorSubtests).set Field.raptorTest (.text c.2)).Ready :=
      he.set_text (by decide)
    have hc : j.toChunk (some c) = .ok (((j.erase Field.raptorSubtests).set Field.raptorTest
        (.text c.2)).relabel (id.chunk c.1 c.2)) := by
      rw [Job.toChunk, hs, ok_bind, chunk_eq hid]
    exact ⟨_, hc, ht.relabel⟩

end Job

/-- What becomes of a copy of a job on one branch. -/
def Branch.record (settings : Settings) (b : Branch) (j : Job) : Except Failure Job := do
  let j ← j.withDefaults.toApp b.app
  let j ← j.resolved settings
  let j ← j.toLoad b.isCold
  let j ← j.toProfile b.isTwin
  let j ← j.toChunk b.chunk
  j.withOptions settings

/-- The branches of a job, depth first. -/
def Job.branches (settings : Settings) (j : Job) : Except Failure (List Branch) := do
  let j := j.withDefaults
  each (fun app => do
    let j ← (← j.toApp app).resolved settings
    each (fun isCold => do
      let j ← j.toLoad isCold
      each (fun isTwin => do
        let j ← j.toProfile isTwin
        return j.chunkChoices.map fun chunk => ⟨app, isCold, isTwin, chunk⟩)
        j.profileChoices)
      j.loadChoices)
    (← j.appChoices settings)

/-! ### Walks -/

/-- The jobs on the way along a branch, from one that is ready after the defaults. -/
structure Branch.Walk (settings : Settings) (b : Branch) (j r : Job) where
  ofApp : Job
  resolved : Job
  loaded : Job
  profiled : Job
  chunk : Job
  ready : j.withDefaults.Ready
  toApp : j.withDefaults.toApp b.app = .ok ofApp
  resolve : ofApp.resolved settings = .ok resolved
  toLoad : resolved.toLoad b.isCold = .ok loaded
  toProfile : loaded.toProfile b.isTwin = .ok profiled
  toChunk : profiled.toChunk b.chunk = .ok chunk
  finish : chunk.withOptions settings = .ok r

namespace Branch

variable {settings : Settings} {b : Branch} {j r : Job}

theorem exists_walk (h : j.withDefaults.Ready) (hr : b.record settings j = .ok r) :
    Nonempty (b.Walk settings j r) := by
  simp only [record, bind_eq_ok_iff] at hr
  obtain ⟨m₁, h₁, m₂, h₂, m₃, h₃, m₄, h₄, m₅, h₅, hr⟩ := hr
  exact ⟨⟨m₁, m₂, m₃, m₄, m₅, h, h₁, h₂, h₃, h₄, h₅, hr⟩⟩

namespace Walk

variable (w : b.Walk settings j r)
include w

theorem ofApp_ready : w.ofApp.Ready := holds_of_eq_ok (w.ready.toApp b.app) w.toApp

theorem resolved_ready : w.resolved.Ready := w.ofApp_ready.resolved w.resolve

theorem loaded_ready : w.loaded.Ready := w.resolved_ready.toLoad w.toLoad

theorem profiled_ready : w.profiled.Ready := w.loaded_ready.toProfile w.toProfile

theorem chunk_ready : w.chunk.Ready := holds_of_eq_ok (w.profiled_ready.toChunk b.chunk) w.toChunk

end Walk

end Branch

end JobExpansion
