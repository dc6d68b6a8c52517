import JobExpansion.Expansion.Apps
import JobExpansion.Expansion.Chunks
import JobExpansion.Expansion.Pageload
import JobExpansion.Expansion.Profile
import JobExpansion.Proofs.Job.Edits

/-!
# The identity of a job

The four texts by which a job is known: its names, its description and its symbol. Each edit of the
expansion changes the identity by a rule of its own (`Identity.forApp`, `cold`, `profiled`, `chunk`)
and otherwise touches a field or two. `forApp_eq`, `cold_eq`, `profiled_eq` and `chunk_eq`
say so: on a job that carries an identity each edit is its other changes followed by `Job.relabel`.
-/

namespace JobExpansion

/-- The texts by which a job is known. -/
structure Identity where
  testName : String
  tryName : String
  description : String
  symbol : String

namespace Identity

/-- The identity of the job for an app. -/
def forApp (app : String) (id : Identity) : Identity where
  testName := App.testName id.testName app
  tryName := App.testName id.testName app
  description := id.description ++ (" on " ++ Text.capitalize app)
  symbol := match App.symbol? app with
    | some suffix => ((Symbol.split id.symbol).suffixGroup ("-" ++ suffix)).text
    | none => id.symbol

/-- The identity of the job that loads pages cold. -/
def cold (id : Identity) : Identity where
  testName := id.testName ++ "-cold"
  tryName := id.tryName ++ "-cold"
  description := id.description ++ " using cold pageload"
  symbol := ((Symbol.split id.symbol).suffixLeaf "-c").text

/-- The identity of the twin with a conditioned profile. -/
def profiled (id : Identity) : Identity where
  testName := id.testName ++ "-condprof"
  tryName := id.tryName ++ "-condprof"
  description := id.description ++ " with condprof"
  symbol := ((Symbol.split id.symbol).suffixLeaf "-condprof").text

/-- The identity of the chunk for a subtest. -/
def chunk (number : Nat) (subtest : String) (id : Identity) : Identity where
  testName := id.testName ++ ("-" ++ subtest)
  tryName := id.tryName ++ ("-" ++ subtest)
  description := id.description ++ ("-" ++ subtest)
  symbol := ((Symbol.split id.symbol).suffixLeaf ("-" ++ toString number)).text

/-- The fields that hold an identity. -/
def fields : List String := [Field.testName, Field.tryName, Field.description, Field.symbol]

end Identity

namespace Job

variable {j r : Job} {id : Identity} {app : String}

/-- A job is known by an identity. -/
structure Carries (j : Job) (id : Identity) : Prop where
  testName : j.get? Field.testName = some (.text id.testName)
  tryName : j.get? Field.tryName = some (.text id.tryName)
  description : j.get? Field.description = some (.text id.description)
  symbol : j.get? Field.symbol = some (.text id.symbol)

/-- The job under another identity. -/
def relabel (id : Identity) (j : Job) : Job :=
  (((j.set Field.description (.text id.description)).set Field.testName (.text id.testName)).set
    Field.tryName (.text id.tryName)).set Field.symbol (.text id.symbol)

theorem carries_relabel (id : Identity) (j : Job) : (j.relabel id).Carries id where
  testName := by simp +decide [relabel, get?_set]
  tryName := by simp +decide [relabel, get?_set]
  description := by simp +decide [relabel, get?_set]
  symbol := by simp [relabel]

theorem get?_relabel {k : String} (hk : k ∉ Identity.fields) :
    (j.relabel id).get? k = j.get? k := by
  simp only [Identity.fields, List.mem_cons, List.not_mem_nil, or_false, not_or] at hk
  simp [relabel, get?_set, hk]

theorem Carries.set {k : String} {v : Value} (h : j.Carries id) (hk : k ∉ Identity.fields) :
    (j.set k v).Carries id := by
  simp only [Identity.fields, List.mem_cons, List.not_mem_nil, or_false, not_or] at hk
  obtain ⟨h1, h2, h3, h4⟩ := hk
  constructor
  · rw [get?_set_of_ne (Ne.symm h1), h.testName]
  · rw [get?_set_of_ne (Ne.symm h2), h.tryName]
  · rw [get?_set_of_ne (Ne.symm h3), h.description]
  · rw [get?_set_of_ne (Ne.symm h4), h.symbol]

theorem Carries.erase {k : String} (h : j.Carries id) (hk : k ∉ Identity.fields) :
    (j.erase k).Carries id := by
  simp only [Identity.fields, List.mem_cons, List.not_mem_nil, or_false, not_or] at hk
  obtain ⟨h1, h2, h3, h4⟩ := hk
  constructor
  · rw [get?_erase_of_ne (Ne.symm h1), h.testName]
  · rw [get?_erase_of_ne (Ne.symm h2), h.tryName]
  · rw [get?_erase_of_ne (Ne.symm h3), h.description]
  · rw [get?_erase_of_ne (Ne.symm h4), h.symbol]

theorem Carries.ne_none {k : String} (h : j.Carries id) (hk : k ∈ Identity.fields) :
    j.get? k ≠ none := by
  simp only [Identity.fields, List.mem_cons, List.not_mem_nil, or_false] at hk
  rcases hk with rfl | rfl | rfl | rfl
  · simp [h.testName]
  · simp [h.tryName]
  · simp [h.description]
  · simp [h.symbol]

/-- A job has all fields of an identity. -/
def Labelled (j : Job) : Prop := ∀ k ∈ Identity.fields, j.get? k ≠ none

theorem Carries.labelled (h : j.Carries id) : j.Labelled := fun _ hk => h.ne_none hk

theorem Labelled.set {k : String} {v : Value} (h : j.Labelled) : (j.set k v).Labelled := by
  intro l hl
  rw [get?_set]
  split
  · simp
  · exact h l hl

/-- A text of the identity may be set before or after any other field. -/
theorem Labelled.set_comm {k l : String} {v w : Value} (h : j.Labelled) (hk : k ∈ Identity.fields)
    (hkl : k ≠ l) : (j.set l w).set k v = (j.set k v).set l w :=
  Job.set_comm hkl (h k hk)

/-! ### The edits -/

/-- The job for an app. -/
theorem forApp_eq (h : j.Carries id) :
    j.forApp app = .ok ((j.set Field.app (.text app)).relabel (id.forApp app)) := by
  have hc : (j.set Field.app (.text app)).Carries id := h.set (by decide)
  rw [forApp, append_of_text hc.description, ok_bind, requireText_of_text h.testName, ok_bind]
  cases ha : App.symbol? app with
  | none =>
    -- the symbol stays, so setting it again changes nothing
    have hs : (id.forApp app).symbol = id.symbol := by simp [Identity.forApp, ha]
    refine congrArg Except.ok (set_of_get? ?_).symm
    rw [hs]
    simp +decide [get?_set, h.symbol]
  | some suffix =>
    have hs : (id.forApp app).symbol =
        ((Symbol.split id.symbol).suffixGroup ("-" ++ suffix)).text := by
      simp [Identity.forApp, ha]
    refine (suffixGroup_of_text (s := id.symbol) ?_).trans ?_
    · simp +decide [get?_set, h.symbol]
    · rw [relabel, hs]
      rfl

/-- The job of some name, with some test, told to run cold. -/
def markCold (name test : String) (j : Job) : Job :=
  if Text.startsWith name browsertimePrefix then j.set Field.cold (.bool true)
  else j.set Field.raptorTest (.text (test ++ "-cold"))

theorem tellCold_eq {n t : String} (hn : j.get? Field.testName = some (.text n))
    (ht : j.get? Field.raptorTest = some (.text t)) : j.tellCold = .ok (j.markCold n t) := by
  rw [tellCold, requireText_of_text hn, ok_bind, markCold]
  split
  · rfl
  · exact append_of_text ht

theorem Carries.markCold {name test : String} (h : j.Carries id) :
    (j.markCold name test).Carries id := by
  unfold Job.markCold
  split
  · exact h.set (by decide)
  · exact h.set (by decide)

theorem Carries.markCold_comm {name test k : String} {v : Value} (h : j.Carries id)
    (hk : k ∈ Identity.fields) :
    (j.set k v).markCold name test = (j.markCold name test).set k v := by
  have h1 : k ≠ Field.cold := fun e => absurd (e ▸ hk) (by decide)
  have h2 : k ≠ Field.raptorTest := fun e => absurd (e ▸ hk) (by decide)
  unfold Job.markCold
  split
  · exact (h.labelled.set_comm hk h1).symm
  · exact (h.labelled.set_comm hk h2).symm

/-- The job that loads pages cold. -/
theorem cold_eq {test : String} (h : j.Carries id)
    (ht : j.get? Field.raptorTest = some (.text test)) :
    j.cold = .ok (((j.markCold id.testName test).set Field.maxRunTime
      (.number (.int coldMaxRunTime))).relabel id.cold) := by
  have hh : j.has Field.raptorTest = true := has_iff.2 (by simp [ht])
  have hm : (j.markCold id.testName test).Carries id := h.markCold
  rw [cold, hh]
  simp only [Bool.not_true, Bool.false_eq_true, if_false]
  rw [append_of_text h.description, ok_bind, tellCold_eq (n := id.testName) (t := test),
    ok_bind, h.markCold_comm (by decide), append_of_text (s := id.testName), ok_bind,
    append_of_text (s := id.tryName), ok_bind, suffixLeaf_of_text (s := id.symbol)]
  · -- the description is extended before the run time is set, and may as well be extended after
    rw [← hm.labelled.set_comm (by decide) (by decide)]
    rfl
  · simp +decide [get?_set, hm.symbol]
  · simp +decide [get?_set, hm.tryName]
  · simp +decide [get?_set, hm.testName]
  · simp +decide [get?_set, h.testName]
  · simp +decide [get?_set, ht]

theorem cold_of_no_test (h : j.get? Field.raptorTest = none) :
    j.cold = .error (j.failure Field.raptorTest .coldWithoutTest) := by
  have hh : ¬ j.has Field.raptorTest = true := fun hh => has_iff.1 hh h
  rw [cold, Bool.eq_false_iff.2 hh]
  rfl

theorem Carries.addOptions {options : List String} (h : j.Carries id)
    (hr : j.addOptions options = .ok r) : r.Carries id := by
  obtain ⟨mozharness, old, -, -, rfl⟩ := addOptions_eq_ok_iff.1 hr
  exact h.set (by decide)

/-- The twin with a conditioned profile. -/
theorem profiled_eq (h : j.Carries id) :
    j.profiled = (j.addOptions [profileOption]).map (relabel id.profiled) := by
  rw [profiled]
  cases hr : j.addOptions [profileOption] with
  | error f => rfl
  | ok r =>
    have hc : r.Carries id := h.addOptions hr
    rw [ok_bind, suffixLeaf_of_text hc.symbol, ok_bind, append_of_text (s := id.description),
      ok_bind, append_of_text (s := id.tryName), ok_bind, append_of_text (s := id.testName)]
    · have hl := hc.labelled
      rw [setSymbol, hl.set_comm (by decide) (by decide), hl.set.set_comm (by decide) (by decide),
        hl.set.set.set_comm (by decide) (by decide), hl.set.set_comm (by decide) (by decide)]
      rfl
    · simp +decide [get?_set, setSymbol, hc.testName]
    · simp +decide [get?_set, setSymbol, hc.tryName]
    · simp +decide [get?_set, setSymbol, hc.description]

/-- The chunk for a subtest. -/
theorem chunk_eq {number : Nat} {subtest : String} (h : j.Carries id) :
    j.chunk (Symbol.split id.symbol) number subtest =
      .ok ((j.set Field.raptorTest (.text subtest)).relabel (id.chunk number subtest)) := by
  rw [chunk, append_of_text h.testName, ok_bind, append_of_text (s := id.tryName), ok_bind]
  simp only []
  rw [append_of_text (s := id.description)]
  · have hl := h.labelled
    rw [setSymbol, hl.set.set.set.set_comm (by decide) (by decide),
      hl.set.set.set_comm (by decide) (by decide), hl.set.set_comm (by decide) (by decide),
      hl.set_comm (by decide) (by decide), relabel,
      hl.set_comm (k := Field.description) (l := Field.raptorTest) (by decide) (by decide),
      hl.set.set_comm (k := Field.testName) (l := Field.raptorTest) (by decide) (by decide),
      hl.set.set.set_comm (k := Field.tryName) (l := Field.raptorTest) (by decide) (by decide)]
    rfl
  · simp +decide [get?_set, setSymbol, h.description]
  · simp +decide [get?_set, h.tryName]

end Job

end JobExpansion
