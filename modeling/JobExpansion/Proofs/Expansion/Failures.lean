import JobExpansion.Proofs.Expansion.Progress
import JobExpansion.Proofs.Schema.FirstFault

/-!
# Failures of an expansion

What can go wrong once the schema has been checked. `Stage.codes` and `Stage.MayBlame` say for each
stage which codes its failures have and which fields they name; `expand_fails_as_documented` says
that no run fails in any other way. The checks of fields that the schema is about never fail after
it, as every job in a stage after the defaults is ready.
-/

namespace JobExpansion

open Schema

variable {settings : Settings} {j r : Job} {e f : Failure} {s : Stage}

/-! ### What is documented -/

/-- The codes of the failures of keyed values. -/
def keyedCodes : List String := ["RAPTOR-KEYED-001", "RAPTOR-KEYED-002", "RAPTOR-KEYED-003"]

/-- The codes of the failures of a stage. -/
def Stage.codes : Stage → List String
  | .schema => ["RAPTOR-SCHEMA-001", "RAPTOR-SCHEMA-002", "RAPTOR-SCHEMA-003"]
  | .apps | .keyed => keyedCodes
  | .pageload => ["RAPTOR-INVARIANT-001"]
  | .condprof | .options => ["RAPTOR-INVARIANT-002"]
  | .defaults | .subtests => []

/-- A stage has failures in this field. -/
def Stage.MayBlame (field : String) : Stage → Prop
  | .schema => True
  | .apps => field = Field.apps
  | .keyed => field ∈ Job.keyedFields
  | .pageload => field = Field.raptorTest
  | .condprof => field ∈ [Field.mozharness, Job.optionsPath]
  | .options => field ∈ [Field.attributes, Field.mozharness, Job.optionsPath]
  | .defaults | .subtests => False

/-- A text of the job, an app or the list of subtests is not what the schema says. -/
def Cause.isMalformed : Cause → Bool
  | .stringMissing _ | .notAppendable .. | .appNotString _ | .subtestsNotList _
  | .subtestNotString _ => true
  | _ => false

/-- A failure that a stage is known for. -/
structure Failure.KnownIn (s : Stage) (f : Failure) : Prop where
  testName : ∃ name, f.testName = some name
  field : ∃ field, f.field = some field ∧ s.MayBlame field
  code : f.cause.code ∈ s.codes
  spared : f.cause.isMalformed = false

/-! ### The schema -/

theorem known_of_validate (h : validate j = .error e) : e.KnownIn .schema := by
  obtain ⟨rule, way, fault, -, rfl⟩ := validate_eq_error_iff.1 h
  refine ⟨⟨_, rfl⟩, ⟨_, rfl, trivial⟩, ?_, ?_⟩
  · have hcode : (fault.failure j rule way).cause.code = fault.code := Fault.code_cause rule _ fault
    rw [hcode]
    cases fault <;> simp [Fault.code, Stage.codes]
  · cases fault <;> rfl

/-! ### Keyed fields -/

theorem code_mem_keyedCodes (k : Keyed.Failure) : (Cause.keyed k).code ∈ keyedCodes := by
  obtain ⟨attr, item, trouble⟩ := k
  cases trouble <;> simp [Cause.code, keyedCodes]

theorem resolveField_error {item field : String}
    (h : j.resolveField settings item field = .error e) :
    ∃ k, e = ⟨.keyed k, some item, some field, none, none⟩ := by
  unfold Job.resolveField at h
  split at h
  · cases h
  · next k hk =>
    cases h
    exact ⟨k, rfl⟩

theorem resolveFields_error {item : String} {fields : List String}
    (h : j.resolveFields settings item fields = .error e) :
    ∃ field ∈ fields, ∃ k, e = ⟨.keyed k, some item, some field, none, none⟩ := by
  induction fields generalizing j with
  | nil => cases h
  | cons field fields ih =>
    rw [Job.resolveFields, bind_eq_error_iff] at h
    rcases h with h | ⟨m, -, h⟩
    · exact ⟨field, List.mem_cons_self, resolveField_error h⟩
    · obtain ⟨l, hl, hk⟩ := ih h
      exact ⟨l, List.mem_cons_of_mem _ hl, hk⟩

/-! ### Stages after the defaults -/

namespace Job

theorem Ready.known_of_splitApps (h : j.Ready) (he : j.splitApps settings = .error e) :
    e.KnownIn .apps := by
  cases hw : j.withApps settings with
  | error e' =>
    rw [Job.splitApps, hw, error_bind] at he
    cases he
    obtain ⟨k, rfl⟩ := resolveField_error hw
    exact ⟨⟨_, rfl⟩, ⟨_, rfl, rfl⟩, code_mem_keyedCodes k, rfl⟩
  | ok r =>
    -- once the list of apps is known, no edit for an app fails
    obtain ⟨apps, ha⟩ : ∃ apps, j.appChoices settings = .ok apps := by
      rw [Job.appChoices, hw, ok_bind]
      split <;> exact ⟨_, rfl⟩
    have hm : MadeBy (j.splitApps settings) (.ok apps) (j.toApp ·) := ha ▸ h.splitApps_madeBy
    obtain ⟨out, hout⟩ := hm.total fun app =>
      let ⟨r, hr, _⟩ := h.toApp app
      ⟨r, hr⟩
    cases hout.symm.trans he

theorem known_of_resolved (he : j.resolved settings = .error e) : e.KnownIn .keyed := by
  obtain ⟨field, hf, k, rfl⟩ := resolveFields_error he
  exact ⟨⟨_, rfl⟩, ⟨_, rfl, hf⟩, code_mem_keyedCodes k, rfl⟩

theorem Ready.known_of_splitPageload (h : j.Ready) (he : j.splitPageload = .error e) :
    e.KnownIn .pageload := by
  have hcold : (j.erase Field.pageload).cold = .error e := by
    unfold Job.splitPageload at he
    split at he
    · cases he
    · simpa using he
    · simpa using he
  have hready : (j.erase Field.pageload).Ready := h.erase (by decide) (by decide)
  rcases hready.cold with ⟨r, hr, -⟩ | hr
  · cases hr.symm.trans hcold
  · cases hr.symm.trans hcold
    exact ⟨⟨_, rfl⟩, ⟨_, rfl, rfl⟩, List.mem_singleton.2 rfl, rfl⟩

/-- More options can only be refused for what is in the way of them. -/
theorem known_of_addOptions {options : List String} (he : j.addOptions options = .error e)
    (hs : s = .condprof ∨ s = .options) : e.KnownIn s := by
  rcases addOptions_error he with rfl | rfl <;> rcases hs with rfl | rfl
  all_goals exact ⟨⟨_, rfl⟩, ⟨_, rfl, by simp [Stage.MayBlame]⟩, List.mem_singleton.2 rfl, rfl⟩

theorem Ready.known_of_splitProfile (h : j.Ready) (he : j.splitProfile = .error e) :
    e.KnownIn .condprof := by
  have hprofiled : (j.erase Field.condprof).profiled = .error e := by
    simp only [Job.splitProfile] at he
    split at he
    · cases he
    · simpa using he
  have hready : (j.erase Field.condprof).Ready := h.erase (by decide) (by decide)
  obtain ⟨id, hid⟩ := hready.carries
  rw [profiled_eq hid, map_eq_error_iff] at hprofiled
  exact known_of_addOptions hprofiled (.inl rfl)

theorem Ready.splitSubtests_ne_error (h : j.Ready) : j.splitSubtests ≠ .error e := by
  intro he
  obtain ⟨out, hout⟩ := h.splitSubtests_madeBy.total fun chunk =>
    let ⟨r, hr, _⟩ := h.toChunk chunk
    ⟨r, hr⟩
  cases hout.symm.trans he

theorem known_of_withOptions (he : j.withOptions settings = .error e) : e.KnownIn .options := by
  rw [withOptions, bind_eq_error_iff] at he
  rcases he with he | ⟨m, -, he⟩
  · unfold markMetrics at he
    split at he
    · cases setIn_error he
      exact ⟨⟨_, rfl⟩, ⟨_, rfl, by simp [Stage.MayBlame]⟩, List.mem_singleton.2 rfl, rfl⟩
    · cases he
  · exact known_of_addOptions he (.inr rfl)

end Job

/-! ### All stages -/

theorem known_of_replace {done rest : List Stage} (hall : done ++ s :: rest = Stage.all)
    (hj : j.Checked done) {i : Nat} (he : s.replace settings i j = .error e) : e.KnownIn s := by
  rcases position_of_stage hall with ⟨rfl, -⟩ | ⟨rfl, -⟩ | ⟨hs, hdone⟩
  · obtain ⟨e', he', rfl⟩ := mapError_eq_error_iff.1 (map_eq_error_iff.1 he)
    -- the position in the list is told besides, and changes nothing else
    obtain ⟨htest, hfield, hcode, hspared⟩ := known_of_validate he'
    exact ⟨htest, hfield, hcode, hspared⟩
  · cases he
  · have hready := hj.ready hdone
    cases s with
    | schema => exact absurd hs (by decide)
    | defaults => exact absurd hs (by decide)
    | apps => exact hready.known_of_splitApps he
    | keyed => exact Job.known_of_resolved (map_eq_error_iff.1 he)
    | pageload => exact hready.known_of_splitPageload he
    | condprof => exact hready.known_of_splitProfile he
    | subtests => exact absurd he hready.splitSubtests_ne_error
    | options => exact Job.known_of_withOptions (map_eq_error_iff.1 he)

/-- The rows of a failure of which stage, test and field are known. -/
theorem lookup_context {name field : String} (hs : f.stage = some s)
    (hn : f.testName = some name) (hf : f.field = some field) :
    f.context.lookup "stage" = some s.name ∧ f.context.lookup "test-name" = some name ∧
      f.context.lookup "field" = some field := by
  unfold Failure.context
  rw [hs, hn, hf]
  cases f.index <;> simp +decide [List.lookup_cons]

/-- **After validation only the documented failures remain.**  A run that fails tells the stage, the
test and a field; the stage decides the code and the fields that it may be; and no check of what the
schema is about has failed after it. -/
theorem expand_fails_as_documented {js : List Job} (h : expand settings js = .error f) :
    ∃ (s : Stage) (name field : String), f.context.lookup "stage" = some s.name ∧
      f.context.lookup "test-name" = some name ∧ f.context.lookup "field" = some field ∧
      f.cause.code ∈ s.codes ∧ s.MayBlame field ∧ f.cause.isMalformed = false := by
  have hstart : ∀ j ∈ js, j.Checked [] := fun j _ => ⟨nofun, nofun⟩
  have hall : [] ++ Stage.all ++ [] = Stage.all := rfl
  obtain ⟨done, s, rest, i, j, e, hpos, hj, he, rfl⟩ := run_fails_at checked_kept hall hstart h
  obtain ⟨⟨name, hname⟩, ⟨field, hfield, hblame⟩, hcode, hspared⟩ := known_of_replace hpos hj he
  obtain ⟨hstage, htest, hrow⟩ := lookup_context (f := e.inStage s) rfl hname hfield
  exact ⟨s, name, field, hstage, htest, hrow, hcode, hblame, hspared⟩

/-- A job that is to load pages cold and names no test. -/
def untestedSample : Job := ⟨leastFields ++ [(Field.pageload, .text "cold")]⟩

/-- The failure of the sample. -/
def untestedFailure : Failure :=
  ⟨.coldWithoutTest, some "raptor-tp6m-amazon", some Field.raptorTest, none, some .pageload⟩

theorem expand_untestedSample :
    expand {} [untestedSample] = .error untestedFailure ∧
      ∃ (s : Stage) (name field : String), untestedFailure.context.lookup "stage" = some s.name ∧
        untestedFailure.context.lookup "test-name" = some name ∧
        untestedFailure.context.lookup "field" = some field ∧
        untestedFailure.cause.code ∈ s.codes ∧ s.MayBlame field ∧
        untestedFailure.cause.isMalformed = false := by
  have h : expand {} [untestedSample] = .error untestedFailure := by decide +kernel
  exact ⟨h, expand_fails_as_documented h⟩

end JobExpansion
