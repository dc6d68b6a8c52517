import JobExpansion.Proofs.Job.Edits

/-!
# Changes in place

A change in place makes the mappings and lists that it misses on its way, and only then looks at
what is there. A failure leaves none of them behind nevertheless: every change is atomic, and local
to the end of one path (`Change.path`). `change_effect` says so, and that what stands in its way is
a value of the wrong form (`Change.Fits`) and nothing else.
-/

namespace JobExpansion.Job

open Entries

variable {j r : Job} {k : String} {rows : Entries} {v : Value}

/-- A change in place that may fail. -/
inductive Change where
  | append (k suffix : String)
  | suffixLeaf (suffix : String)
  | suffixGroup (suffix : String)
  | openMapping (k : String)
  | setIn (k key : String) (v : Value)
  | openOptions
  | addOptions (options : List String)

/-- The text of a field is there. -/
def HasText (k : String) (j : Job) : Prop := ∃ s, j.get? k = some (.text s)

/-- Nothing but a mapping is in a field. -/
def HasRoom (k : String) (j : Job) : Prop := ∀ v, j.get? k = some v → v.mapping? ≠ none

/-- Nothing but a list is where the extra options are to be. -/
def HasRoomForOptions (j : Job) : Prop :=
  j.HasRoom Field.mozharness ∧ ∀ rows v, j.get? Field.mozharness = some (.mapping rows) →
    rows.lookup Field.extraOptions = some v → v.list? ≠ none

namespace Change

/-- The steps of a change. -/
def steps : Change → EStateM Failure Job Unit
  | append k suffix => appendInPlace k suffix
  | suffixLeaf suffix => suffixLeafInPlace suffix
  | suffixGroup suffix => suffixGroupInPlace suffix
  | openMapping k => do let _ ← Job.openMapping k
  | setIn k key v => setInPlace k key v
  | openOptions => do let _ ← Job.openOptions
  | addOptions options => addOptionsInPlace options

/-- Where a change writes. -/
def path : Change → List String
  | append k _ => [k]
  | suffixLeaf _ | suffixGroup _ => [Field.symbol]
  | openMapping k => [k]
  | setIn k key _ => [k, key]
  | openOptions | addOptions _ => [Field.mozharness, Field.extraOptions]

/-- What a change needs of a job. -/
def Fits : Change → Job → Prop
  | append k _ => HasText k
  | suffixLeaf _ | suffixGroup _ => HasText Field.symbol
  | openMapping k | setIn k _ _ => HasRoom k
  | openOptions | addOptions _ => HasRoomForOptions

end Change

/-! ### The effect of a change -/

/-- Where a change leads: back to the job as it was, or to a job with something else at the end of a
path. -/
inductive Effect (fits : Prop) (path : List String) (j : Job) :
    EStateM.Result Failure Job Unit → Prop where
  | refused {failure : Failure} (h : ¬ fits) : Effect fits path j (.error failure j)
  | written {w : Value} {r : Job} (h : fits) (hr : WrittenAt w path j.entries r.entries) :
      Effect fits path j (.ok () r)

theorem hasText_iff : j.HasText k ↔ ∃ s, j.text? k = some s :=
  exists_congr fun _ => text?_eq_some_iff.symm

theorem effect_append (k suffix : String) (j : Job) :
    Effect (j.HasText k) [k] j ((appendInPlace k suffix).run j) := by
  rw [run_appendInPlace, hasText_iff]
  cases hs : j.text? k with
  | none => exact .refused (by simp)
  | some s => exact .written ⟨s, rfl⟩ (writtenAt_set k _ j.entries)

theorem effect_editSymbol (edit : Symbol → Symbol) (j : Job) :
    Effect (j.HasText Field.symbol) [Field.symbol] j ((editSymbol edit).run j) := by
  rw [run_editSymbol, symbol, requireText, hasText_iff]
  cases hs : j.text? Field.symbol with
  | none => exact .refused (by simp)
  | some s => exact .written ⟨s, rfl⟩ (writtenAt_set Field.symbol _ j.entries)

theorem hasRoom_iff : j.HasRoom k ↔ ∃ rows, j.mapping k = .ok rows := by
  cases hm : j.mapping k with
  | ok rows =>
    refine ⟨fun _ => ⟨rows, rfl⟩, fun _ v hv hn => ?_⟩
    cases hm.symm.trans (mapping_eq_error_iff.2 ⟨⟨v, hv, hn⟩, rfl⟩)
  | error failure =>
    obtain ⟨⟨v, hv, hn⟩, -⟩ := mapping_eq_error_iff.1 hm
    exact ⟨fun h => absurd hn (h v hv), nofun⟩

/-- A row set in a mapping that is there or made for it. -/
theorem writtenAt_setIn (hm : j.mapping k = .ok rows) (key : String) (v : Value) :
    WrittenAt v [k, key] j.entries (j.set k (.mapping (rows.set key v))).entries := by
  rcases mapping_eq_ok_iff.1 hm with ⟨hn, rfl⟩ | hs
  · exact (writtenAt_set key v []).set_new hn
  · exact (writtenAt_set key v rows).set_mapping hs

theorem effect_openMapping (k : String) (j : Job) :
    Effect (j.HasRoom k) [k] j ((Change.openMapping k).steps.run j) := by
  simp only [Change.steps, EStateM.run_bind, run_openMapping, hasRoom_iff]
  cases hm : j.mapping k with
  | error failure => exact .refused (by simp)
  | ok rows => exact .written ⟨rows, rfl⟩ (writtenAt_set k _ j.entries)

theorem effect_setIn (k key : String) (v : Value) (j : Job) :
    Effect (j.HasRoom k) [k, key] j ((setInPlace k key v).run j) := by
  rw [run_setInPlace, hasRoom_iff]
  cases hm : j.mapping k with
  | error failure => exact .refused (by simp)
  | ok rows => exact .written ⟨rows, rfl⟩ (writtenAt_setIn hm key v)

theorem hasRoomForOptions_iff : j.HasRoomForOptions ↔
    ∃ rows old, j.mapping Field.mozharness = .ok rows ∧ j.optionList rows = .ok old := by
  constructor
  · rintro ⟨hroom, hlist⟩
    obtain ⟨rows, hrows⟩ := hasRoom_iff.1 hroom
    cases ho : j.optionList rows with
    | ok old => exact ⟨rows, old, hrows, ho⟩
    | error failure =>
      obtain ⟨⟨v, hv, hn⟩, -⟩ := optionList_eq_error_iff.1 ho
      rcases mapping_eq_ok_iff.1 hrows with ⟨-, rfl⟩ | hs
      · cases hv
      · exact absurd hn (hlist rows v hs hv)
  · rintro ⟨rows, old, hrows, ho⟩
    refine ⟨hasRoom_iff.2 ⟨rows, hrows⟩, fun rows' v hs hv hn => ?_⟩
    cases hrows.symm.trans (mapping_eq_ok_iff.2 (.inr hs))
    cases ho.symm.trans (optionList_eq_error_iff.2 ⟨⟨v, hv, hn⟩, rfl⟩)

/-- A change that only puts other extra options in place of those that are there or made for it. -/
theorem effect_options {change : EStateM Failure Job Unit} (new : List Value → List Value)
    (hrun : change.run j =
      match j.mapping Field.mozharness with
      | .ok rows =>
        match j.optionList rows with
        | .ok old => .ok () (j.set Field.mozharness (.mapping (rows.set Field.extraOptions
            (.list (new old)))))
        | .error failure => .error failure j
      | .error failure => .error failure j) :
    Effect j.HasRoomForOptions [Field.mozharness, Field.extraOptions] j (change.run j) := by
  rw [hrun, hasRoomForOptions_iff]
  cases hrows : j.mapping Field.mozharness with
  | error failure => exact .refused (by simp)
  | ok rows =>
    dsimp only
    cases ho : j.optionList rows with
    | error failure => exact .refused (by simp [ho])
    | ok old => exact .written ⟨rows, old, rfl, ho⟩ (writtenAt_setIn hrows Field.extraOptions _)

theorem effect_openOptions (j : Job) : Effect j.HasRoomForOptions
    [Field.mozharness, Field.extraOptions] j (Change.openOptions.steps.run j) := by
  refine effect_options id ?_
  simp only [Change.steps, EStateM.run_bind, run_openOptions]
  cases j.mapping Field.mozharness with
  | error failure => rfl
  | ok rows =>
    dsimp only
    cases j.optionList rows <;> rfl

/-- Each change by its steps. -/
theorem Change.effect (c : Change) (j : Job) : Effect (c.Fits j) c.path j (c.steps.run j) := by
  cases c with
  | append k suffix => exact effect_append k suffix j
  | suffixLeaf suffix => exact effect_editSymbol _ j
  | suffixGroup suffix => exact effect_editSymbol _ j
  | openMapping k => exact effect_openMapping k j
  | setIn k key v => exact effect_setIn k key v j
  | openOptions => exact effect_openOptions j
  | addOptions options => exact effect_options _ (run_addOptionsInPlace options j)

/-- **A change in place is atomic and local.**  It fails just for the jobs that do not fit it, and
leaves them as they were, with the order of their keys and nothing made. Where it succeeds, the job
has some value written at the end of the path of the change, and nothing else is changed: every
other field is the same, and the keys that were there keep their places. After options have been
added, those read are those that were read before, followed by the new ones. -/
theorem change_effect (c : Change) (j : Job) :
    (∀ failure r, c.steps.run j = .error failure r → r = j ∧ ¬ c.Fits j) ∧
    (∀ r, c.steps.run j = .ok () r → c.Fits j ∧
      (∃ w, WrittenAt w c.path j.entries r.entries) ∧
      (∀ k, c.path.head? ≠ some k → r.get? k = j.get? k) ∧
      j.entries.keys <+: r.entries.keys) ∧
    ∀ options r, (Change.addOptions options).steps.run j = .ok () r →
      r.options = j.options ++ options := by
  have heffect : Effect (c.Fits j) c.path j (c.steps.run j) := c.effect j
  refine ⟨fun failure r hr => ?_, fun r hr => ?_, fun options r hr => ?_⟩
  · rw [hr] at heffect
    cases heffect with
    | refused h => exact ⟨rfl, h⟩
  · rw [hr] at heffect
    cases heffect with
    | written h hw => exact ⟨h, ⟨_, hw⟩, fun k hk => hw.lookup_of_ne hk, hw.keys_prefix⟩
  · exact options_addOptions (changedBy_eq_ok_iff.2 hr)

/-- A job with some rows of the harness behind the script, between two other fields. -/
def withHarness (rows : Entries) : Job := ⟨[("test-name", .text "t"),
  ("mozharness", .mapping (("script", .null) :: rows)), ("app", .text "fenix")]⟩

/-- A text in place of the list stops the last step, and is still there. Where nothing is in place
of the list, it is made behind the script. -/
theorem change_harness :
    ((Change.addOptions ["--cold"]).steps.run (withHarness [("extra-options", .text "--a")]) =
        .error ⟨.optionsNotList, some "t", some "mozharness.extra-options", none, none⟩
          (withHarness [("extra-options", .text "--a")]) ∧
      ¬ (Change.addOptions ["--cold"]).Fits (withHarness [("extra-options", .text "--a")])) ∧
    ((Change.addOptions ["--cold"]).steps.run (withHarness []) =
        .ok () (withHarness [("extra-options", .list [.text "--cold"])]) ∧
      (∃ w, WrittenAt w ["mozharness", "extra-options"] (withHarness []).entries
        (withHarness [("extra-options", .list [.text "--cold"])]).entries) ∧
      (withHarness [("extra-options", .list [.text "--cold"])]).options =
        (withHarness []).options ++ ["--cold"]) := by
  have hrefused : (Change.addOptions ["--cold"]).steps.run
      (withHarness [("extra-options", .text "--a")]) =
        .error ⟨.optionsNotList, some "t", some "mozharness.extra-options", none, none⟩
          (withHarness [("extra-options", .text "--a")]) := by rfl
  have hmade : (Change.addOptions ["--cold"]).steps.run (withHarness []) =
      .ok () (withHarness [("extra-options", .list [.text "--cold"])]) := by rfl
  obtain ⟨-, hlocal, hoptions⟩ := change_effect (.addOptions ["--cold"]) (withHarness [])
  exact ⟨⟨hrefused, ((change_effect (.addOptions ["--cold"]) _).1 _ _ hrefused).2⟩,
    hmade, (hlocal _ hmade).2.1, hoptions _ _ hmade⟩

end JobExpansion.Job
