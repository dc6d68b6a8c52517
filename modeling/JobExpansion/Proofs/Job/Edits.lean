import JobExpansion.Job.Record
import JobExpansion.Proofs.Outcome
import JobExpansion.Proofs.Value.Paths

/-!
# Edits of a job

What each operation on a job does to its fields, and when an operation that may fail gives a job.
An operation on a text succeeds just when the text is there, and then its result is the job with
one field set; the operations on nested mappings fail only by naming the field of the wrong form.
The steps of a change in place are gone through once (`run_…`), and never opened again.
-/

namespace JobExpansion.Job

variable {j r : Job} {k l s suffix : String} {v w : Value}

/-! ### Fields after an edit -/

theorem get?_set (k l : String) (v : Value) (j : Job) :
    (j.set k v).get? l = if l = k then some v else j.get? l :=
  Entries.lookup_set k l v j.entries

theorem get?_erase (k l : String) (j : Job) :
    (j.erase k).get? l = if l = k then none else j.get? l :=
  Entries.lookup_erase k l j.entries

@[simp] theorem get?_set_self (k : String) (v : Value) (j : Job) : (j.set k v).get? k = some v := by
  rw [get?_set, if_pos rfl]

theorem get?_set_of_ne (h : l ≠ k) : (j.set k v).get? l = j.get? l := by
  rw [get?_set, if_neg h]

theorem get?_erase_of_ne (h : l ≠ k) : (j.erase k).get? l = j.get? l := by
  rw [get?_erase, if_neg h]

theorem has_iff : j.has k = true ↔ j.get? k ≠ none := Option.isSome_iff_ne_none

theorem setDefault_of_some (h : j.get? k = some w) : j.setDefault k v = j :=
  congrArg Job.mk (Entries.setDefault_of_lookup h)

theorem setDefault_of_none (h : j.get? k = none) : j.setDefault k v = j.set k v :=
  congrArg Job.mk (Entries.setDefault_of_none h)

theorem get?_setDefault_ne_none : (j.setDefault k v).get? k ≠ none := by
  cases h : j.get? k with
  | none => simp [setDefault_of_none h]
  | some w => simp [setDefault_of_some h, h]

theorem set_of_get? (h : j.get? k = some v) : j.set k v = j := by
  rw [set, Entries.set_of_lookup h]

@[simp] theorem set_set_self (k : String) (v w : Value) (j : Job) :
    (j.set k w).set k v = j.set k v := by
  simp only [set, Entries.set_set_self]

/-- A field that is there may be set before or after another. -/
theorem set_comm (hkl : k ≠ l) (hk : j.get? k ≠ none) :
    (j.set l w).set k v = (j.set k v).set l w := by
  have hmem : k ∈ j.entries.keys := (Entries.has_iff j.entries k).1 (has_iff.2 hk)
  simp only [set, Entries.set_comm hkl hmem]

@[simp] theorem erase_set_self (k : String) (v : Value) (j : Job) :
    (j.set k v).erase k = j.erase k := by
  simp only [set, erase, Entries.erase_set_self]

/-! ### Texts -/

theorem text?_eq_some_iff : j.text? k = some s ↔ j.get? k = some (.text s) := by
  simp [text?, Option.bind_eq_some_iff]

theorem testName_of_text (h : j.get? Field.testName = some (.text s)) : j.testName = s := by
  rw [testName, text?_eq_some_iff.2 h, Option.getD_some]

theorem requireText_of_text (h : j.get? k = some (.text s)) : j.requireText k = .ok s := by
  rw [requireText, text?_eq_some_iff.2 h]

theorem changedBy_eq_ok_iff {change : EStateM Failure Job Unit} :
    j.changedBy change = .ok r ↔ change.run j = .ok () r := by
  rw [changedBy]
  cases change.run j <;> simp

theorem run_appendInPlace (k suffix : String) (j : Job) :
    (appendInPlace k suffix).run j =
      match j.text? k with
      | some s => .ok () (j.set k (.text (s ++ suffix)))
      | none => .error (j.failure k (.notAppendable (j.has k) k)) j := by
  simp only [appendInPlace, EStateM.run_bind, EStateM.run_get]
  cases j.text? k <;> rfl

theorem append_eq (k suffix : String) (j : Job) :
    j.append k suffix =
      match j.text? k with
      | some s => .ok (j.set k (.text (s ++ suffix)))
      | none => .error (j.failure k (.notAppendable (j.has k) k)) := by
  rw [append, changedBy, run_appendInPlace]
  cases j.text? k <;> rfl

theorem append_of_text (h : j.get? k = some (.text s)) :
    j.append k suffix = .ok (j.set k (.text (s ++ suffix))) := by
  rw [append_eq, text?_eq_some_iff.2 h]

theorem symbol_of_text (h : j.get? Field.symbol = some (.text s)) :
    j.symbol = .ok (Symbol.split s) := by
  rw [symbol, requireText_of_text h]
  rfl

theorem run_editSymbol (edit : Symbol → Symbol) (j : Job) :
    (editSymbol edit).run j =
      match j.symbol with
      | .ok s => .ok () (j.setSymbol (edit s))
      | .error failure => .error failure j := by
  simp only [editSymbol, EStateM.run_bind, EStateM.run_get]
  cases j.symbol <;> rfl

theorem suffixLeaf_of_text (h : j.get? Field.symbol = some (.text s)) :
    j.suffixLeaf suffix = .ok (j.setSymbol ((Symbol.split s).suffixLeaf suffix)) := by
  rw [suffixLeaf, changedBy, suffixLeafInPlace, run_editSymbol, symbol_of_text h]

theorem suffixGroup_of_text (h : j.get? Field.symbol = some (.text s)) :
    j.suffixGroup suffix = .ok (j.setSymbol ((Symbol.split s).suffixGroup suffix)) := by
  rw [suffixGroup, changedBy, suffixGroupInPlace, run_editSymbol, symbol_of_text h]

/-! ### Nested mappings -/

theorem mapping_eq_ok_iff {entries : Entries} : j.mapping k = .ok entries ↔
    (j.get? k = none ∧ entries = []) ∨ j.get? k = some (.mapping entries) := by
  rw [mapping]
  split
  · next h => simp [h, eq_comm]
  · next h => simp [h]
  · next w hn hw =>
    simp only [hw, reduceCtorEq, false_and, false_or, Option.some.injEq, false_iff]
    exact hn entries

theorem mapping_eq_error_iff {f : Failure} : j.mapping k = .error f ↔
    (∃ v, j.get? k = some v ∧ v.mapping? = none) ∧ f = j.failure k (.fieldNotMapping k) := by
  unfold mapping
  cases hv : j.get? k with
  | none => simp
  | some v => cases v <;> simp [Value.mapping?, eq_comm]

theorem mapping_error {f : Failure} (h : j.mapping k = .error f) :
    f = j.failure k (.fieldNotMapping k) :=
  (mapping_eq_error_iff.1 h).2

theorem optionList_eq_error_iff {rows : Entries} {f : Failure} : j.optionList rows = .error f ↔
    (∃ v, rows.lookup Field.extraOptions = some v ∧ v.list? = none) ∧
      f = j.failure optionsPath .optionsNotList := by
  unfold optionList
  cases hv : rows.lookup Field.extraOptions with
  | none => simp
  | some v => cases v <;> simp [Value.list?, eq_comm]

theorem optionList_eq_ok_iff {mozharness : Entries} {options : List Value} :
    j.optionList mozharness = .ok options ↔
      (mozharness.lookup Field.extraOptions = none ∧ options = []) ∨
        mozharness.lookup Field.extraOptions = some (.list options) := by
  rw [optionList]
  split
  · next h => simp [h, eq_comm]
  · next h => simp [h]
  · next w hn hw =>
    simp only [hw, reduceCtorEq, false_and, false_or, Option.some.injEq, false_iff]
    exact hn options

/-- A mapping is made only where there is none. Where the field holds another value, the job is as
it was. -/
theorem run_openMapping (k : String) (j : Job) :
    (openMapping k).run j =
      match j.mapping k with
      | .ok entries => .ok entries (j.set k (.mapping entries))
      | .error failure => .error failure j := by
  simp only [openMapping, EStateM.run_bind, EStateM.run_get, EStateM.run_modify, mapping]
  cases hv : j.get? k with
  | none =>
    rw [setDefault_of_none hv, get?_set_self]
    rfl
  | some v =>
    rw [setDefault_of_some hv, hv]
    cases v with
    | mapping entries =>
      simp only [set_of_get? hv]
      rfl
    | _ => rfl

/-- The list is made, and the mapping that it is in, only where there is none. Where something else
stands in place of either, the job is as it was. -/
theorem run_openOptions (j : Job) :
    openOptions.run j =
      match j.mapping Field.mozharness with
      | .ok rows =>
        match j.optionList rows with
        | .ok old =>
          .ok old (j.set Field.mozharness (.mapping (rows.set Field.extraOptions (.list old))))
        | .error failure => .error failure j
      | .error failure => .error failure j := by
  simp only [openOptions, EStateM.run_bind, EStateM.run_get, run_openMapping]
  cases hrows : j.mapping Field.mozharness with
  | error failure => rfl
  | ok rows =>
    simp only [EStateM.run_modify, set_set_self, optionList]
    cases hold : rows.lookup Field.extraOptions with
    | none =>
      rw [Entries.setDefault_of_none hold, Entries.lookup_set_self]
      rfl
    | some v =>
      -- rows that hold something were there before, so that the mapping has not been made
      have hthere : j.get? Field.mozharness = some (.mapping rows) := by
        rcases mapping_eq_ok_iff.1 hrows with ⟨-, rfl⟩ | h
        · cases hold
        · exact h
      rw [Entries.setDefault_of_lookup hold, set_of_get? hthere, hold]
      cases v with
      | list old =>
        simp only [Entries.set_of_lookup hold, set_of_get? hthere]
        rfl
      | _ => rfl

theorem run_setInPlace (k key : String) (v : Value) (j : Job) :
    (setInPlace k key v).run j =
      match j.mapping k with
      | .ok entries => .ok () (j.set k (.mapping (entries.set key v)))
      | .error failure => .error failure j := by
  simp only [setInPlace, EStateM.run_bind, run_openMapping]
  cases j.mapping k with
  | error failure => rfl
  | ok entries => simp only [EStateM.run_modify, set_set_self]

theorem run_addOptionsInPlace (options : List String) (j : Job) :
    (addOptionsInPlace options).run j =
      match j.mapping Field.mozharness with
      | .ok rows =>
        match j.optionList rows with
        | .ok old => .ok () (j.set Field.mozharness (.mapping (rows.set Field.extraOptions
            (.list (old ++ options.map Value.text)))))
        | .error failure => .error failure j
      | .error failure => .error failure j := by
  simp only [addOptionsInPlace, EStateM.run_bind, run_openOptions]
  cases j.mapping Field.mozharness with
  | error failure => rfl
  | ok rows =>
    cases ho : j.optionList rows with
    | error failure => simp [ho]
    | ok old =>
      have hrows : (j.set Field.mozharness (.mapping (rows.set Field.extraOptions
          (.list old)))).entries.lookup Field.mozharness =
            some (.mapping (rows.set Field.extraOptions (.list old))) :=
        get?_set_self Field.mozharness _ j
      simp only [ho, EStateM.run_modify]
      rw [Entries.setPath_cons hrows, Entries.setPath_singleton (Entries.lookup_set_self ..),
        Entries.set_set_self, set, Entries.set_set_self]
      rfl

theorem setIn_eq (k key : String) (v : Value) (j : Job) :
    j.setIn k key v = (j.mapping k).map fun entries => j.set k (.mapping (entries.set key v)) := by
  rw [setIn, changedBy, run_setInPlace]
  cases j.mapping k <;> rfl

theorem addOptions_eq (options : List String) (j : Job) :
    j.addOptions options = (do
      let mozharness ← j.mapping Field.mozharness
      let old ← j.optionList mozharness
      return j.set Field.mozharness (.mapping (mozharness.set Field.extraOptions
        (.list (old ++ options.map Value.text))))) := by
  rw [addOptions, changedBy, run_addOptionsInPlace]
  cases j.mapping Field.mozharness with
  | error failure => rfl
  | ok rows =>
    rw [ok_bind]
    dsimp only
    cases j.optionList rows <;> rfl

theorem setIn_error {f : Failure} (h : j.setIn k l v = .error f) :
    f = j.failure k (.fieldNotMapping k) :=
  mapping_error (map_eq_error_iff.1 ((setIn_eq k l v j).symm.trans h))

theorem setIn_eq_ok_iff : j.setIn k l v = .ok r ↔
    ∃ entries, j.mapping k = .ok entries ∧ j.set k (.mapping (entries.set l v)) = r := by
  rw [setIn_eq, map_eq_ok_iff]

theorem addOptions_eq_error_iff {options : List String} {f : Failure} :
    j.addOptions options = .error f ↔
      ((∃ v, j.get? Field.mozharness = some v ∧ v.mapping? = none) ∧
        f = j.failure Field.mozharness (.fieldNotMapping Field.mozharness)) ∨
      ∃ rows, j.get? Field.mozharness = some (.mapping rows) ∧
        (∃ v, rows.lookup Field.extraOptions = some v ∧ v.list? = none) ∧
          f = j.failure optionsPath .optionsNotList := by
  simp only [addOptions_eq, bind_eq_error_iff, pure_ne_error, and_false, exists_false, or_false,
    mapping_eq_error_iff, mapping_eq_ok_iff, optionList_eq_error_iff]
  refine or_congr_right ⟨?_, ?_⟩
  · rintro ⟨rows, ⟨-, rfl⟩ | hrows, ⟨v, hv, hn⟩, hf⟩
    · cases hv
    · exact ⟨rows, hrows, ⟨v, hv, hn⟩, hf⟩
  · rintro ⟨rows, hrows, hv, hf⟩
    exact ⟨rows, .inr hrows, hv, hf⟩

theorem addOptions_error {options : List String} {f : Failure}
    (h : j.addOptions options = .error f) :
    f = j.failure Field.mozharness (.fieldNotMapping Field.mozharness) ∨
      f = j.failure optionsPath .optionsNotList :=
  (addOptions_eq_error_iff.1 h).imp And.right fun ⟨_, _, _, hf⟩ => hf

theorem addOptions_eq_ok_iff {options : List String} : j.addOptions options = .ok r ↔
    ∃ mozharness old, j.mapping Field.mozharness = .ok mozharness ∧
      j.optionList mozharness = .ok old ∧
      j.set Field.mozharness (.mapping (mozharness.set Field.extraOptions
        (.list (old ++ options.map Value.text)))) = r := by
  simp [addOptions_eq]

/-! ### Extra options -/

/-- The extra options that are there already, as they are read to add others. -/
theorem filterMap_old {mozharness : Entries} {old : List Value}
    (hm : j.mapping Field.mozharness = .ok mozharness) (ho : j.optionList mozharness = .ok old) :
    old.filterMap Value.text? = j.options := by
  rw [options]
  rcases mapping_eq_ok_iff.1 hm with ⟨hn, rfl⟩ | hs
  · cases ho
    rw [hn]
    rfl
  · rw [hs]
    unfold optionList at ho
    split at ho
    · next hl =>
      cases ho
      simp [hl]
    · next hl =>
      cases ho
      simp [hl]
    · cases ho

theorem options_addOptions {new : List String} (hr : j.addOptions new = .ok r) :
    r.options = j.options ++ new := by
  obtain ⟨mozharness, old, hm, ho, rfl⟩ := addOptions_eq_ok_iff.1 hr
  rw [← filterMap_old hm ho, options, get?_set_self]
  simp only [Entries.lookup_set_self, List.filterMap_append, Value.filterMap_text]

end JobExpansion.Job
