import JobExpansion.Proofs.Job.Edits
import JobExpansion.Proofs.Schema.Soundness

/-!
# Edits that keep a job within the schema

A job that meets the schema still does after a field has been set to a value that the rule of the
field accepts, and after a field that is not required has been taken out. What is keyed in no job
that meets the schema can be read off as it stands: texts are texts and lists of texts are lists.
-/

namespace JobExpansion.Schema

variable {j : Job} {rule : Rule} {k s : String} {v : Value}

/-! ### Values that rules accept -/

theorem wellKeyed_text (h : rule.shape = .string) : WellKeyed rule (.text s) :=
  .plain rfl (by rw [h]; rfl)

theorem wellKeyed_integer {n : Int} (h : rule.shape = .integer) :
    WellKeyed rule (.number (.int n)) :=
  .plain rfl (by rw [h]; rfl)

theorem wellKeyed_bool {b : Bool} (h : rule.shape = .boolean) : WellKeyed rule (.bool b) :=
  .plain rfl (by rw [h]; rfl)

/-! ### Edits -/

theorem Meets.set (h : Meets j) (hv : ∀ rule ∈ rules, rule.field = k → WellKeyed rule v) :
    Meets (j.set k v) := by
  intro rule hr
  obtain ⟨hw, hn⟩ := offence_eq_none_iff.1 (h rule hr)
  rw [offence_eq_none_iff, Job.get?_set]
  by_cases hk : rule.field = k
  · rw [if_pos hk]
    refine ⟨fun w hw => ?_, fun _ => by simp⟩
    cases hw
    exact hv rule hr hk
  · rw [if_neg hk]
    exact ⟨hw, hn⟩

theorem Meets.setDefault (h : Meets j) (hv : ∀ rule ∈ rules, rule.field = k → WellKeyed rule v) :
    Meets (j.setDefault k v) := by
  cases hk : j.get? k with
  | none =>
    rw [Job.setDefault_of_none hk]
    exact h.set hv
  | some w =>
    rw [Job.setDefault_of_some hk]
    exact h

theorem Meets.erase (h : Meets j)
    (hk : ∀ rule ∈ rules, rule.field = k → rule.required = false) : Meets (j.erase k) := by
  intro rule hr
  obtain ⟨hw, hn⟩ := offence_eq_none_iff.1 (h rule hr)
  rw [offence_eq_none_iff, Job.get?_erase]
  by_cases hf : rule.field = k
  · rw [if_pos hf, hk rule hr hf]
    exact ⟨nofun, nofun⟩
  · rw [if_neg hf]
    exact ⟨hw, hn⟩

/-! ### Values of jobs that meet the schema -/

/-- A field that may not be keyed holds what its shape accepts. -/
theorem Meets.accepts (h : Meets j) (hr : rule ∈ rules) (hk : rule.keyedBy = [])
    (hv : j.get? rule.field = some v) : rule.shape.accepts v = true := by
  rcases h.wellKeyed hr hv with ⟨-, hs⟩ | ⟨-, ha, -⟩
  · exact hs
  · rw [hk] at ha
    cases ha

theorem text_of_accepts (h : Shape.string.accepts v = true) : ∃ s, v = .text s := by
  cases v <;> first | exact ⟨_, rfl⟩ | cases h

theorem texts_of_accepts {v : Value} (h : Shape.stringList.accepts v = true) :
    ∃ names : List String, v = .list (names.map .text) := by
  cases v with
  | list items =>
    induction items with
    | nil => exact ⟨[], rfl⟩
    | cons item items ih =>
      have hs : (Value.isText item && items.all Value.isText) = true := h
      obtain ⟨hi, hrest⟩ := Bool.and_eq_true_iff.1 hs
      obtain ⟨name, rfl⟩ := text_of_accepts hi
      obtain ⟨names, hn⟩ := ih hrest
      cases hn
      exact ⟨name :: names, rfl⟩
  | _ => cases h

/-- A text field that may not be keyed holds a text. -/
theorem Meets.text (h : Meets j)
    (hk : ∃ rule ∈ rules, rule.field = k ∧ rule.shape = .string ∧ rule.keyedBy = [])
    (hv : j.get? k = some v) : ∃ s, v = .text s := by
  obtain ⟨rule, hr, rfl, hs, hn⟩ := hk
  have := h.accepts hr hn hv
  rw [hs] at this
  exact text_of_accepts this

theorem Meets.required_text (h : Meets j)
    (hk : ∃ rule ∈ rules, rule.field = k ∧ (rule.shape = .string ∧ rule.keyedBy = []) ∧
      rule.required = true) : ∃ s, j.get? k = some (.text s) := by
  obtain ⟨rule, hr, rfl, hs, hreq⟩ := hk
  obtain ⟨v, hv⟩ := Option.ne_none_iff_exists'.1 ((offence_eq_none_iff.1 (h rule hr)).2 hreq)
  obtain ⟨s, rfl⟩ := h.text ⟨rule, hr, rfl, hs⟩ hv
  exact ⟨s, hv⟩

end JobExpansion.Schema
