import JobExpansion.Keyed.Resolution

/-!
# Evaluation by the depth of keyed values

The alternatives of a keyed value are smaller than the value itself. So whatever holds of the values
that are not keyed, and of a keyed value once it holds of all its alternatives, holds of all values.
An evaluation goes down one chain of chosen alternatives, and what it ends in is not keyed.
-/

namespace JobExpansion.Keyed

theorem sizeOf_lt_of_parts {v w : Value} {attr key : String} {alternatives : Entries}
    (hv : parts? v = some (attr, alternatives)) (hw : (key, w) ∈ alternatives) :
    sizeOf w < sizeOf v := by
  obtain ⟨name, -, rfl⟩ := parts?_eq_some_iff.1 hv
  have := sizeOf_lt_of_mem hw
  simp only [Value.mapping.sizeOf_spec, List.cons.sizeOf_spec, List.nil.sizeOf_spec,
    Prod.mk.sizeOf_spec]
  omega

/-- **Induction on the depth of keyed values.** -/
theorem parts_induction {motive : Value → Prop} (plain : ∀ v, parts? v = none → motive v)
    (keyed : ∀ v attr alternatives, parts? v = some (attr, alternatives) →
      (∀ key w, (key, w) ∈ alternatives → motive w) → motive v) (v : Value) : motive v := by
  cases hv : parts? v with
  | none => exact plain v hv
  | some parts =>
    obtain ⟨attr, alternatives⟩ := parts
    exact keyed v attr alternatives hv fun key w hw =>
      have := sizeOf_lt_of_parts hv hw
      parts_induction plain keyed w
termination_by sizeOf v

/-! ### One step of an evaluation -/

variable {item attr : String} {attributes alternatives : Entries} {v r : Value}

theorem evaluate_of_keyed (hv : parts? v = some (attr, alternatives)) :
    evaluate item attributes v =
      match choose ((attributes.lookup attr).bind attributeText?) alternatives with
      | .error trouble => .error ⟨attr, item, trouble⟩
      | .ok w => evaluate item attributes w := by
  rw [evaluate]
  split
  · next hn =>
    rw [hv] at hn
    cases hn
  · next hp =>
    rw [hv] at hp
    cases hp
    split
    · next hc => rw [hc]
    · next hc => rw [hc]

theorem evaluate_keyed_eq_ok_iff (hv : parts? v = some (attr, alternatives)) :
    evaluate item attributes v = .ok r ↔
      ∃ w, choose ((attributes.lookup attr).bind attributeText?) alternatives = .ok w ∧
        evaluate item attributes w = .ok r := by
  rw [evaluate_of_keyed hv]
  cases choose ((attributes.lookup attr).bind attributeText?) alternatives <;> simp

/-- What an evaluation gives is not keyed. -/
theorem parts?_of_evaluate (h : evaluate item attributes v = .ok r) : parts? r = none := by
  induction v using parts_induction with
  | plain v hv =>
    rw [evaluate_of_not_keyed hv] at h
    cases h
    exact hv
  | keyed v attr alternatives hv ih =>
    obtain ⟨w, hw, hr⟩ := (evaluate_keyed_eq_ok_iff hv).1 h
    obtain ⟨key, hmem⟩ := mem_of_choose hw
    exact ih key w hmem hr

end JobExpansion.Keyed
