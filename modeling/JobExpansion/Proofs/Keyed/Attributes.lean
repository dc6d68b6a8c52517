import JobExpansion.Proofs.Keyed.Depth

/-!
# Attributes of keyed values

Which attributes have a say in a value: those that it is keyed by, itself or in an alternative that
can be reached through keyed values. Two lists of attributes that agree on them give the same value
or the same failure (`evaluate_congr`).
-/

namespace JobExpansion.Keyed

variable {item attr : String} {a b : Entries} {v : Value}

/-- A value is keyed by an attribute, itself or in one of its alternatives, at any depth. -/
inductive KeyedBy (attr : String) : Value → Prop where
  | here {v : Value} {alternatives : Entries} (hv : parts? v = some (attr, alternatives)) :
      KeyedBy attr v
  | within {v : Value} {outer : String} {alternatives : Entries} {row : String × Value}
      (hv : parts? v = some (outer, alternatives)) (hrow : row ∈ alternatives)
      (h : KeyedBy attr row.2) : KeyedBy attr v

theorem not_keyedBy_of_plain (hv : parts? v = none) : ¬ KeyedBy attr v := by
  rintro (hk | ⟨hk, -, -⟩)
  · rw [hv] at hk
    cases hk
  · rw [hv] at hk
    cases hk

theorem keyedBy_iff_of_keyed {outer : String} {alternatives : Entries}
    (hv : parts? v = some (outer, alternatives)) :
    KeyedBy attr v ↔ attr = outer ∨ ∃ row ∈ alternatives, KeyedBy attr row.2 := by
  constructor
  · rintro (hk | ⟨hk, hrow, h⟩)
    · rw [hv] at hk
      cases hk
      exact .inl rfl
    · rw [hv] at hk
      cases hk
      exact .inr ⟨_, hrow, h⟩
  · rintro (rfl | ⟨row, hrow, h⟩)
    · exact .here hv
    · exact .within hv hrow h

/-- **Only the attributes that a value is keyed by count.** -/
theorem evaluate_congr (h : ∀ attr, KeyedBy attr v → b.lookup attr = a.lookup attr) :
    evaluate item b v = evaluate item a v := by
  induction v using parts_induction with
  | plain v hv => rw [evaluate_of_not_keyed hv, evaluate_of_not_keyed hv]
  | keyed v attr alternatives hv ih =>
    rw [evaluate_of_keyed hv, evaluate_of_keyed hv, h attr (.here hv)]
    -- both evaluations go on with the same alternative, or fail alike
    cases hc : choose ((a.lookup attr).bind attributeText?) alternatives with
    | error trouble => rfl
    | ok w =>
      obtain ⟨key, hmem⟩ := mem_of_choose hc
      exact ih key w hmem fun l hl => h l (.within hv hmem hl)

end JobExpansion.Keyed
