import JobExpansion.Job.Schema
import JobExpansion.Proofs.Keyed.Attributes
import Mathlib.Logic.Basic

/-!
# Well-keyed values

What the schema says about the value of a field, without the path and the order in which it is
checked: `WellKeyed rule v` holds when every alternative that can be reached through keyed values
has the shape of the rule, and every attribute on the way is one that the rule allows.
`check_eq_none_iff` says that the check finds no offence just in these values, and
`validate_eq_ok_iff` that a job passes when it meets every rule.
-/

namespace JobExpansion.Schema

variable {rule : Rule} {path : String} {v : Value}

/-- The value of a field as a rule wants it. -/
inductive WellKeyed (rule : Rule) : Value → Prop where
  | plain {v : Value} (hv : Keyed.parts? v = none) (hs : rule.shape.accepts v = true) :
      WellKeyed rule v
  | keyed {v : Value} {attr : String} {alternatives : Entries}
      (hv : Keyed.parts? v = some (attr, alternatives)) (ha : attr ∈ rule.keyedBy)
      (hall : ∀ row ∈ alternatives, WellKeyed rule row.2) : WellKeyed rule v

theorem wellKeyed_iff_of_plain (hv : Keyed.parts? v = none) :
    WellKeyed rule v ↔ rule.shape.accepts v = true := by
  constructor
  · rintro (⟨-, hs⟩ | ⟨hk, -, -⟩)
    · exact hs
    · rw [hv] at hk
      cases hk
  · exact WellKeyed.plain hv

theorem wellKeyed_iff_of_keyed {attr : String} {alternatives : Entries}
    (hv : Keyed.parts? v = some (attr, alternatives)) :
    WellKeyed rule v ↔ attr ∈ rule.keyedBy ∧ ∀ row ∈ alternatives, WellKeyed rule row.2 := by
  constructor
  · rintro (⟨hn, -⟩ | ⟨hk, ha, hall⟩)
    · rw [hv] at hn
      cases hn
    · rw [hv] at hk
      cases hk
      exact ⟨ha, hall⟩
  · rintro ⟨ha, hall⟩
    exact .keyed hv ha hall

/-- A well-keyed value is keyed by attributes of its rule only. -/
theorem WellKeyed.mem_of_keyedBy {attr : String} (h : WellKeyed rule v)
    (hk : Keyed.KeyedBy attr v) : attr ∈ rule.keyedBy := by
  induction hk with
  | here hv => exact ((wellKeyed_iff_of_keyed hv).1 h).1
  | within hv hrow _ ih => exact ih (((wellKeyed_iff_of_keyed hv).1 h).2 _ hrow)

/-! ### The check -/

theorem checkShape_eq_none_iff : checkShape rule path v = none ↔ rule.shape.accepts v = true := by
  simp [checkShape]

theorem check_of_plain (hv : Keyed.parts? v = none) :
    check rule path v = checkShape rule path v := by
  unfold check
  split
  · next key alternatives =>
    have ha : Keyed.attr? key = none := by simpa [Keyed.parts?] using hv
    rw [ha]
  · rfl

theorem check_of_keyed {attr : String} {alternatives : Entries}
    (hv : Keyed.parts? v = some (attr, alternatives)) :
    check rule path v =
      if rule.keyedBy.contains attr then checkAll rule (path ++ ".by-" ++ attr ++ ".") alternatives
      else some (.notKeyable path attr rule.keyedBy, path) := by
  obtain ⟨key, ha, rfl⟩ := Keyed.parts?_eq_some_iff.1 hv
  simp [check, ha]

theorem checkAll_eq_none_iff {alternatives : Entries} :
    checkAll rule path alternatives = none ↔
      ∀ row ∈ alternatives, check rule (path ++ row.1) row.2 = none := by
  induction alternatives with
  | nil => simp [checkAll]
  | cons row rest ih => simp [checkAll, Option.or_eq_none_iff, ih]

/-- **The check finds no offence just in well-keyed values**, wherever they stand. -/
theorem check_eq_none_iff : check rule path v = none ↔ WellKeyed rule v := by
  induction v using Keyed.parts_induction generalizing path with
  | plain v hv => rw [check_of_plain hv, checkShape_eq_none_iff, wellKeyed_iff_of_plain hv]
  | keyed v attr alternatives hv ih =>
    rw [check_of_keyed hv, wellKeyed_iff_of_keyed hv]
    by_cases ha : attr ∈ rule.keyedBy
    · simp only [List.contains_iff_mem, ha, if_true, true_and, checkAll_eq_none_iff]
      exact forall₂_congr fun row hrow => ih row.1 row.2 hrow
    · simp [ha]

/-! ### Jobs that meet the schema -/

/-- A job meets every rule of the schema. -/
def Meets (j : Job) : Prop := ∀ rule ∈ rules, Rule.offence rule j = none

theorem validate_eq_ok_iff {j : Job} : validate j = .ok () ↔ Meets j := by
  unfold validate Meets
  rw [← List.findSome?_eq_none_iff]
  split
  · next h => simp [h]
  · next h => simp [h]

theorem offence_eq_none_iff {rule : Rule} {j : Job} :
    Rule.offence rule j = none ↔
      (∀ v, j.get? rule.field = some v → WellKeyed rule v) ∧
        (rule.required = true → j.get? rule.field ≠ none) := by
  unfold Rule.offence
  split
  · next v hv => simp [hv, check_eq_none_iff]
  · next hv => simp [hv]

theorem Meets.wellKeyed {j : Job} (h : Meets j) {rule : Rule} (hr : rule ∈ rules) {v : Value}
    (hv : j.get? rule.field = some v) : WellKeyed rule v :=
  (offence_eq_none_iff.1 (h rule hr)).1 v hv

end JobExpansion.Schema
