import JobExpansion.Text.Search
import Mathlib.Data.List.Infix

/-!
# Ends of texts

What stands before an end of a text, and when an end can be moved past another. A text that starts
with a mark and is followed by another that starts with it and has it nowhere else, is equal to
something followed by itself only if that something is the other (`eq_of_append_eq_append_mark`).
-/

namespace JobExpansion.Text

theorem beforeSuffix?_eq_some_iff {s part base : String} :
    beforeSuffix? s part = some base ↔ s = base ++ part := by
  unfold beforeSuffix?
  rw [← String.toList_inj, String.toList_append]
  constructor
  · intro h
    split at h
    · next hs =>
      cases h
      rw [String.toList_ofList]
      obtain ⟨front, hfront⟩ := List.isSuffixOf_iff_suffix.1 hs
      simp [← hfront]
    · cases h
  · intro h
    rw [if_pos (List.isSuffixOf_iff_suffix.2 ⟨base.toList, h.symm⟩), h]
    simp

theorem beforeSuffix?_append (base part : String) :
    beforeSuffix? (base ++ part) part = some base :=
  beforeSuffix?_eq_some_iff.2 rfl

section Marks

variable {α : Type} {x : α} {c d : List α}

/-- Something before a list that is nothing or starts with the mark `x` is the mark with what comes
after it, if this comes behind the list as well. -/
theorem eq_of_append_eq_append_mark {w : List α} (hc : x ∉ c) (hw : ∀ y ∈ w.head?, y = x)
    (h : d ++ w = w ++ x :: c) : d = x :: c := by
  rcases List.append_eq_append_iff.1 h with ⟨w', hdw, hwc⟩ | ⟨e, hd, hce⟩
  · -- the list starts with `d`, and the rest of it is moved in the same way
    have hw' : ∀ y ∈ w'.head?, y = x := by
      intro y hy
      obtain ⟨tail, rfl⟩ := List.head?_eq_some_iff.1 hy
      exact hw y (by rw [hwc]; rfl)
    have : w'.length < w.length := by simp [hwc]
    exact eq_of_append_eq_append_mark hc hw' (hdw.symm.trans hwc)
  · -- the list is an end of the mark and what comes after it, so it is nothing or all of it
    cases w with
    | nil => simpa [hd] using hce.symm
    | cons y w =>
      obtain rfl : y = x := hw y rfl
      cases e with
      | nil => simpa [hd] using hce.symm
      | cons z e =>
        obtain ⟨-, rfl⟩ := List.cons.inj hce
        exact absurd (by simp) hc
termination_by w.length

end Marks

end JobExpansion.Text
