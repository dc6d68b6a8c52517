import Mathlib.Data.List.Infix
import JobExpansion.Text.Search

/-!
# Starts of texts

Two starts of one text are comparable: one of them is a start of the other. So a text cannot start
in two ways that differ somewhere.
-/

namespace JobExpansion.Text

variable {s t p q : String}

theorem startsWith_iff : startsWith s p = true ↔ p.toList <+: s.toList :=
  List.isPrefixOf_iff_prefix

theorem startsWith_iff_exists {s p : String} : startsWith s p = true ↔ ∃ rest, s = p ++ rest := by
  rw [startsWith_iff]
  constructor
  · rintro ⟨rest, h⟩
    refine ⟨String.ofList rest, ?_⟩
    rw [← String.toList_inj, String.toList_append, String.toList_ofList, h]
  · rintro ⟨rest, rfl⟩
    rw [String.toList_append]
    exact List.prefix_append _ _

theorem startsWith_append_self (p s : String) : startsWith (p ++ s) p = true := by
  rw [startsWith_iff, String.toList_append]
  exact List.prefix_append _ _

theorem startsWith_append (h : startsWith s p = true) : startsWith (s ++ t) p = true := by
  rw [startsWith_iff] at h ⊢
  rw [String.toList_append]
  exact h.trans (List.prefix_append _ _)

theorem startsWith_or_startsWith (hp : startsWith s p = true) (hq : startsWith s q = true) :
    startsWith p q = true ∨ startsWith q p = true := by
  rw [startsWith_iff] at hp hq ⊢
  rw [startsWith_iff]
  exact (List.prefix_or_prefix_of_prefix hq hp)

/-- What a longer text starts with is at the start of its first part, or goes on into its second. -/
theorem exists_of_startsWith_append (h : startsWith (s ++ t) p = true) :
    startsWith s p = true ∨ ∃ rest, p.toList = s.toList ++ rest ∧ rest <+: t.toList := by
  rw [startsWith_iff, String.toList_append] at h
  have hs : s.toList <+: s.toList ++ t.toList := List.prefix_append _ _
  rcases List.prefix_or_prefix_of_prefix h hs with hp | ⟨rest, hr⟩
  · exact .inl (startsWith_iff.2 hp)
  · rw [← hr, List.prefix_append_right_inj] at h
    exact .inr ⟨rest, hr.symm, h⟩

end JobExpansion.Text
