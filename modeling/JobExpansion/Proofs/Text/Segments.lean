import JobExpansion.Proofs.Text.Starts

/-!
# Segments of texts

Names are made of segments, with a dash before each but the first. Where a segment has no dash of
its own and what follows is `Dashed`, both can be read off the whole (`append_inj_of_dashed`). An
optional segment can be told from what follows where neither continuation starts with it
(`optional_append_inj`).
-/

namespace JobExpansion.Text

variable {a b p q s t : String} {x y : Bool}

/-- Nothing, or something that starts with a dash. -/
def Dashed (s : String) : Prop := ∀ c ∈ s.toList.head?, c = '-'

theorem dashed_empty : Dashed "" := by simp [Dashed]

theorem dashed_dash (s : String) : Dashed ("-" ++ s) := by simp [Dashed, String.toList_append]

theorem Dashed.append (hs : Dashed s) (ht : Dashed t) : Dashed (s ++ t) := by
  unfold Dashed at *
  rw [String.toList_append]
  cases hl : s.toList with
  | nil => exact ht
  | cons c cs =>
    rw [hl] at hs
    exact hs

/-- A text without a dash is not the start of a dashed one. -/
theorem Dashed.eq_nil_of_append (hs : Dashed s) {cs ds : List Char} (hc : '-' ∉ cs)
    (h : s.toList = cs ++ ds) : cs = [] := by
  cases cs with
  | nil => rfl
  | cons c cs =>
    have hdash : c = '-' := hs c (by rw [h]; rfl)
    exact absurd (hdash ▸ List.mem_cons_self) hc

/-- **Undashed segments can be read off.** -/
theorem append_inj_of_dashed (ha : '-' ∉ a.toList) (hb : '-' ∉ b.toList) (hs : Dashed s)
    (ht : Dashed t) (h : a ++ s = b ++ t) : a = b ∧ s = t := by
  have hl : a.toList ++ s.toList = b.toList ++ t.toList := by
    rw [← String.toList_append, h, String.toList_append]
  rcases List.append_eq_append_iff.1 hl with ⟨cs, hcs, hst⟩ | ⟨cs, hcs, hst⟩
  · have hc : cs = [] := hs.eq_nil_of_append (fun hmem => hb (by simp [hcs, hmem])) hst
    subst hc
    exact ⟨String.toList_inj.1 (by simpa using hcs.symm), String.toList_inj.1 hst⟩
  · have hc : cs = [] := ht.eq_nil_of_append (fun hmem => ha (by simp [hcs, hmem])) hst
    subst hc
    exact ⟨String.toList_inj.1 (by simpa using hcs), String.toList_inj.1 hst.symm⟩

/-- The segment is there or not, and nothing else in its place looks like it. -/
theorem optional_append_inj (hs : p ++ s ≠ t) (ht : p ++ t ≠ s)
    (h : (if x then p else "") ++ s = (if y then p else "") ++ t) : x = y ∧ s = t := by
  match x, y with
  | false, false => exact ⟨rfl, by simpa using h⟩
  | false, true => exact absurd (by simpa using h.symm) ht
  | true, false => exact absurd (by simpa using h) hs
  | true, true => exact ⟨rfl, by simpa using h⟩

end JobExpansion.Text
