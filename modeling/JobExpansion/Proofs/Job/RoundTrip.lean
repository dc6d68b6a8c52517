import JobExpansion.Proofs.Job.Symbols
import Mathlib.Data.Set.Subsingleton

/-!
# Symbols that survive

Reading a text as a symbol and writing a symbol as a text are inverse to each other on a part of the
texts and on a part of the symbols only. A text is lost in part if something stands behind the
closing parenthesis, or if the placeholder is written out in it. A symbol of the placeholder is lost
if its leaf looks like one of a group, and any other if a parenthesis in one of its parts ends the
part early. `roundTrip_iff` says that these are all.
-/

namespace JobExpansion.Symbol

variable {s s' : Symbol} {t rest rest' : String}

/-- A text with a group, a leaf in parentheses and a rest: the group ends at the first opening
parenthesis, and the leaf at the first closing one after it. -/
structure GroupedAs (t : String) (s : Symbol) (rest : String) : Prop where
  text_eq : t = s.group ++ "(" ++ s.leaf ++ ")" ++ rest
  no_open : '(' ∉ s.group.toList
  no_close : ')' ∉ s.leaf.toList

/-- A text with a group and a leaf in parentheses, and maybe a rest. -/
def GroupedText (t : String) : Prop := ∃ s rest, GroupedAs t s rest

/-! ### Reading -/

theorem GroupedAs.split_eq (h : GroupedAs t s rest) : split t = s := by
  have ht : t.toList = s.group.toList ++ '(' :: (s.leaf.toList ++ ')' :: rest.toList) := by
    rw [h.text_eq]
    simp
  have hs : grouped? t.toList = some (s.group.toList, s.leaf.toList) :=
    grouped?_eq_some_iff.2 ⟨rest.toList, ht, h.no_open, h.no_close⟩
  rw [split, hs]
  simp

/-- A text has its parts in one way only. -/
theorem GroupedAs.unique (h : GroupedAs t s rest) (h' : GroupedAs t s' rest') :
    s = s' ∧ rest = rest' := by
  obtain rfl : s = s' := h.split_eq.symm.trans h'.split_eq
  exact ⟨rfl, (String.append_right_inj _).1 (h.text_eq.symm.trans h'.text_eq)⟩

theorem split_of_not_grouped (h : ¬ GroupedText t) : split t = ⟨noGroup, t⟩ := by
  rcases split_cases t with hs | ⟨rest, ht, hopen, hclose⟩
  · exact hs
  · refine absurd ⟨split t, String.ofList rest, ?_, hopen, hclose⟩ h
    rw [← String.toList_inj, ht]
    simp

/-! ### Lengths -/

/-- A leaf is shorter than the text that it is read from. -/
theorem GroupedAs.leaf_ne (h : GroupedAs t s rest) : s.leaf ≠ t := by
  intro he
  have hlength := congrArg String.length (he.trans h.text_eq)
  simp only [String.length_append] at hlength
  have hclose : ")".length = 1 := rfl
  omega

/-- A text is written as it was read if its group is shown and nothing is behind it. -/
theorem GroupedAs.text_eq_iff (h : GroupedAs t s rest) :
    s.text = t ↔ s.group ≠ noGroup ∧ rest = "" := by
  by_cases hn : s.group = noGroup
  · simp [text, hn, h.leaf_ne]
  · rw [text_of_group hn, and_iff_right hn, h.text_eq]
    constructor
    · intro he
      have hlength := congrArg String.length he
      simp only [String.length_append] at hlength
      exact String.length_eq_zero_iff.1 (by omega)
    · rintro rfl
      exact (String.append_empty).symm

/-! ### Texts and symbols that survive -/

theorem text_split_eq_iff (t : String) :
    (split t).text = t ↔ ¬ GroupedText t ∨ ∃ s, GroupedAs t s "" ∧ s.group ≠ noGroup := by
  by_cases hg : GroupedText t
  · obtain ⟨s, rest, h⟩ := hg
    rw [h.split_eq, h.text_eq_iff]
    constructor
    · rintro ⟨hn, rfl⟩
      exact .inr ⟨s, h, hn⟩
    · rintro (hnot | ⟨s', h', hn⟩)
      · exact absurd ⟨s, rest, h⟩ hnot
      · obtain ⟨rfl, rfl⟩ := h.unique h'
        exact ⟨hn, rfl⟩
  · simp [split_of_not_grouped hg, hg, text]

theorem split_text_eq_iff (s : Symbol) :
    split s.text = s ↔ (s.group = noGroup ∧ ¬ GroupedText s.leaf) ∨
      (s.group ≠ noGroup ∧ '(' ∉ s.group.toList ∧ ')' ∉ s.leaf.toList) := by
  by_cases hn : s.group = noGroup
  · -- the leaf is all that is written
    have htext : s.text = s.leaf := if_pos hn
    simp only [htext, hn, true_and, ne_eq, not_true_eq_false, false_and, or_false]
    constructor
    · rintro hs ⟨s', rest, h⟩
      exact h.leaf_ne (congrArg leaf (h.split_eq.symm.trans hs))
    · intro hg
      rw [split_of_not_grouped hg, ← hn]
  · simp only [hn, false_and, false_or, ne_eq, not_false_eq_true, true_and]
    constructor
    · intro hs
      rcases split_cases s.text with hplain | ⟨rest, -, hopen, hclose⟩
      · exact absurd (congrArg group (hs.symm.trans hplain)) hn
      · rw [hs] at hopen hclose
        exact ⟨hopen, hclose⟩
    · rintro ⟨hopen, hclose⟩
      exact split_text ⟨hn, hopen, hclose⟩

/-- **Exactly which texts and symbols survive.**  A text has a group, a leaf and a rest in one way
at most. It is written as it was read just if it has none, or nothing behind a group that is not the
placeholder. A symbol is read as it was written just if it is of the placeholder and its leaf is no
text with a group, or its group is another with no opening parenthesis in it and none that closes in
its leaf. -/
theorem roundTrip_iff (t : String) (s : Symbol) :
    {parts : Symbol × String | GroupedAs t parts.1 parts.2}.Subsingleton ∧
    ((split t).text = t ↔ ¬ GroupedText t ∨ ∃ s, GroupedAs t s "" ∧ s.group ≠ noGroup) ∧
    (split s.text = s ↔ (s.group = noGroup ∧ ¬ GroupedText s.leaf) ∨
      (s.group ≠ noGroup ∧ '(' ∉ s.group.toList ∧ ')' ∉ s.leaf.toList)) := by
  refine ⟨?_, text_split_eq_iff t, split_text_eq_iff s⟩
  rintro ⟨s₁, rest₁⟩ h₁ ⟨s₂, rest₂⟩ h₂
  obtain ⟨hs, hrest⟩ := GroupedAs.unique h₁ h₂
  exact Prod.ext hs hrest

-- a parenthesis in the leaf may open but not close
example : split (Symbol.text ⟨"Rap", "tp6(m"⟩) = ⟨"Rap", "tp6(m"⟩ ∧
    split (Symbol.text ⟨"Rap", "tp6)m"⟩) = ⟨"Rap", "tp6"⟩ := by
  decide

end JobExpansion.Symbol
