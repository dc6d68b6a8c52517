import JobExpansion.Job.Symbol
import JobExpansion.Proofs.Outcome
import Mathlib.Logic.Basic

/-!
# Symbols read back

A symbol is written and read again whenever a part of it gets longer. One whose group is not the
placeholder, with no opening parenthesis in its group and no closing one in its leaf, is read back
as it was (`split_text`), and so is any symbol that has been read as one of a group
(`grouped_split`).
-/

namespace JobExpansion.Symbol

variable {s : Symbol} {g l t suffix : String} {c : Char}

/-- A symbol of a group whose text can be told apart from that of any other. -/
structure Grouped (s : Symbol) : Prop where
  group_ne : s.group ≠ noGroup
  no_open : '(' ∉ s.group.toList
  no_close : ')' ∉ s.leaf.toList

/-! ### Reading -/

theorem grouped?_eq_some_iff {cs group leaf : List Char} :
    grouped? cs = some (group, leaf) ↔
      ∃ rest, cs = group ++ '(' :: (leaf ++ ')' :: rest) ∧ '(' ∉ group ∧ ')' ∉ leaf := by
  simp only [grouped?, Option.bind_eq_some_iff, Option.map_eq_some_iff, Prod.exists,
    cutAt_eq_some_iff, Prod.mk.injEq]
  constructor
  · rintro ⟨_, _, ⟨rfl, hg⟩, _, rest, ⟨rfl, hl⟩, rfl, rfl⟩
    exact ⟨rest, rfl, hg, hl⟩
  · rintro ⟨rest, rfl, hg, hl⟩
    exact ⟨group, _, ⟨rfl, hg⟩, leaf, rest, ⟨rfl, hl⟩, rfl, rfl⟩

/-- What a symbol is read as: the leaf of the placeholder, or a group and a leaf found in the
text. -/
theorem split_cases (t : String) :
    split t = ⟨noGroup, t⟩ ∨ ∃ rest, t.toList = (split t).group.toList ++
      '(' :: ((split t).leaf.toList ++ ')' :: rest) ∧ '(' ∉ (split t).group.toList ∧
        ')' ∉ (split t).leaf.toList := by
  cases h : grouped? t.toList with
  | none => exact .inl (by rw [split, h])
  | some parts =>
    obtain ⟨group, leaf⟩ := parts
    have hs : split t = ⟨String.ofList group, String.ofList leaf⟩ := by rw [split, h]
    obtain ⟨rest, ht, hg, hl⟩ := grouped?_eq_some_iff.1 h
    refine .inr ⟨rest, ?_⟩
    simp only [hs, String.toList_ofList]
    exact ⟨ht, hg, hl⟩

theorem text_of_group (h : s.group ≠ noGroup) : s.text = s.group ++ "(" ++ s.leaf ++ ")" :=
  if_neg h

/-- **A symbol of a group is read back as it was written.** -/
theorem split_text (h : s.Grouped) : split s.text = s := by
  have hg : grouped? s.text.toList = some (s.group.toList, s.leaf.toList) := by
    refine grouped?_eq_some_iff.2 ⟨[], ?_, h.no_open, h.no_close⟩
    simp [text_of_group h.group_ne]
  rw [split, hg]
  simp

theorem grouped_split (h : (split t).group ≠ noGroup) : (split t).Grouped := by
  rcases split_cases t with hs | ⟨rest, -, hopen, hclose⟩
  · exact absurd (by rw [hs]) h
  · exact ⟨h, hopen, hclose⟩

/-- The group of a text is what stands before its first parenthesis, whatever the leaf is. -/
theorem group_split (hg : '(' ∉ g.toList) : (split (g ++ "(" ++ l ++ ")")).group = g := by
  have hclose : ')' ∈ l.toList ++ [')'] := by simp
  obtain ⟨leaf, rest, hl, hn⟩ := List.eq_append_cons_of_mem hclose
  have hs : grouped? (g ++ "(" ++ l ++ ")").toList = some (g.toList, leaf) := by
    refine grouped?_eq_some_iff.2 ⟨rest, ?_, hg, hn⟩
    simp [String.toList_append, hl]
  rw [split, hs]
  simp

/-! ### Characters -/

theorem not_mem_text (hg : c ∉ s.group.toList) (hl : c ∉ s.leaf.toList) (hc : c ∉ ['(', ')']) :
    c ∉ s.text.toList := by
  unfold text
  split
  · exact hl
  · simp_all [String.toList_append]

theorem not_mem_leaf_split (h : c ∉ t.toList) : c ∉ (split t).leaf.toList := by
  rcases split_cases t with hs | ⟨rest, ht, -⟩
  · rwa [hs]
  · rw [ht] at h
    simp_all

theorem not_mem_group_split (h : c ∉ t.toList) (hn : (split t).group ≠ noGroup) :
    c ∉ (split t).group.toList := by
  rcases split_cases t with hs | ⟨rest, ht, -⟩
  · exact absurd (by rw [hs]) hn
  · rw [ht] at h
    simp_all

theorem mem_of_mem_group_split (h : c ∈ (split t).group.toList)
    (hn : (split t).group ≠ noGroup) : c ∈ t.toList :=
  by_contra fun hc => not_mem_group_split hc hn h

/-! ### Longer parts -/

@[simp] theorem suffixLeaf_empty (s : Symbol) : s.suffixLeaf "" = s := by
  simp [suffixLeaf]

@[simp] theorem suffixGroup_empty (s : Symbol) : s.suffixGroup "" = s := by
  simp [suffixGroup]

theorem suffixLeaf_suffixLeaf (s : Symbol) (a b : String) :
    (s.suffixLeaf a).suffixLeaf b = s.suffixLeaf (a ++ b) := by
  simp [suffixLeaf, String.append_assoc]

theorem Grouped.suffixLeaf (h : s.Grouped) (hs : ')' ∉ suffix.toList) :
    (s.suffixLeaf suffix).Grouped where
  group_ne := h.group_ne
  no_open := h.no_open
  no_close := by simp [Symbol.suffixLeaf, h.no_close, hs]

/-- A group that gets longer must not become the placeholder, as it would with `?` after nothing. -/
theorem Grouped.suffixGroup (h : s.Grouped) (hs : '(' ∉ suffix.toList)
    (hn : s.group ++ suffix ≠ noGroup) : (s.suffixGroup suffix).Grouped where
  group_ne := hn
  no_open := by simp [Symbol.suffixGroup, h.no_open, hs]
  no_close := h.no_close

end JobExpansion.Symbol
