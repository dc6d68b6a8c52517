import JobExpansion.Proofs.Job.Edits

/-!
# Jobs made by edits

Whatever a step does to a job, it does by setting fields and taking fields out, and it sets no
field to a keyed value. `j.Edited sets drops r` says that `r` is made of `j` in this way, with the
names of the fields that may be set and of those that may be taken out. It follows which fields are
as they were, which are there, which are not keyed, and that fields that stay keep their order.
-/

namespace JobExpansion

/-- A mapping with a row that holds no mapping is not keyed. -/
theorem Keyed.isKeyed_mapping_set {k : String} {v : Value} (hv : v.mapping? = none)
    (rows : Entries) : isKeyed (.mapping (rows.set k v)) = false := by
  have hone : parts? (.mapping [(k, v)]) = none := by
    cases v with
    | mapping entries => cases hv
    | _ => rfl
  rw [isKeyed_eq_false_iff]
  match rows with
  | [] => exact hone
  | [(l, w)] =>
    by_cases h : l = k
    · simpa [Entries.set, h] using hone
    · simp [Entries.set, h, parts?]
  | (l, w) :: (l', w') :: rest =>
    by_cases h : l = k
    · simp [Entries.set, h, parts?]
    · by_cases h' : l' = k <;> simp [Entries.set, h, h', parts?]

namespace Job

variable {sets drops sets' drops' gone : List String} {j m r : Job} {k : String} {v : Value}

/-- A field does not hold a keyed value. -/
def PlainAt (k : String) (j : Job) : Prop := ∀ v, j.get? k = some v → Keyed.isKeyed v = false

/-- The fields that both jobs have stand in one order. -/
def InOrder (j r : Job) : Prop := r.entries.keys.filter j.has = j.entries.keys.filter r.has

/-- A job made of another by setting fields to values that are not keyed and taking fields out. -/
inductive Edited (sets drops : List String) (j : Job) : Job → Prop where
  | refl : Edited sets drops j j
  | set {m : Job} {k : String} {v : Value} (h : Edited sets drops j m) (hk : k ∈ sets)
      (hv : Keyed.isKeyed v = false) : Edited sets drops j (m.set k v)
  | erase {m : Job} {k : String} (h : Edited sets drops j m) (hk : k ∈ drops) :
      Edited sets drops j (m.erase k)

namespace Edited

theorem trans (h : Edited sets drops j m) (h' : Edited sets drops m r) : Edited sets drops j r := by
  induction h' with
  | refl => exact h
  | set _ hk hv ih => exact ih.set hk hv
  | erase _ hk ih => exact ih.erase hk

theorem mono (h : Edited sets drops j r) (hs : sets ⊆ sets') (hd : drops ⊆ drops') :
    Edited sets' drops' j r := by
  induction h with
  | refl => exact .refl
  | set _ hk hv ih => exact ih.set (hs hk) hv
  | erase _ hk ih => exact ih.erase (hd hk)

/-- A field is taken out before the edits. -/
theorem of_erase (h : (j.erase k).Edited sets [] r) : j.Edited sets [k] r :=
  (Edited.refl.erase List.mem_cons_self).trans
    (h.mono (List.Subset.refl _) (List.nil_subset _))

/-! ### Fields -/

theorem get?_eq (h : Edited sets drops j r) (hk : k ∉ drops ++ sets) : r.get? k = j.get? k := by
  obtain ⟨hd, hs⟩ := not_or.1 (mt List.mem_append.2 hk)
  induction h with
  | refl => rfl
  | set _ hk _ ih => rw [get?_set_of_ne (ne_of_mem_of_not_mem hk hs).symm, ih]
  | erase _ hk ih => rw [get?_erase_of_ne (ne_of_mem_of_not_mem hk hd).symm, ih]

/-- A field that is not set stays out. -/
theorem get?_eq_none (h : Edited sets drops j r) (hs : k ∉ sets) (hj : j.get? k = none) :
    r.get? k = none := by
  induction h with
  | refl => exact hj
  | set _ hk _ ih => rw [get?_set_of_ne (ne_of_mem_of_not_mem hk hs).symm, ih]
  | erase _ _ ih =>
    rw [get?_erase, ih]
    exact ite_self none

/-- A field that is taken out and not set is gone. -/
theorem get?_erased (h : (j.erase k).Edited sets drops r) (hs : k ∉ sets) : r.get? k = none :=
  h.get?_eq_none hs (Entries.lookup_erase_self k j.entries)

/-- What a field holds was there before or is not keyed. -/
theorem get?_eq_or_plain (h : Edited sets drops j r) (hv : r.get? k = some v) :
    j.get? k = some v ∨ Keyed.isKeyed v = false := by
  induction h with
  | refl => exact .inl hv
  | set _ _ hw ih =>
    rw [get?_set] at hv
    split at hv
    · cases hv
      exact .inr hw
    · exact ih hv
  | erase _ _ ih =>
    rw [get?_erase] at hv
    split at hv
    · cases hv
    · exact ih hv

/-- A field that is not taken out stays. -/
theorem get?_ne_none (h : Edited sets drops j r) (hd : k ∉ drops) (hj : j.get? k ≠ none) :
    r.get? k ≠ none := by
  induction h with
  | refl => exact hj
  | set _ _ _ ih =>
    rw [get?_set]
    split
    · exact Option.some_ne_none _
    · exact ih
  | erase _ hk ih =>
    rw [get?_erase_of_ne (ne_of_mem_of_not_mem hk hd).symm]
    exact ih

/-- A field that is not keyed does not become so. -/
theorem plainAt (h : Edited sets drops j r) (hj : j.PlainAt k) : r.PlainAt k :=
  fun v hv => (h.get?_eq_or_plain hv).elim (hj v) id

end Edited

/-! ### The order of fields -/

theorem InOrder.refl (j : Job) : j.InOrder j := rfl

theorem mem_keys_iff : k ∈ j.entries.keys ↔ j.has k = true := (Entries.has_iff j.entries k).symm

theorem has_set (k l : String) (v : Value) (j : Job) :
    (j.set k v).has l = (decide (l = k) || j.has l) := by
  rw [Bool.eq_iff_iff, has_iff, get?_set, Bool.or_eq_true, decide_eq_true_iff, has_iff]
  split
  · next h => simp [h]
  · next h => simp [h]

theorem has_erase (k l : String) (j : Job) :
    (j.erase k).has l = (decide (l ≠ k) && j.has l) := by
  rw [Bool.eq_iff_iff, has_iff, get?_erase, Bool.and_eq_true, decide_eq_true_iff, has_iff]
  split
  · next h => simp [h]
  · next h => simp [h]

/-- A field that is set keeps its place or goes last, where it must not be one that was taken
out. -/
theorem InOrder.set (h : j.InOrder m) (hk : j.has k = true → m.has k = true) :
    j.InOrder (m.set k v) := by
  have hkeys : (m.set k v).entries.keys =
      if k ∈ m.entries.keys then m.entries.keys else m.entries.keys ++ [k] :=
    Entries.keys_set k v m.entries
  unfold InOrder at h ⊢
  by_cases hm : m.has k = true
  · have hsame : (m.set k v).has = m.has := by
      funext l
      rw [has_set, Bool.or_eq_right_iff_imp, decide_eq_true_iff]
      rintro rfl
      exact hm
    rw [hkeys, if_pos (mem_keys_iff.2 hm), hsame, h]
  · have hj : ¬ j.has k = true := fun hj => hm (hk hj)
    have hsame : ∀ l ∈ j.entries.keys, (m.set k v).has l = m.has l := by
      intro l hl
      have hlk : l ≠ k := fun e => hj (e ▸ mem_keys_iff.1 hl)
      rw [has_set, decide_eq_false hlk, Bool.false_or]
    rw [hkeys, if_neg fun hmem => hm (mem_keys_iff.1 hmem), List.filter_append, h,
      List.filter_cons_of_neg hj, List.filter_nil, List.append_nil, List.filter_congr hsame]

theorem InOrder.erase (h : j.InOrder m) : j.InOrder (m.erase k) := by
  have hkeys : (m.erase k).entries.keys = m.entries.keys.filter fun l => l ≠ k :=
    Entries.keys_erase k m.entries
  have hhas : (m.erase k).has = fun l => decide (l ≠ k) && m.has l :=
    funext fun l => has_erase k l m
  calc (m.erase k).entries.keys.filter j.has
      = (m.entries.keys.filter j.has).filter fun l => decide (l ≠ k) := by
        rw [hkeys, List.filter_filter, List.filter_filter]
        simp only [Bool.and_comm]
    _ = j.entries.keys.filter (m.erase k).has := by
        rw [h, List.filter_filter, hhas]

/-- **Edits keep the order of fields.**  Of the fields of a job `j` none may be set again by the
edits that was taken out before. -/
theorem InOrder.edited (h : j.InOrder m) (he : m.Edited sets drops r)
    (hthere : ∀ k ∈ sets, j.get? k ≠ none → m.get? k ≠ none) (hsets : ∀ k ∈ sets, k ∉ drops) :
    j.InOrder r := by
  induction he with
  | refl => exact h
  | set he hk _ ih =>
    refine ih.set fun hj => has_iff.2 ?_
    exact he.get?_ne_none (hsets _ hk) (hthere _ hk (has_iff.1 hj))
  | erase _ _ ih => exact ih.erase

end Job

end JobExpansion
