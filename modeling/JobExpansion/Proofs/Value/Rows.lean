import JobExpansion.Value.Basic

/-!
# Laws of rows

How settings of the rows of a mapping combine: a key that is there keeps its place, so settings of
two keys may be exchanged once one of the keys is there, and a second setting of a key overrides the
first. Rows that are all set override those of their keys and no others.
-/

namespace JobExpansion.Entries

variable {k l : String} {v w : Value} {es : Entries}

theorem set_eq_append (h : es.lookup k = none) : set k v es = es ++ [(k, v)] := by
  induction es with
  | nil => rfl
  | cons row es ih =>
    obtain ⟨m, u⟩ := row
    rw [lookup_eq_none_iff, keys_cons, List.mem_cons, not_or] at h
    rw [set, if_neg (Ne.symm h.1), ih ((lookup_eq_none_iff es k).2 h.2)]
    rfl

theorem set_of_lookup (h : es.lookup k = some v) : set k v es = es := by
  induction es with
  | nil => cases h
  | cons row es ih =>
    obtain ⟨m, u⟩ := row
    by_cases hm : m = k
    · subst hm
      rw [lookup_cons_self] at h
      cases h
      rw [set, if_pos rfl]
    · rw [lookup_cons_of_ne (Ne.symm hm)] at h
      rw [set, if_neg hm, ih h]

theorem setDefault_of_lookup (h : es.lookup k = some w) : setDefault k v es = es :=
  if_pos (Option.isSome_of_eq_some h)

theorem setDefault_of_none (h : es.lookup k = none) : setDefault k v es = set k v es := by
  have hk : ¬ es.has k = true := by simp [has, h]
  rw [setDefault, if_neg hk, set_eq_append h]

theorem set_set_self (k : String) (v w : Value) (es : Entries) :
    set k v (set k w es) = set k v es := by
  induction es with
  | nil => simp [set]
  | cons row es ih =>
    obtain ⟨m, u⟩ := row
    by_cases hm : m = k
    · simp [set, hm]
    · simp [set, hm, ih]

theorem set_comm (hkl : k ≠ l) (hk : k ∈ keys es) :
    set k v (set l w es) = set l w (set k v es) := by
  induction es with
  | nil => cases hk
  | cons row es ih =>
    obtain ⟨m, u⟩ := row
    by_cases hm : m = k
    · subst hm
      simp [set, hkl]
    · rw [keys_cons, List.mem_cons] at hk
      have hk' : k ∈ keys es := hk.resolve_left (Ne.symm hm)
      by_cases hl : m = l
      · subst hl
        simp [set, hm]
      · simp [set, hm, hl, ih hk']

theorem erase_set_self (k : String) (v : Value) (es : Entries) :
    erase k (set k v es) = erase k es := by
  induction es with
  | nil => simp [set, erase]
  | cons row es ih =>
    obtain ⟨m, u⟩ := row
    have ih' : List.filter (fun row => row.1 ≠ k) (set k v es) =
        List.filter (fun row => row.1 ≠ k) es := ih
    by_cases hm : m = k
    · simp [set, erase, hm]
    · simpa [set, erase, hm] using ih'

/-- Rows that all have one key are a single one, if no key stands there twice. -/
theorem eq_singleton_of_keys (hn : es.keys.Nodup) (hk : ∀ l ∈ es.keys, l = k) :
    es = [] ∨ ∃ v, es = [(k, v)] := by
  match es with
  | [] => exact .inl rfl
  | [(l, v)] =>
    obtain rfl : l = k := hk l List.mem_cons_self
    exact .inr ⟨v, rfl⟩
  | (l, v) :: (m, w) :: es =>
    have hlm : l = m := (hk l (by simp)).trans (hk m (by simp)).symm
    exact absurd (hlm ▸ List.mem_cons_self) (List.nodup_cons.1 hn).1

/-! ### Rows set one after another -/

/-- What is read after many settings depends on no other row than was read before. -/
theorem lookup_setAll_congr {fs new : Entries} (h : es.lookup k = fs.lookup k) :
    (es.setAll new).lookup k = (fs.setAll new).lookup k := by
  induction new generalizing es fs with
  | nil => exact h
  | cons row new ih => exact ih (by rw [lookup_set, lookup_set, h])

theorem lookup_setAll {new : Entries} (hn : new.keys.Nodup) :
    (es.setAll new).lookup k = (new.lookup k).or (es.lookup k) := by
  induction new generalizing es with
  | nil => rfl
  | cons row new ih =>
    obtain ⟨l, w⟩ := row
    obtain ⟨hl, hn⟩ := List.nodup_cons.1 hn
    rw [setAll, List.foldl_cons]
    refine (ih hn).trans ?_
    by_cases hk : k = l
    · subst hk
      rw [(lookup_eq_none_iff new k).2 hl, lookup_set_self, lookup_cons_self]
      rfl
    · rw [lookup_set, if_neg hk, lookup_cons_of_ne hk]

/-! ### Well-formed rows -/

theorem wellFormed_of_mem {row : String × Value} (h : EntriesWellFormed es) (hrow : row ∈ es) :
    row.2.WellFormed := by
  induction es with
  | nil => cases hrow
  | cons first es ih =>
    obtain ⟨hfirst, hes⟩ := h
    rcases List.mem_cons.1 hrow with rfl | hrow
    · exact hfirst
    · exact ih hes hrow

theorem wellFormed_of_lookup (h : EntriesWellFormed es) (hv : es.lookup k = some v) :
    v.WellFormed :=
  wellFormed_of_mem h (mem_of_lookup hv)

/-- Rows with the same keys in the same order, which hold the same, are the same. -/
theorem eq_of_lookup {fs : Entries} (hkeys : es.keys = fs.keys) (hn : es.keys.Nodup)
    (h : ∀ k, es.lookup k = fs.lookup k) : es = fs := by
  induction es generalizing fs with
  | nil =>
    cases fs with
    | nil => rfl
    | cons row fs => cases hkeys
  | cons row es ih =>
    obtain ⟨k, v⟩ := row
    cases fs with
    | nil => cases hkeys
    | cons row fs =>
      obtain ⟨l, w⟩ := row
      obtain ⟨rfl, hrest⟩ := List.cons.inj hkeys
      obtain ⟨hk, hn⟩ := List.nodup_cons.1 hn
      have hk' : k ∉ keys fs := fun hmem => hk (hrest ▸ hmem)
      have hv : v = w := by simpa using h k
      subst hv
      refine congrArg _ (ih hrest hn fun m => ?_)
      by_cases hm : m = k
      · subst hm
        rw [(lookup_eq_none_iff es m).2 hk, (lookup_eq_none_iff fs m).2 hk']
      · simpa [lookup_cons_of_ne hm] using h m

end JobExpansion.Entries
