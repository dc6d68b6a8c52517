import JobExpansion.Proofs.Value.Rows
import JobExpansion.Value.Path

/-!
# Laws of paths

What a replacement at the end of a path does to the mapping around it. `ReplacedAt` says it without
the walk: in every mapping that the path leads through, the rows before the one on the way and those
after it are the same as they were, and so is its key. `replacedAt_setPath` says that `setPath` does
just this wherever `getPath` reads a value. `WrittenAt` says the same of a write that makes its way
where there is none.
-/

namespace JobExpansion.Entries

variable {k l : String} {ks path : List String} {v w : Value} {es fs inner : Entries}

/-! ### One step of a path -/

@[simp] theorem getPath_singleton (k : String) (es : Entries) : getPath [k] es = es.lookup k := rfl

theorem getPath_cons_eq_some_iff :
    getPath (k :: l :: ks) es = some v ↔
      ∃ inner, es.lookup k = some (.mapping inner) ∧ getPath (l :: ks) inner = some v := by
  rw [getPath.eq_3 _ _ _ (by simp)]
  split
  · next inner hk => simp [hk]
  · next hn => simpa using fun inner hk => absurd hk (hn inner)

theorem setPath_singleton (h : es.lookup k = some v) : setPath w [k] es = set k w es := by
  simp [setPath, has, h]

theorem setPath_cons (h : es.lookup k = some (.mapping inner)) :
    setPath w (k :: l :: ks) es = set k (.mapping (setPath w (l :: ks) inner)) es := by
  simp [setPath, h]

theorem wellFormed_of_getPath (hes : (Value.mapping es).WellFormed) (h : getPath path es = some v) :
    v.WellFormed := by
  induction path generalizing es with
  | nil => cases h
  | cons k ks ih =>
    cases ks with
    | nil => exact wellFormed_of_lookup hes.2 h
    | cons l ks =>
      obtain ⟨inner, hinner, hpath⟩ := getPath_cons_eq_some_iff.1 h
      exact ih (wellFormed_of_lookup hes.2 hinner) hpath

/-! ### The value at the end of a path -/

/-- Two mappings that are the same but for the value at the end of a path, which is `v` in the one
and `w` in the other. -/
inductive ReplacedAt (v w : Value) : List String → Entries → Entries → Prop where
  | here {k : String} {before after : Entries} (hk : k ∉ keys before) :
      ReplacedAt v w [k] (before ++ (k, v) :: after) (before ++ (k, w) :: after)
  | inside {k l : String} {ks : List String} {before after inner inner' : Entries}
      (hk : k ∉ keys before) (h : ReplacedAt v w (l :: ks) inner inner') :
      ReplacedAt v w (k :: l :: ks) (before ++ (k, .mapping inner) :: after)
        (before ++ (k, .mapping inner') :: after)

theorem exists_append_of_lookup (h : es.lookup k = some v) :
    ∃ before after, es = before ++ (k, v) :: after ∧ k ∉ keys before := by
  obtain ⟨before, after, rfl, hb⟩ := List.lookup_eq_some_iff.1 h
  refine ⟨before, after, rfl, fun hk => ?_⟩
  obtain ⟨row, hrow, rfl⟩ := List.mem_map.1 hk
  simpa using hb row hrow

theorem lookup_append_of_not_mem {before after : Entries} (hk : k ∉ keys before) :
    (before ++ (k, v) :: after).lookup k = some v := by
  rw [List.lookup_append, (lookup_eq_none_iff before k).2 hk, lookup_cons_self]
  rfl

theorem set_append_of_not_mem {before after : Entries} (hk : k ∉ keys before) :
    set k w (before ++ (k, v) :: after) = before ++ (k, w) :: after := by
  induction before with
  | nil => simp [set]
  | cons row before ih =>
    rw [keys_cons, List.mem_cons, not_or] at hk
    rw [List.cons_append, set, if_neg (Ne.symm hk.1), ih hk.2, List.cons_append]

/-- **A write is local.**  Where a path leads to a value, writing another there changes nothing
else. -/
theorem replacedAt_setPath (h : getPath path es = some v) (w : Value) :
    ReplacedAt v w path es (setPath w path es) := by
  induction path generalizing es with
  | nil => cases h
  | cons k ks ih =>
    cases ks with
    | nil =>
      obtain ⟨before, after, rfl, hk⟩ := exists_append_of_lookup h
      rw [setPath_singleton h, set_append_of_not_mem hk]
      exact .here hk
    | cons l ks =>
      obtain ⟨inner, hinner, hpath⟩ := getPath_cons_eq_some_iff.1 h
      rw [setPath_cons hinner]
      obtain ⟨before, after, rfl, hk⟩ := exists_append_of_lookup hinner
      rw [set_append_of_not_mem hk]
      exact .inside hk (ih hpath)

/-- The new value is what a path reads then. -/
theorem ReplacedAt.getPath (h : ReplacedAt v w path es fs) : fs.getPath path = some w := by
  induction h with
  | here hk => exact lookup_append_of_not_mem hk
  | inside hk _ ih => exact getPath_cons_eq_some_iff.2 ⟨_, lookup_append_of_not_mem hk, ih⟩

/-- A value written where it stands changes nothing. -/
theorem setPath_of_getPath (h : getPath path es = some v) : setPath v path es = es := by
  induction path generalizing es with
  | nil => rfl
  | cons k ks ih =>
    cases ks with
    | nil => rw [setPath_singleton h, set_of_lookup h]
    | cons l ks =>
      obtain ⟨inner, hinner, hpath⟩ := getPath_cons_eq_some_iff.1 h
      rw [setPath_cons hinner, ih hpath, set_of_lookup hinner]

/-! ### Writes that make their way -/

/-- A mapping with a value written at the end of a path. What stands there is replaced where it
stands. What does not, at the end of the path or on the way, is added behind the other rows of its
mapping. -/
inductive WrittenAt (w : Value) : List String → Entries → Entries → Prop where
  | here {k : String} {v : Value} {before after : Entries} (hk : k ∉ keys before) :
      WrittenAt w [k] (before ++ (k, v) :: after) (before ++ (k, w) :: after)
  | last {k : String} {es : Entries} (hk : k ∉ keys es) : WrittenAt w [k] es (es ++ [(k, w)])
  | inside {k l : String} {ks : List String} {before after inner inner' : Entries}
      (hk : k ∉ keys before) (h : WrittenAt w (l :: ks) inner inner') :
      WrittenAt w (k :: l :: ks) (before ++ (k, .mapping inner) :: after)
        (before ++ (k, .mapping inner') :: after)
  | lastInside {k l : String} {ks : List String} {es inner : Entries} (hk : k ∉ keys es)
      (h : WrittenAt w (l :: ks) [] inner) :
      WrittenAt w (k :: l :: ks) es (es ++ [(k, .mapping inner)])

theorem writtenAt_set (k : String) (w : Value) (es : Entries) :
    WrittenAt w [k] es (set k w es) := by
  cases hv : es.lookup k with
  | none =>
    rw [set_eq_append hv]
    exact .last ((lookup_eq_none_iff es k).1 hv)
  | some v =>
    obtain ⟨before, after, rfl, hk⟩ := exists_append_of_lookup hv
    rw [set_append_of_not_mem hk]
    exact .here hk

/-- A write inside a mapping that is there. -/
theorem WrittenAt.set_mapping (h : WrittenAt w (l :: ks) inner fs)
    (hinner : es.lookup k = some (.mapping inner)) :
    WrittenAt w (k :: l :: ks) es (set k (.mapping fs) es) := by
  obtain ⟨before, after, rfl, hk⟩ := exists_append_of_lookup hinner
  rw [set_append_of_not_mem hk]
  exact .inside hk h

/-- A write inside a mapping that is made for it. -/
theorem WrittenAt.set_new (h : WrittenAt w (l :: ks) [] fs) (hk : es.lookup k = none) :
    WrittenAt w (k :: l :: ks) es (set k (.mapping fs) es) := by
  rw [set_eq_append hk]
  exact .lastInside ((lookup_eq_none_iff es k).1 hk) h

/-- A write adds at most a row at the end. -/
theorem WrittenAt.keys_prefix (h : WrittenAt w path es fs) : es.keys <+: fs.keys := by
  cases h with
  | here _ | inside _ _ => simp [keys]
  | last _ | lastInside _ _ => exact ⟨_, (List.map_append).symm⟩

theorem WrittenAt.lookup_of_ne (h : WrittenAt w path es fs) (hl : path.head? ≠ some l) :
    fs.lookup l = es.lookup l := by
  have hne : ∀ {k ks}, path = k :: ks → l ≠ k := fun hpath hlk => hl (by rw [hpath, hlk]; rfl)
  cases h with
  | here _ | inside _ _ => simp [List.lookup_append, lookup_cons_of_ne (hne rfl)]
  | last _ | lastInside _ _ => simp [List.lookup_append, lookup_cons_of_ne (hne rfl)]

end JobExpansion.Entries
