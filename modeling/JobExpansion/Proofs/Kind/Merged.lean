import JobExpansion.Kind.Merge
import JobExpansion.Proofs.Value.Rows
import Mathlib.Data.List.Nodup

/-!
# What a merge holds

A merge goes through the rows of the upper mapping and changes the lower one row by row, filling an
empty slot for each new key. What comes out can be said key by key (`Merged`): which keys there are
and in which order, and what each of them holds. `merge_merged` says so, and that nothing else comes
out.
-/

namespace JobExpansion.Kind

open Entries

variable {below above rows rows' : Entries} {k l : String} {v w : Value}

/-! ### Values laid over others -/

/-- A value takes the place of the one below it whole: it is keyed, it is no container, or it is one
of another kind. -/
def Replaces (above below : Value) : Prop :=
  Keyed.isKeyed above = true ∨ (above.tag ≠ .list ∧ above.tag ≠ .mapping) ∨ above.tag ≠ below.tag

theorem mergeValue_of_replaces (h : Replaces v w) : mergeValue w v = v := by
  cases v with
  | mapping entries =>
    rcases h with hk | ⟨-, htag⟩ | htag
    · cases w <;> simp [mergeValue, hk]
    · exact absurd rfl htag
    · cases w with
      | mapping => exact absurd rfl htag
      | _ => simp [mergeValue]
  | list items =>
    rcases h with hk | ⟨htag, -⟩ | htag
    · cases hk
    · exact absurd rfl htag
    · cases w with
      | list => exact absurd rfl htag
      | _ => rfl
  | _ => rfl

theorem mergeValue_lists (items items' : List Value) :
    mergeValue (.list items) (.list items') = .list (items ++ items') := by
  simp [mergeValue]

theorem mergeValue_mappings (h : Keyed.isKeyed (.mapping above) = false) :
    mergeValue (.mapping below) (.mapping above) = merge (.mapping below) (.mapping above) := by
  simp [mergeValue, merge, h]

/-- A value that does not replace what is below it whole is of the same kind. -/
theorem kinds_of_not_replaces (h : ¬ Replaces v w) :
    (∃ items items', w = .list items ∧ v = .list items') ∨
      ∃ entries entries', w = .mapping entries ∧ v = .mapping entries' ∧
        Keyed.isKeyed (.mapping entries') = false := by
  simp only [Replaces, not_or, not_and_or, not_not, Bool.not_eq_true] at h
  obtain ⟨hk, hcontainer, htag⟩ := h
  cases v with
  | list items' =>
    cases w with
    | list items => exact .inl ⟨items, items', rfl, rfl⟩
    | _ => cases htag
  | mapping entries' =>
    cases w with
    | mapping entries => exact .inr ⟨entries, entries', rfl, rfl, hk⟩
    | _ => cases htag
  | _ => rcases hcontainer with h | h <;> cases h

/-! ### The rows of a merge -/

/-- The rows after those that are already laid over leave a key alone that they do not have. -/
theorem lookup_mergeEntries_of_not_mem (hk : k ∉ above.keys) :
    (mergeEntries below above).lookup k = below.lookup k := by
  induction above generalizing below with
  | nil => rw [mergeEntries]
  | cons row rest ih =>
    obtain ⟨l, v⟩ := row
    obtain ⟨hl, hk⟩ := not_or.1 (mt List.mem_cons.2 hk)
    rw [mergeEntries, ih hk, lookup_set, if_neg hl]

theorem lookup_mergeEntries (hn : above.keys.Nodup) (hv : above.lookup k = some v) :
    (mergeEntries below above).lookup k =
      some (mergeValue ((below.lookup k).getD (emptySlot v)) v) := by
  induction above generalizing below with
  | nil => cases hv
  | cons row rest ih =>
    obtain ⟨l, u⟩ := row
    obtain ⟨hl, hn⟩ := List.nodup_cons.1 hn
    rw [mergeEntries]
    by_cases hk : k = l
    · subst hk
      cases (lookup_cons_self k u rest).symm.trans hv
      rw [lookup_mergeEntries_of_not_mem hl, lookup_set_self]
    · rw [lookup_cons_of_ne hk] at hv
      rw [ih hn hv, lookup_set, if_neg hk]

theorem keys_mergeEntries (hn : above.keys.Nodup) :
    (mergeEntries below above).keys = below.keys ++ above.keys.filter (· ∉ below.keys) := by
  induction above generalizing below with
  | nil => simp [mergeEntries]
  | cons row rest ih =>
    obtain ⟨l, u⟩ := row
    obtain ⟨hl, hn⟩ := List.nodup_cons.1 hn
    rw [mergeEntries, ih hn, keys_set, keys_cons]
    by_cases hmem : l ∈ below.keys
    · simp [hmem]
    · have hrest : (keys rest).filter (· ∉ below.keys ++ [l]) =
          (keys rest).filter (· ∉ below.keys) := by
        refine List.filter_congr fun k hk => ?_
        have hkl : k ≠ l := fun h => hl (h ▸ hk)
        simp [hkl]
      rw [if_neg hmem, hrest, List.filter_cons_of_pos (by simpa using hmem), List.append_assoc]
      rfl

mutual
/-- A value laid over the empty slot of a new key is the value itself, at every depth. -/
theorem mergeValue_emptySlot : ∀ v : Value, v.WellFormed → mergeValue (emptySlot v) v = v
  | .mapping entries, h => by
    obtain ⟨hn, hentries⟩ := h
    have hfill : mergeEntries [] entries = entries :=
      mergeEntries_of_fresh [] entries (by simpa using hn) hentries
    simp [mergeValue, emptySlot, hfill]
  | .list items, _ => by simp [mergeValue, emptySlot]
  | .null, _ | .bool _, _ | .number _, _ | .text _, _ => rfl

/-- Rows whose keys are all new are added as they are. -/
theorem mergeEntries_of_fresh : ∀ (below : Entries) (rows : List (String × Value)),
    (below.keys ++ rows.map (·.1)).Nodup → EntriesWellFormed rows →
      mergeEntries below rows = below ++ rows
  | below, [], _, _ => by simp [mergeEntries]
  | below, (k, v) :: rows, hn, ⟨hv, hrows⟩ => by
    have hk : below.lookup k = none := by
      rw [lookup_eq_none_iff]
      exact fun hk => List.disjoint_of_nodup_append hn hk List.mem_cons_self
    have hslot : below.set k (mergeValue ((below.lookup k).getD (emptySlot v)) v) =
        below ++ [(k, v)] := by
      rw [hk, Option.getD_none, mergeValue_emptySlot v hv, set_eq_append hk]
    have hn' : ((below ++ [(k, v)]).keys ++ rows.map (·.1)).Nodup := by simpa [keys] using hn
    rw [mergeEntries, hslot, mergeEntries_of_fresh (below ++ [(k, v)]) rows hn' hrows,
      List.append_assoc]
    rfl
end

/-! ### The merge, key by key -/

/-- What a mapping laid over another makes of the two, key by key. -/
structure Merged (below above rows : Entries) : Prop where
  keys : rows.keys = below.keys ++ above.keys.filter (· ∉ below.keys)
  onlyBelow : ∀ k ∉ above.keys, rows.lookup k = below.lookup k
  onlyAbove : ∀ k ∉ below.keys, rows.lookup k = above.lookup k
  replaced : ∀ k w v, below.lookup k = some w → above.lookup k = some v → Replaces v w →
    rows.lookup k = some v
  joined : ∀ k items items', below.lookup k = some (.list items) →
    above.lookup k = some (.list items') → rows.lookup k = some (.list (items ++ items'))
  merged : ∀ k entries entries', below.lookup k = some (.mapping entries) →
    above.lookup k = some (.mapping entries') → Keyed.isKeyed (.mapping entries') = false →
      rows.lookup k = some (merge (.mapping entries) (.mapping entries'))

/-- What both mappings hold is laid over. -/
theorem lookup_mergeEntries_of_both (hn : above.keys.Nodup) (hw : below.lookup k = some w)
    (hv : above.lookup k = some v) :
    (mergeEntries below above).lookup k = some (mergeValue w v) := by
  rw [lookup_mergeEntries hn hv, hw, Option.getD_some]

theorem merged_mergeEntries (hn : above.keys.Nodup) (ha : EntriesWellFormed above) :
    Merged below above (mergeEntries below above) where
  keys := keys_mergeEntries hn
  onlyBelow k hk := lookup_mergeEntries_of_not_mem hk
  onlyAbove k hk := by
    have hb : below.lookup k = none := (lookup_eq_none_iff below k).2 hk
    cases hv : above.lookup k with
    | none => rw [lookup_mergeEntries_of_not_mem ((lookup_eq_none_iff above k).1 hv), hb]
    | some v =>
      have hwell : v.WellFormed := wellFormed_of_lookup ha hv
      rw [lookup_mergeEntries hn hv, hb, Option.getD_none, mergeValue_emptySlot v hwell]
  replaced k w v hw hv h := by
    rw [lookup_mergeEntries_of_both hn hw hv, mergeValue_of_replaces h]
  joined k items items' hw hv := by
    rw [lookup_mergeEntries_of_both hn hw hv, mergeValue_lists]
  merged k entries entries' hw hv h := by
    rw [lookup_mergeEntries_of_both hn hw hv, mergeValue_mappings h]

theorem Merged.nodup_keys (h : Merged below above rows) (hb : below.keys.Nodup)
    (ha : above.keys.Nodup) : rows.keys.Nodup := by
  rw [h.keys]
  refine List.nodup_append.2 ⟨hb, ha.filter _, fun k hk l hl => ?_⟩
  rintro rfl
  simp [hk] at hl

/-- The clauses say of each key what it holds. -/
theorem Merged.lookup_eq (h : Merged below above rows) (h' : Merged below above rows')
    (k : String) : rows.lookup k = rows'.lookup k := by
  by_cases hb : k ∈ below.keys
  · by_cases ha : k ∈ above.keys
    · obtain ⟨w, hw⟩ := Option.isSome_iff_exists.1 ((lookup_isSome_iff below k).2 hb)
      obtain ⟨v, hv⟩ := Option.isSome_iff_exists.1 ((lookup_isSome_iff above k).2 ha)
      by_cases hr : Replaces v w
      · rw [h.replaced k w v hw hv hr, h'.replaced k w v hw hv hr]
      · rcases kinds_of_not_replaces hr with
          ⟨items, items', rfl, rfl⟩ | ⟨entries, entries', rfl, rfl, hk⟩
        · rw [h.joined k items items' hw hv, h'.joined k items items' hw hv]
        · rw [h.merged k entries entries' hw hv hk, h'.merged k entries entries' hw hv hk]
    · rw [h.onlyBelow k ha, h'.onlyBelow k ha]
  · rw [h.onlyAbove k hb, h'.onlyAbove k hb]

/-- **A merge, key by key.**  Laying a mapping over another gives the keys of the lower one and then
those that only the upper one has, each in order. What only one of them holds is as it was there, at
every depth; what both hold is the upper value if it replaces the lower one, the lists joined, or
the mappings merged. These clauses leave nothing open. So no key is lost, and an empty mapping on
either side changes nothing. -/
theorem merge_merged {below above : Entries} (hb : (Value.mapping below).WellFormed)
    (ha : (Value.mapping above).WellFormed) :
    (∃ rows : Entries, merge (.mapping below) (.mapping above) = .mapping rows ∧
      Merged below above rows ∧
      (∀ rows', Merged below above rows' → rows' = rows) ∧
      ∀ k, k ∈ below.keys ∨ k ∈ above.keys → k ∈ rows.keys) ∧
    merge (.mapping []) (.mapping above) = .mapping above ∧
    merge (.mapping below) (.mapping []) = .mapping below := by
  obtain ⟨hn, ha⟩ := ha
  have hmerged : Merged below above (mergeEntries below above) := merged_mergeEntries hn ha
  have hkeys : (mergeEntries below above).keys.Nodup := hmerged.nodup_keys hb.1 hn
  refine ⟨⟨_, rfl, hmerged, fun rows' h => ?_, fun k hk => ?_⟩, ?_, ?_⟩
  · exact (eq_of_lookup (hmerged.keys.trans h.keys.symm) hkeys (hmerged.lookup_eq h)).symm
  · rw [hmerged.keys, List.mem_append, List.mem_filter]
    by_cases hmem : k ∈ below.keys
    · exact .inl hmem
    · exact .inr ⟨hk.resolve_left hmem, by simpa using hmem⟩
  · rw [merge, mergeEntries_of_fresh [] above (by simpa using hn) ha, List.nil_append]
  · rw [merge, mergeEntries]

/-- What jobs hold unless they say otherwise. -/
def usualRows : Entries := [("apps", .list [.text "chrome"]),
  ("target", .mapping [("by-app", .mapping [("fenix", .text "fenix-build"), ("default", .null)])]),
  ("mozharness", .mapping [("script", .text "raptor.py"), ("extra-options", .list [.text "--cold"]),
    ("config", .mapping [])])]

/-- What one job says. -/
def ownRows : Entries := [("env", .mapping [("inner", .mapping []), ("words", .list [])]),
  ("mozharness", .mapping [("extra-options", .list [.text "--page-cycles=1"]),
    ("script", .mapping [("by-app", .mapping [("default", .null)])]), ("config", .list [])]),
  ("target", .text "chrome-build"), ("apps", .list [.text "fenix"])]

/-- The job with what it does not say itself. -/
def bothRows : Entries := [("apps", .list [.text "chrome", .text "fenix"]),
  ("target", .text "chrome-build"),
  ("mozharness", .mapping [("script", .mapping [("by-app", .mapping [("default", .null)])]),
    ("extra-options", .list [.text "--cold", .text "--page-cycles=1"]), ("config", .list [])]),
  ("env", .mapping [("inner", .mapping []), ("words", .list [])])]

theorem merged_bothRows :
    (Value.mapping usualRows).WellFormed ∧ (Value.mapping ownRows).WellFormed ∧
    merge (.mapping usualRows) (.mapping ownRows) = .mapping bothRows ∧
    Merged usualRows ownRows bothRows ∧
    ∀ rows, Merged usualRows ownRows rows → rows = bothRows := by
  have husual : (Value.mapping usualRows).WellFormed := by
    simp [usualRows, Value.WellFormed, EntriesWellFormed, ItemsWellFormed]
  have hown : (Value.mapping ownRows).WellFormed := by
    simp [ownRows, Value.WellFormed, EntriesWellFormed, ItemsWellFormed]
  have hboth : merge (.mapping usualRows) (.mapping ownRows) = .mapping bothRows := by
    decide +kernel
  obtain ⟨⟨rows, hrows, hmerged, hunique, -⟩, -⟩ := merge_merged husual hown
  cases hboth.symm.trans hrows
  exact ⟨husual, hown, hboth, hmerged, hunique⟩

end JobExpansion.Kind
