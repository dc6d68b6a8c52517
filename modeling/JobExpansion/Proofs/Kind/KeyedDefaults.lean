import JobExpansion.Job.Shape
import JobExpansion.Proofs.Kind.Merged
import JobExpansion.Proofs.Value.Paths

/-!
# Keyed defaults

A merge looks for keyed values on top only. So a keyed value below gives way to whatever a job puts
in its place, with one exception: a mapping that is not keyed is merged into it, as into any other
mapping, and the key of the keyed value stays among those of the job. `merge_keyedDefault` says so
for keyed values at the end of any path.
-/

namespace JobExpansion.Kind

open Entries

variable {below above own rows alternatives : Entries} {k l key : String} {ks path : List String}
  {v w : Value}

/-! ### Merges along a path -/

/-- The path leads through a keyed value before it ends. -/
def ThroughKeyed (path : List String) (es : Entries) : Prop :=
  ∃ way rest v, path = way ++ rest ∧ rest ≠ [] ∧ es.getPath way = some v ∧ Keyed.isKeyed v = true

theorem not_throughKeyed_singleton : ¬ ThroughKeyed [k] above := by
  rintro ⟨way, rest, v, hpath, hrest, hv, -⟩
  cases way with
  | nil => cases hv
  | cons _ way => exact hrest (List.append_eq_nil_iff.1 (List.cons.inj hpath).2.symm).2

theorem throughKeyed_cons_iff (h : above.lookup k = some (.mapping own)) :
    ThroughKeyed (k :: l :: ks) above ↔
      Keyed.isKeyed (.mapping own) = true ∨ ThroughKeyed (l :: ks) own := by
  constructor
  · rintro ⟨way, rest, v, hpath, hrest, hv, hk⟩
    match way with
    | [] => cases hv
    | [m] =>
      obtain ⟨rfl, -⟩ := List.cons.inj hpath
      cases h.symm.trans hv
      exact .inl hk
    | m :: n :: way =>
      obtain ⟨rfl, htail⟩ := List.cons.inj hpath
      obtain ⟨inner, hinner, hv⟩ := getPath_cons_eq_some_iff.1 hv
      cases h.symm.trans hinner
      exact .inr ⟨n :: way, rest, v, htail, hrest, hv, hk⟩
  · rintro (hk | ⟨way, rest, v, hpath, hrest, hv, hk⟩)
    · exact ⟨[k], l :: ks, _, rfl, by simp, h, hk⟩
    · match way with
      | [] => cases hv
      | n :: way =>
        exact ⟨k :: n :: way, rest, v, congrArg _ hpath, hrest,
          getPath_cons_eq_some_iff.2 ⟨own, h, hv⟩, hk⟩

/-- What a path reads in both mappings is laid over at its end, unless a keyed value on the way
has taken the place of everything below it. -/
theorem getPath_mergeEntries (ha : (Value.mapping above).WellFormed)
    (hw : below.getPath path = some w) (hv : above.getPath path = some v) :
    (ThroughKeyed path above → (mergeEntries below above).getPath path = some v) ∧
    (¬ ThroughKeyed path above →
      (mergeEntries below above).getPath path = some (mergeValue w v)) := by
  induction path generalizing below above with
  | nil => cases hv
  | cons k ks ih =>
    obtain ⟨hn, ha⟩ := ha
    cases ks with
    | nil =>
      exact ⟨fun h => absurd h not_throughKeyed_singleton,
        fun _ => lookup_mergeEntries_of_both hn hw hv⟩
    | cons l ks =>
      obtain ⟨inner, hinner, hw⟩ := getPath_cons_eq_some_iff.1 hw
      obtain ⟨own, hown, hv⟩ := getPath_cons_eq_some_iff.1 hv
      have hlook := lookup_mergeEntries_of_both hn hinner hown
      rw [throughKeyed_cons_iff hown]
      cases hk : Keyed.isKeyed (.mapping own) with
      | true =>
        rw [mergeValue_of_replaces (.inl hk)] at hlook
        exact ⟨fun _ => getPath_cons_eq_some_iff.2 ⟨own, hlook, hv⟩,
          fun h => absurd (.inl rfl) h⟩
      | false =>
        rw [mergeValue_mappings hk, merge] at hlook
        have hwell : (Value.mapping own).WellFormed :=
          wellFormed_of_lookup ha hown
        obtain ⟨hkept, hlaid⟩ := ih hwell hw hv
        refine ⟨fun h => ?_, fun h => ?_⟩
        · exact getPath_cons_eq_some_iff.2 ⟨_, hlook, hkept (h.resolve_left (by simp))⟩
        · exact getPath_cons_eq_some_iff.2 ⟨_, hlook, hlaid fun h' => h (.inr h')⟩

/-! ### Mappings laid over keyed values -/

/-- The rows of a keyed value with those of a mapping laid over it: the key of the keyed value is
there, before those of the mapping. -/
structure Mixed (key : String) (alternatives own rows : Entries) : Prop where
  keys : rows.keys = key :: own.keys.filter (· ≠ key)
  others : ∀ k ≠ key, rows.lookup k = own.lookup k
  kept : key ∉ own.keys → rows.lookup key = some (.mapping alternatives)
  laid : ∀ v, own.lookup key = some v → rows.lookup key =
    some (mergeValue (.mapping alternatives) v)

theorem mixed_mergeEntries (hn : own.keys.Nodup) (hown : EntriesWellFormed own) :
    Mixed key alternatives own (mergeEntries [(key, .mapping alternatives)] own) where
  keys := by
    rw [keys_mergeEntries hn]
    simp
  others k hk := (merged_mergeEntries hn hown).onlyAbove k (by simpa using hk)
  kept hk := by rw [lookup_mergeEntries_of_not_mem hk, lookup_cons_self]
  laid v hv := lookup_mergeEntries_of_both hn (lookup_cons_self ..) hv

/-- What stands alone under such a key is a mapping only if all of it is keyed. -/
theorem tag_ne_mapping_of_not_keyed (hkey : (Keyed.attr? key).isSome = true)
    (h : Keyed.isKeyed (.mapping [(key, v)]) = false) : v.tag ≠ .mapping := by
  intro htag
  cases v with
  | mapping entries =>
    rw [Keyed.isKeyed_eq_true_iff.2 ⟨key, entries, hkey, rfl⟩] at h
    cases h
  | _ => cases htag

/-- What is mixed is keyed no more, unless there was nothing to mix in. -/
theorem Mixed.isKeyed_iff (h : Mixed key alternatives own rows)
    (hkey : (Keyed.attr? key).isSome = true) (hn : own.keys.Nodup)
    (hown : Keyed.isKeyed (.mapping own) = false) :
    Keyed.isKeyed (.mapping rows) = true ↔ own = [] := by
  constructor
  · intro hrows
    obtain ⟨key', alternatives', -, hrows⟩ := Keyed.isKeyed_eq_true_iff.1 hrows
    cases hrows
    obtain ⟨rfl, hnone⟩ := List.cons.inj h.keys
    have hall : ∀ k ∈ own.keys, k = key' := by
      simpa [List.filter_eq_nil_iff] using hnone.symm
    rcases eq_singleton_of_keys hn hall with hnil | ⟨v, rfl⟩
    · exact hnil
    · -- what the mapping holds there takes the place of the alternatives, and is no mapping
      have htag : v.tag ≠ .mapping := tag_ne_mapping_of_not_keyed hkey hown
      have hlaid := h.laid v (lookup_cons_self ..)
      rw [mergeValue_of_replaces (.inr (.inr htag)), lookup_cons_self] at hlaid
      cases hlaid
      exact absurd rfl htag
  · rintro rfl
    have hrows : rows = [(key, .mapping alternatives)] := by
      refine eq_of_lookup h.keys (h.keys ▸ List.nodup_singleton key) fun k => ?_
      by_cases hk : k = key
      · rw [hk, h.kept (by simp), lookup_cons_self]
      · rw [h.others k hk, lookup_cons_of_ne hk]
    exact Keyed.isKeyed_eq_true_iff.2 ⟨key, alternatives, hkey, congrArg _ hrows⟩

/-- **Keyed defaults.**  Where a path leads to a keyed value below and to some value on top, a merge
has the upper value there if that is no mapping, is keyed itself, or stands inside a keyed value. A
mapping that is not keyed is mixed with the keyed value instead: the key of the keyed value stays,
and what comes out is keyed only if the mapping was empty. -/
theorem merge_keyedDefault (ha : (Value.mapping above).WellFormed)
    (hw : below.getPath path = some w) (hk : Keyed.isKeyed w = true)
    (hv : above.getPath path = some v) :
    ∃ rows : Entries, merge (.mapping below) (.mapping above) = .mapping rows ∧
      (v.tag ≠ .mapping ∨ Keyed.isKeyed v = true ∨ ThroughKeyed path above →
        rows.getPath path = some v) ∧
      ∀ own, v = .mapping own → Keyed.isKeyed v = false → ¬ ThroughKeyed path above →
        ∃ key alternatives mixed, w = .mapping [(key, .mapping alternatives)] ∧
          rows.getPath path = some (.mapping mixed) ∧ Mixed key alternatives own mixed ∧
          (Keyed.isKeyed (.mapping mixed) = true ↔ own = []) := by
  obtain ⟨hkept, hlaid⟩ := getPath_mergeEntries ha hw hv
  obtain ⟨key, alternatives, hkey, rfl⟩ := Keyed.isKeyed_eq_true_iff.1 hk
  refine ⟨_, rfl, fun h => ?_, ?_⟩
  · by_cases hthrough : ThroughKeyed path above
    · exact hkept hthrough
    · have hreplaces : Replaces v (.mapping [(key, .mapping alternatives)]) := by
        rcases h with htag | hkeyed | h
        · exact .inr (.inr htag)
        · exact .inl hkeyed
        · exact absurd h hthrough
      rw [hlaid hthrough, mergeValue_of_replaces hreplaces]
  · rintro own rfl hplain hthrough
    obtain ⟨hn, hown⟩ := wellFormed_of_getPath ha hv
    have hmixed : Mixed key alternatives own (mergeEntries [(key, .mapping alternatives)] own) :=
      mixed_mergeEntries hn hown
    refine ⟨key, alternatives, _, rfl, ?_, hmixed, hmixed.isKeyed_iff hkey hn hplain⟩
    rw [hlaid hthrough, mergeValue_mappings hplain, merge]

/-- Settings for the harness that differ by app. -/
def usualHarness : Entries := [("mozharness", .mapping [
  ("script", .mapping [("by-app", .mapping [("fenix", .text "android.py"), ("default", .null)])]),
  ("config", .mapping [("by-app", .mapping [("default", .list [])])])])]

/-- Settings for the harness that do not. -/
def ownHarness : Entries := [("mozharness", .mapping [("script", .text "raptor.py"),
  ("config", .mapping [("tree", .text "autoland")])])]

/-- One of them replaces what is below it, the other is mixed with it. -/
theorem merge_usualHarness :
    (Value.mapping ownHarness).WellFormed ∧
    ∃ rows : Entries, merge (.mapping usualHarness) (.mapping ownHarness) = .mapping rows ∧
      rows.getPath ["mozharness", "script"] = some (.text "raptor.py") ∧
      ∃ mixed : Entries, rows.getPath ["mozharness", "config"] = some (.mapping mixed) ∧
        mixed.keys = ["by-app", "tree"] ∧ Keyed.isKeyed (.mapping mixed) = false := by
  have hown : (Value.mapping ownHarness).WellFormed := by
    simp [ownHarness, Value.WellFormed, EntriesWellFormed]
  have hthrough : ¬ ThroughKeyed ["mozharness", "config"] ownHarness := by
    rw [throughKeyed_cons_iff rfl]
    exact not_or.2 ⟨by decide, not_throughKeyed_singleton⟩
  have hbelow : usualHarness.getPath ["mozharness", "script"] = some _ := rfl
  have hbelow' : usualHarness.getPath ["mozharness", "config"] = some _ := rfl
  obtain ⟨rows, hrows, hscript, -⟩ := merge_keyedDefault hown hbelow (by decide) rfl
  obtain ⟨rows', hrows', -, hconfig⟩ := merge_keyedDefault hown hbelow' (by decide) rfl
  cases hrows.symm.trans hrows'
  obtain ⟨key, alternatives, mixed, hparts, hmixed, hkeys, hkeyed⟩ :=
    hconfig _ rfl (by decide) hthrough
  cases hparts
  refine ⟨hown, rows, hrows, hscript (.inl (by decide)), mixed, hmixed, hkeys.keys, ?_⟩
  exact Bool.eq_false_iff.2 (mt hkeyed.1 (List.cons_ne_nil _ _))

/-- A target by app. -/
def usualTarget : Value :=
  .mapping [("by-app", .mapping [("fenix", .text "fenix-build"), ("default", .null)])]

/-- A target for all apps. -/
def ownTarget : Value := .mapping [("index", .text "gecko.v2"), ("name", .text "target.apk")]

/-- A job whose target is to be the same for all apps gets the alternatives of the default among the
rows of its own. That is not keyed any more, and passes for a target. -/
theorem merge_usualTarget :
    Keyed.isKeyed usualTarget = true ∧
    merge (.mapping [("target", usualTarget)]) (.mapping [("target", ownTarget)]) ≠
      .mapping [("target", ownTarget)] ∧
    ∃ mixed : Entries,
      merge (.mapping [("target", usualTarget)]) (.mapping [("target", ownTarget)]) =
        .mapping [("target", .mapping mixed)] ∧
      mixed.keys = ["by-app", "index", "name"] ∧ Keyed.isKeyed (.mapping mixed) = false ∧
      Shape.target.accepts (.mapping mixed) = true := by
  refine ⟨by decide, by decide +kernel, [("by-app", .mapping [("fenix", .text "fenix-build"),
    ("default", .null)]), ("index", .text "gecko.v2"), ("name", .text "target.apk")], ?_, ?_⟩
  · decide +kernel
  · decide

end JobExpansion.Kind
