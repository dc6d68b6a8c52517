import JobExpansion.Proofs.Files.Written

/-!
# Directories that were made

To make a directory, and those above it, adds directories on the way and changes nothing else
(`Gained`), also when it stops half way: what was made by then stays.
-/

namespace JobExpansion.FileTree

variable {t t' u : FileTree} {place : Location} {path : String} {paths above : List String}

/-- A tree has what another one has and, besides, directories at the places of some paths. -/
structure Gained (paths : List String) (t t' : FileTree) : Prop where
  current : t'.current = t.current
  kept : ∀ p e, t.get? p = some e → t'.get? p = some e
  new : ∀ p e, t.get? p = none → t'.get? p = some e →
    e = .directory ∧ ∃ path ∈ paths, t'.locate path = .ok p

theorem Gained.refl (paths : List String) (t : FileTree) : Gained paths t t where
  current := rfl
  kept _ _ h := h
  new p e hnone h := by
    rw [hnone] at h
    cases h

theorem Gained.trans (h : Gained paths t t') (h' : Gained paths t' u) : Gained paths t u where
  current := h'.current.trans h.current
  kept p e hp := h'.kept p e (h.kept p e hp)
  new p e hnone hp := by
    cases hmid : t'.get? p with
    | none => exact h'.new p e hmid hp
    | some e' =>
      -- what was made first is still there, and so is the way to it
      obtain ⟨rfl, path, hpath, hlocate⟩ := h.new p e' hnone hmid
      cases (h'.kept p _ hmid).symm.trans hp
      exact ⟨rfl, path, hpath, locate_of_directories h'.current (h'.kept · _) hlocate⟩

theorem vacant?_eq_ok (h : t.vacant? path = .ok place) :
    t.locate path = .ok place ∧ t.get? place = none := by
  obtain ⟨found, hfound, h⟩ := bind_eq_ok_iff.1 h
  by_cases hname : (!endsInName path) = true
  · simp only [hname, if_true] at h
    cases h
  · simp only [hname] at h
    cases hget : t.get? found with
    | none =>
      rw [hget] at h
      cases h
      exact ⟨hfound, hget⟩
    | some e =>
      rw [hget] at h
      cases h

theorem moves_makeDirectory (h : path ∈ paths) : Moves (Gained paths) (makeDirectory path) := by
  intro t
  rw [run_makeDirectory]
  cases hvacant : t.vacant? path with
  | error e => exact .refl paths t
  | ok place =>
    obtain ⟨hlocate, hnone⟩ := vacant?_eq_ok hvacant
    have hget (p : Location) : (t.set place .directory).get? p =
        if p = place then some .directory else t.get? p :=
      get?_set (ne_nil_of_get? (t := t) (by simp [hnone]))
    have hkept (p : Location) (e : FileEntry) (hp : t.get? p = some e) :
        (t.set place .directory).get? p = some e := by
      have hne : p ≠ place := fun hpp => by simp [hpp, hnone] at hp
      rwa [hget, if_neg hne]
    refine ⟨rfl, hkept, fun p e hp he => ?_⟩
    rw [hget] at he
    split at he
    · next hpp =>
      cases he
      rw [hpp]
      exact ⟨rfl, path, h, locate_of_directories (t := t) rfl (hkept · _) hlocate⟩
    · cases hp.symm.trans he

theorem moves_unlessDirectory (path : String) (e : AccessError) :
    Moves (Gained paths) (unlessDirectory path e) := by
  intro t
  unfold unlessDirectory
  simp only [EStateM.run_bind, EStateM.run_get]
  cases t.isDirectory path <;> exact .refl paths t

theorem moves_makeMissing (h : above ⊆ paths) : Moves (Gained paths) (makeMissing above) := by
  induction above with
  | nil => exact fun t => .refl paths t
  | cons path above ih =>
    obtain ⟨hpath, habove⟩ := List.cons_subset.1 h
    rw [makeMissing]
    split
    · exact fun t => .refl paths t
    · refine .tryCatch .trans (moves_makeDirectory hpath) fun e => ?_
      split
      · refine .bind .trans (ih habove) fun _ => ?_
        exact .tryCatch .trans (moves_makeDirectory hpath) (moves_unlessDirectory path)
      · exact moves_unlessDirectory path _

/-- **Directories are made, and nothing else changes**, whether all of them can be made or not. -/
theorem moves_makeDirectories (path : String) :
    Moves (Gained (Path.ancestors path)) (makeDirectories path) :=
  moves_makeMissing (List.Subset.refl _)

/-- A file stays as it is when directories are made. -/
theorem Gained.holds {log : String} {content : ByteArray} (h : Gained paths t t')
    (hholds : t.Holds log place content) : t'.Holds log place content :=
  ⟨locate_of_directories h.current (h.kept · _) hholds.located, h.kept _ _ hholds.held⟩

/-- A file stays there when an output is written. -/
theorem Holds.output {log text : String} {old : ByteArray} (h : t.Holds log place old)
    (houtput : (FileTree.output path text).run t = .ok () t') :
    ∃ content, t'.Holds log place content := by
  obtain ⟨_, made, hmade, hwrite⟩ := run_bind_eq_ok_iff.1 houtput
  have hholds : made.Holds log place old := by
    unfold makeParent at hmade
    split at hmade
    · next directory _ =>
      have hgained := moves_makeDirectories directory t
      rw [run_adaptExcept_eq_ok_iff.1 hmade] at hgained
      exact hgained.holds h
    · cases hmade
      exact h
  obtain ⟨q, _, -, hwritten, -⟩ := written_of_edit (run_adaptExcept_eq_ok_iff.1 hwrite)
  exact hwritten.holds hholds

end JobExpansion.FileTree
