import JobExpansion.Failure.Problem
import JobExpansion.Proofs.Outcome

/-!
# Files that were written

A file that was written is read back as it was: only places that are no directories are written to,
so the way to them stays open. A file that gets another content leaves all ways as they were
(`OnlyFile`), so that all other files are read as before.
-/

namespace JobExpansion

/-- An entry is a directory. -/
def FileEntry.isDirectory : FileEntry → Bool
  | .directory => true
  | .file _ => false

namespace FileTree

variable {t t' : FileTree} {p place q : Location} {path name : String} {e : FileEntry}
  {old content : ByteArray}

/-! ### Ways -/

theorem directory_of_step (h : t.step p name = .ok q) : t.get? p = some .directory := by
  unfold step at h
  split at h
  · cases h
  · cases h
  · assumption

/-- A way stays open as long as its directories are there. -/
theorem walk_of_directories (hkept : ∀ p, t.get? p = some .directory → t'.get? p = some .directory)
    {names : List String} (h : t.walk p names = .ok q) : t'.walk p names = .ok q := by
  induction names generalizing p with
  | nil => exact h
  | cons name names ih =>
    obtain ⟨mid, hmid, hq⟩ := bind_eq_ok_iff.1 h
    have hdirectory := directory_of_step hmid
    have hstep : t'.step p name = t.step p name := by
      rw [step, step, hkept p hdirectory, hdirectory]
    rw [walk, hstep, hmid]
    exact ih hq

theorem locate_of_directories (hcurrent : t'.current = t.current)
    (hkept : ∀ p, t.get? p = some .directory → t'.get? p = some .directory)
    (h : t.locate path = .ok q) : t'.locate path = .ok q := by
  unfold locate start at h ⊢
  split at h
  · cases h
  · rename_i hempty
    split at h
    · cases h
    · rename_i hzero
      rw [if_neg hempty, if_neg hzero, hcurrent]
      exact walk_of_directories hkept h

/-- All ways are as they were if every place has a directory, a file or nothing as before. -/
theorem locate_congr (hcurrent : t'.current = t.current)
    (hsame : ∀ p, (t'.get? p).map FileEntry.isDirectory = (t.get? p).map FileEntry.isDirectory)
    (path : String) : t'.locate path = t.locate path := by
  have hstep (p : Location) (name : String) : t'.step p name = t.step p name := by
    have hp := hsame p
    unfold step
    generalize t.get? p = e at hp
    generalize t'.get? p = e' at hp
    rcases e with _ | _ | _ <;> rcases e' with _ | _ | _ <;> cases hp <;> rfl
  have hwalk (names : List String) (p : Location) : t'.walk p names = t.walk p names := by
    induction names generalizing p with
    | nil => rfl
    | cons name names ih => simp only [walk, hstep, ih]
  unfold locate start
  simp only [hcurrent, hwalk]

/-! ### Changes -/

theorem run_makeDirectory : (makeDirectory path).run t =
    match t.vacant? path with
    | .ok place => .ok () (t.set place .directory)
    | .error e => .error e t := by
  unfold makeDirectory
  simp only [EStateM.run_bind, EStateM.run_get]
  cases t.vacant? path <;> rfl

theorem run_edit {f : ByteArray → ByteArray} : (edit path f).run t =
    match t.open? path with
    | .ok (place, old) => .ok () (t.set place (.file (f old)))
    | .error e => .error e t := by
  unfold edit
  simp only [EStateM.run_bind, EStateM.run_get]
  cases t.open? path <;> rfl

theorem eq_of_edit_error {f : ByteArray → ByteArray} {error : AccessError}
    (h : (edit path f).run t = .error error t') : t' = t := by
  rw [run_edit] at h
  cases hopen : t.open? path <;> rw [hopen] at h <;> cases h
  rfl

/-- What is written to is no directory, and its path does not ask for one. -/
theorem open?_eq_ok (h : t.open? path = .ok (place, old)) :
    t.locate path = .ok place ∧
      (t.get? place = some (.file old) ∨ t.get? place = none ∧ old = ByteArray.empty) ∧
      Path.wantsDirectory path = false := by
  obtain ⟨found, hfound, h⟩ := bind_eq_ok_iff.1 h
  by_cases hpath : (!endsInName path || Path.wantsDirectory path) = true
  · simp only [hpath, if_true] at h
    cases h
  · simp only [hpath] at h
    have hwants : Path.wantsDirectory path = false :=
      Bool.eq_false_iff.2 fun hw => hpath (by simp [hw])
    cases hget : t.get? found with
    | none =>
      rw [hget] at h
      cases h
      exact ⟨hfound, .inr ⟨hget, rfl⟩, hwants⟩
    | some e =>
      rw [hget] at h
      cases e with
      | directory => cases h
      | file content =>
        cases h
        exact ⟨hfound, .inl hget, hwants⟩

/-- A path leads to a file. -/
structure Holds (t : FileTree) (path : String) (place : Location) (content : ByteArray) :
    Prop where
  located : t.locate path = .ok place
  held : t.get? place = some (.file content)

theorem Holds.read (h : t.Holds path place content) (hwants : Path.wantsDirectory path = false) :
    t.read path = .ok content := by
  rw [FileTree.read, find, h.located]
  simp only [ok_bind, h.held, hwants]
  rfl

theorem ne_nil_of_get? (h : t.get? p ≠ some .directory) : p ≠ [] := fun hp => h (by rw [hp]; rfl)

/-- A tree has a file with some content at a place that was no directory, and all else is as in
another tree. -/
structure Written (place : Location) (content : ByteArray) (t t' : FileTree) : Prop where
  current : t'.current = t.current
  free : t.get? place ≠ some .directory
  get? : ∀ p, t'.get? p = if p = place then some (.file content) else t.get? p

theorem Written.set (h : t.get? place ≠ some .directory) :
    Written place content t (t.set place (.file content)) :=
  ⟨rfl, h, fun _ => get?_set (ne_nil_of_get? h)⟩

theorem Written.directory (h : Written place content t t') (p : Location)
    (hp : t.get? p = some .directory) : t'.get? p = some .directory := by
  rwa [h.get?, if_neg fun hpp : p = place => h.free (hpp ▸ hp)]

theorem Written.locate (h : Written place content t t') (hq : t.locate path = .ok q) :
    t'.locate path = .ok q := locate_of_directories h.current h.directory hq

theorem Written.get?_self (h : Written place content t t') :
    t'.get? place = some (.file content) := by
  rw [h.get?, if_pos rfl]

/-- A file stays there when another one is written. -/
theorem Written.holds {log : String} (h : Written place content t t')
    (hholds : t.Holds log q old) : ∃ kept, t'.Holds log q kept := by
  by_cases hq : q = place
  · exact ⟨content, h.locate hholds.located, by rw [hq, h.get?_self]⟩
  · exact ⟨old, h.locate hholds.located, by rw [h.get?, if_neg hq, hholds.held]⟩

/-- A file that is edited gets its new content. -/
theorem written_of_edit {f : ByteArray → ByteArray} (h : (edit path f).run t = .ok () t') :
    ∃ place old, t.open? path = .ok (place, old) ∧ Written place (f old) t t' ∧
      t'.Holds path place (f old) := by
  rw [run_edit] at h
  cases hopen : t.open? path with
  | error e =>
    rw [hopen] at h
    cases h
  | ok found =>
    obtain ⟨place, old⟩ := found
    rw [hopen] at h
    cases h
    obtain ⟨hlocate, hheld, -⟩ := open?_eq_ok hopen
    have hwritten : Written place (f old) t (t.set place (.file (f old))) :=
      .set (by rcases hheld with h | ⟨h, -⟩ <;> simp [h])
    exact ⟨place, old, rfl, hwritten, hwritten.locate hlocate, hwritten.get?_self⟩

/-- **What was written is read back.** -/
theorem read_of_write (h : (write path content).run t = .ok () t') :
    t'.read path = .ok content := by
  obtain ⟨place, old, hopen, -, hholds⟩ := written_of_edit h
  exact hholds.read (open?_eq_ok hopen).2.2

/-- The output of a command is read back. -/
theorem read_of_output {text : String} (h : (output path text).run t = .ok () t') :
    t'.read path = .ok text.toUTF8 := by
  obtain ⟨-, m, -, hwrite⟩ := run_bind_eq_ok_iff.1 h
  exact read_of_write (run_adaptExcept_eq_ok_iff.1 hwrite)

/-- What stops an output is not a failure of jobs or parameters. -/
theorem output_ne_failure {text : String} {f : Failure} :
    (output path text).run t ≠ .error (.failure f) t' := by
  intro h
  rcases run_bind_eq_error_iff.1 h with h | ⟨-, m, -, h⟩
  · unfold makeParent at h
    split at h
    · obtain ⟨e, -, he⟩ := run_adaptExcept_eq_error_iff.1 h
      cases he
    · cases h
  · obtain ⟨e, -, he⟩ := run_adaptExcept_eq_error_iff.1 h
    cases he

/-! ### Files with another content -/

/-- A file has another content, and all else is as it was. -/
structure OnlyFile (place : Location) (t t' : FileTree) : Prop where
  current : t'.current = t.current
  kind : ∀ p, (t'.get? p).map FileEntry.isDirectory = (t.get? p).map FileEntry.isDirectory
  other : ∀ p, p ≠ place → t'.get? p = t.get? p

theorem OnlyFile.refl (place : Location) (t : FileTree) : OnlyFile place t t :=
  ⟨rfl, fun _ => rfl, fun _ _ => rfl⟩

theorem OnlyFile.locate (h : OnlyFile place t t') (path : String) :
    t'.locate path = t.locate path := locate_congr h.current h.kind path

/-- A file that is there stays there. -/
theorem OnlyFile.holds (h : OnlyFile place t t') {log : String} (hholds : t.Holds log place old) :
    ∃ content, t'.Holds log place content := by
  have hkind := h.kind place
  rw [hholds.held] at hkind
  have hlocated : t'.locate log = .ok place := (h.locate log).trans hholds.located
  cases hget : t'.get? place with
  | none => simp [hget] at hkind
  | some e =>
    cases e with
    | directory => simp [hget, FileEntry.isDirectory] at hkind
    | file content => exact ⟨content, hlocated, hget⟩

/-- Other files are read as before. -/
theorem OnlyFile.read (h : OnlyFile place t t') (hpath : t.locate path ≠ .ok place) :
    t'.read path = t.read path := by
  have hfind : t'.find path = t.find path := by
    rw [find, find, h.locate]
    cases hlocate : t.locate path with
    | error e => rfl
    | ok q =>
      have hq : q ≠ place := fun hq => hpath (hq ▸ hlocate)
      simp only [ok_bind, h.other q hq]
  rw [FileTree.read, FileTree.read, hfind]

/-- What is put behind a file goes nowhere else. -/
theorem onlyFile_append (h : t.Holds path place old) (more : ByteArray) :
    OnlyFile place t (t.leftBy (append path more)) := by
  rw [leftBy, append, run_edit]
  cases hopen : t.open? path with
  | error e => exact .refl place t
  | ok found =>
    obtain ⟨q, content⟩ := found
    obtain ⟨hlocate, -, -⟩ := open?_eq_ok hopen
    cases hlocate.symm.trans h.located
    have hwritten : Written place (content ++ more) t (t.set place (.file (content ++ more))) :=
      .set (by simp [h.held])
    refine ⟨rfl, fun p => ?_, fun p hp => by rw [hwritten.get?, if_neg hp]⟩
    by_cases hp : p = place
    · rw [hwritten.get?, if_pos hp, hp, h.held]
      rfl
    · rw [hwritten.get?, if_neg hp]

end FileTree

end JobExpansion
