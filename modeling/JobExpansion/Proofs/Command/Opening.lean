import JobExpansion.Command.Run
import JobExpansion.Proofs.Command.Sessions
import JobExpansion.Proofs.Files.Gained

/-!
# Opening the log of a run

A run opens its log before it does anything else. Unless a log file is asked for, that leaves the
files as they were. A log file that is opened is there, with directories on its path; one that
cannot be opened may leave some of the directories (`opens`).
-/

namespace JobExpansion.Command

open Log (Sinks)

variable {files made : FileTree} {env : Environment} {current log directory : String} {c : Command}
  {sinks : Sinks}

/-- Where the remarks of a run go, and the files once its log is open. -/
def opened (files : FileTree) (env : Environment) (current : String) (c : Command) :
    Option Sinks × FileTree :=
  ((begin files env current c).1, (begin files env current c).2.files)

/-- What opening a log does to the files. -/
inductive Opens (files : FileTree) (env : Environment) (workspace : String) :
    Option Sinks × FileTree → Prop where
  /-- There is no log file to be opened. -/
  | still {sinks : Option Sinks} (h : ∀ s ∈ sinks, s.file = none) :
      Opens files env workspace (sinks, files)
  /-- The log file cannot be opened; directories on its path may have been made. -/
  | stuck {sinks : Sinks} {log directory : String} {made : FileTree}
      (hplan : Log.plan files env (some workspace) = .ok sinks) (hlog : sinks.file = some log)
      (hdirectory : Path.parent? log = some directory)
      (h : files.Gained (Path.ancestors directory) made) : Opens files env workspace (none, made)
  /-- The directories on the path of the log file are made, and it is opened at its end. -/
  | opened {sinks : Sinks} {log directory : String} {made files' : FileTree}
      (hplan : Log.plan files env (some workspace) = .ok sinks) (hlog : sinks.file = some log)
      (hdirectory : Path.parent? log = some directory)
      (h : files.Gained (Path.ancestors directory) made)
      (happend : (FileTree.append log ByteArray.empty).run made = .ok () files') :
      Opens files env workspace (some sinks, files')

theorem opens_of_openFile_ok {workspace : String} {files' : FileTree}
    (hplan : Log.plan files env (some workspace) = .ok sinks) (hlog : sinks.file = some log)
    (h : (Log.openFile log).run files = .ok () files') :
    Opens files env workspace (some sinks, files') := by
  unfold Log.openFile at h
  split at h
  · cases h
  · next directory hdirectory =>
    obtain ⟨_, made, hmade, happend⟩ := run_bind_eq_ok_iff.1 h
    have hgained := FileTree.moves_makeDirectories directory files
    rw [run_adaptExcept_eq_ok_iff.1 hmade] at hgained
    exact .opened hplan hlog hdirectory hgained (run_adaptExcept_eq_ok_iff.1 happend)

theorem opens_of_openFile_error {workspace : String} {files' : FileTree} {trouble : Log.Trouble}
    (hplan : Log.plan files env (some workspace) = .ok sinks) (hlog : sinks.file = some log)
    (h : (Log.openFile log).run files = .error trouble files') :
    Opens files env workspace (none, files') := by
  unfold Log.openFile at h
  split at h
  · cases h
    exact .still nofun
  · next directory hdirectory =>
    have hgained := FileTree.moves_makeDirectories directory files
    rcases run_bind_eq_error_iff.1 h with h | ⟨_, made, hmade, happend⟩
    · obtain ⟨e, hmade, -⟩ := run_adaptExcept_eq_error_iff.1 h
      rw [hmade] at hgained
      exact .stuck hplan hlog hdirectory hgained
    · obtain ⟨e, happend, -⟩ := run_adaptExcept_eq_error_iff.1 happend
      cases FileTree.eq_of_edit_error happend
      rw [run_adaptExcept_eq_ok_iff.1 hmade] at hgained
      exact .stuck hplan hlog hdirectory hgained

theorem run_openSinks {workspace : Option String} :
    (Log.openSinks env workspace).run files =
      match Log.plan files env workspace with
      | .error trouble => .error trouble files
      | .ok sinks =>
        match sinks.file with
        | none => .ok sinks files
        | some log =>
          match (Log.openFile log).run files with
          | .ok () files => .ok sinks files
          | .error trouble files => .error trouble files := by
  unfold Log.openSinks
  simp only [EStateM.run_bind, EStateM.run_get]
  cases Log.plan files env workspace with
  | error trouble => rfl
  | ok sinks =>
    obtain ⟨filter, console, file⟩ := sinks
    cases file with
    | none => rfl
    | some log =>
      simp only [EStateM.run_bind]
      cases (Log.openFile log).run files <;> rfl

/-- **Opening the log** does nothing to the files but make a log file that is asked for, and
directories on its path. -/
theorem opens (files : FileTree) (env : Environment) (current : String) (c : Command) :
    Opens files env (workspace current c) (opened files env current c) := by
  unfold opened begin
  rw [run_openSinks]
  cases hplan : Log.plan files env (some (workspace current c)) with
  | error trouble => exact .still nofun
  | ok sinks =>
    cases hlog : sinks.file with
    | none =>
      simp only [hlog]
      refine .still ?_
      rintro _ ⟨⟩
      exact hlog
    | some log =>
      simp only [hlog]
      cases hrun : (Log.openFile log).run files with
      | ok u files' => exact opens_of_openFile_ok hplan hlog hrun
      | error trouble files' => exact opens_of_openFile_error hplan hlog hrun

/-- A log file that was opened is there. -/
theorem Opens.logOpen {workspace : String} {log : Option Sinks × FileTree}
    (h : Opens files env workspace log) : LogOpen log.1 log.2 := by
  cases h with
  | still h =>
    intro s hs log hlog
    cases (h s hs).symm.trans hlog
  | stuck => exact nofun
  | @opened sinks log _ _ _ _ hlog _ _ happend =>
    obtain ⟨place, content, -, -, hholds⟩ := FileTree.written_of_edit happend
    rintro _ ⟨⟩ _ hlog'
    cases hlog.symm.trans hlog'
    exact ⟨place, _, hholds⟩

/-- Without a log file the files are left alone, unless the log could not be opened. -/
theorem Opens.files_eq {workspace : String} {log : Option Sinks × FileTree}
    (h : Opens files env workspace log) (hsome : log.1 ≠ none)
    (hfile : ∀ s ∈ log.1, s.file = none) : log.2 = files := by
  cases h with
  | still => rfl
  | stuck => exact absurd rfl hsome
  | @opened sinks log _ _ _ _ hlog _ _ _ => cases (hfile sinks rfl).symm.trans hlog

/-- Before a run does anything it has at most said that there is no log. -/
theorem begin_events (files : FileTree) (env : Environment) (current : String) (c : Command) :
    (begin files env current c).2.events = [] ∨
      ∃ trouble, (begin files env current c).2.events = [.noLog trouble] := by
  unfold begin
  split
  · exact .inl rfl
  · exact .inr ⟨_, rfl⟩

end JobExpansion.Command
