import JobExpansion.Command.Session
import JobExpansion.Proofs.Expansion.Independence
import JobExpansion.Proofs.Files.Gained
import JobExpansion.Proofs.Kind.Forms
import JobExpansion.Proofs.Schema.FirstFault

/-!
# Sessions of an expansion and of a check

The session of an expansion in terms of its steps: the parameters, the kind file, the stages and the
output. Nothing but entries of the log comes before all stages are through (`makeJobs_cases`). A
check of a kind file fails exactly when an expansion fails at the kind file or at the schema, and
tells the same but for the stage.
-/

namespace JobExpansion

/-! ### The schema as a stage -/

section Schema

variable {settings : Settings} {js : List Job} {f : Failure}

theorem replaceAll_schema (settings : Settings) (i : Nat) (js : List Job) :
    replaceAll (Stage.schema.replace settings) i js =
      (Schema.validateFrom i js).map fun _ => js := by
  induction js generalizing i with
  | nil => rfl
  | cons j js ih =>
    rw [replaceAll, ih, Schema.validateFrom, Stage.replace]
    cases Schema.validate j with
    | error e => rfl
    | ok u => cases Schema.validateFrom (i + 1) js <;> rfl

/-- The first stage is the check of all jobs. -/
theorem apply_schema (settings : Settings) (js : List Job) :
    Stage.schema.apply settings js = (Schema.validateAll js).map fun _ => js :=
  replaceAll_schema settings 0 js

/-- An expansion fails at the schema just as the check of all jobs does. -/
theorem expand_eq_error_schema_iff :
    expand settings js = .error f ∧ f.stage = some .schema ↔
      ∃ e, Schema.validateAll js = .error e ∧ f = e.inStage .schema := by
  have hall : Stage.all = .schema :: .defaults :: fanStages := rfl
  rw [expand, hall]
  cases hv : Schema.validateAll js with
  | error e =>
    have hs : Stage.schema.apply settings js = .error e := by rw [apply_schema, hv]; rfl
    rw [expandThrough_cons_of_error hs]
    constructor
    · rintro ⟨h, -⟩
      cases h
      exact ⟨e, rfl, rfl⟩
    · rintro ⟨_, h, rfl⟩
      cases h
      exact ⟨rfl, rfl⟩
  | ok u =>
    have hs : Stage.schema.apply settings js = .ok js := by rw [apply_schema, hv]; rfl
    rw [expandThrough_cons_of_ok hs]
    constructor
    · rintro ⟨h, hstage⟩
      obtain ⟨s, hs, hf⟩ := stage_of_expandThrough h
      cases hstage.symm.trans hf
      exact absurd hs (by decide)
    · rintro ⟨e, he, -⟩
      cases he

end Schema

/-! ### Failures outside the stages -/

section Stageless

variable {js : List Job} {f : Failure}

theorem stage_of_validateFrom {i : Nat} (h : Schema.validateFrom i js = .error f) :
    f.stage = none := by
  obtain ⟨before, j, after, e, -, -, he, rfl⟩ := Schema.validateFrom_eq_error_iff.1 h
  obtain ⟨rule, way, fault, -, rfl⟩ := Schema.validate_eq_error_iff.1 he
  rfl

theorem stage_of_ofValue {v : Value} (h : Job.ofValue v = .error f) : f.stage = none := by
  unfold Job.ofValue at h
  split at h <;> cases h
  rfl

theorem stage_of_ofItems {i : Nat} {vs : List Value} (h : Kind.ofItems i vs = .error f) :
    f.stage = none := by
  induction vs generalizing i with
  | nil => cases h
  | cons v vs ih =>
    simp only [Kind.ofItems, bind_eq_error_iff, mapError_eq_error_iff, pure_ne_error, and_false,
      exists_false, or_false] at h
    rcases h with ⟨e, he, rfl⟩ | ⟨-, -, h⟩
    · have hstage : e.stage = none := stage_of_ofValue he
      exact hstage
    · exact ih h

theorem stage_of_ofEntries {defaults : Option Value} {es : Entries}
    (h : Kind.ofEntries defaults es = .error f) : f.stage = none := by
  obtain ⟨_, _, _, _, -, -, -, rfl⟩ := Kind.ofEntries_eq_error_iff.1 h
  rfl

/-- A kind file that cannot be loaded is not the failure of a stage. -/
theorem stage_of_load {files : FileTree} {path : String} (h : Kind.load files path = .error f) :
    f.stage = none := by
  rcases bind_eq_error_iff.1 h with h | ⟨text, -, h⟩
  · obtain ⟨e, -, rfl⟩ := mapError_eq_error_iff.1 h
    rfl
  · unfold Kind.parse at h
    split at h
    · cases h
    · split at h
      · unfold Kind.ofValue at h
        split at h
        · cases h
        · exact stage_of_ofItems h
        · dsimp only at h
          split at h
          · exact stage_of_ofEntries h
          · cases h
            rfl
          · exact stage_of_ofEntries h
        · cases h
          rfl
      · cases h
        rfl

/-- A report that does not tell the stage. -/
def Report.withoutStage (r : Report) : Report :=
  { r with context := r.context.filter fun row => row.1 ≠ "stage" }

theorem report_withoutStage (f : Failure) :
    (Problem.failure f).report.withoutStage =
      (Problem.failure { f with stage := none }).report := by
  obtain ⟨cause, testName, field, index, stage⟩ := f
  cases testName <;> cases field <;> cases index <;> cases stage <;>
    simp [Report.withoutStage, Problem.report, Report.ofFailure, Failure.context]

end Stageless

namespace Command

open Log (Entry Journal Remark Sinks)

variable {args : ExpandArguments} {files : FileTree} {env : Environment} {path : String}
  {p : Parameters} {js made : List Job} {f : Failure} {q : Problem} {journal : Journal}
  {s m : Session}

/-! ### Entries of the log -/

/-- The files with entries in the log file, one after another. -/
def filesWithLog (sinks : Option Sinks) (es : List Entry) (files : FileTree) : FileTree :=
  es.foldl (fun files e => Log.record sinks e files) files

/-- The session after entries of the log, one after another. -/
def Session.logged (journal : Journal) (es : List Entry) (s : Session) : Session :=
  es.foldl (fun s e => s.log journal e) s

theorem Session.logged_append (es es' : List Entry) :
    (s.logged journal es).logged journal es' = s.logged journal (es ++ es') :=
  (List.foldl_append ..).symm

theorem Session.logged_eq (es : List Entry) : s.logged journal es =
    ⟨s.events ++ es.map .remark, filesWithLog journal.sinks es s.files⟩ := by
  induction es generalizing s with
  | nil => simp [logged, filesWithLog]
  | cons e es ih =>
    have hcons : s.logged journal (e :: es) = (s.log journal e).logged journal es := rfl
    rw [hcons, ih]
    simp [Session.log, filesWithLog]

theorem Session.say_eq (r : Remark) : s.say journal r = s.logged journal [s.entry journal r] := rfl

/-- Remarks one after another are entries one after another. -/
theorem run_forM_say (rs : List Remark) :
    ∃ es, (rs.forM (say journal)).run s = .ok () (s.logged journal es) := by
  induction rs generalizing s with
  | nil => exact ⟨[], rfl⟩
  | cons r rs ih =>
    obtain ⟨es, hes⟩ := @ih (s.say journal r)
    rw [Session.say_eq, Session.logged_append] at hes
    exact ⟨_, run_forM_cons_eq_ok_iff.2 ⟨_, rfl, hes⟩⟩

/-! ### Sessions step by step -/

/-- The first remark of an expansion. -/
def ExpandArguments.started (args : ExpandArguments) (p : Parameters) : Remark :=
  .started (args.settings p).kind p.project p.isTry

/-- The session of an expansion that comes to its kind file. -/
def Session.begun (args : ExpandArguments) (journal : Journal) (p : Parameters) (s : Session) :
    Session :=
  s.say journal (args.started p)

/-- An expansion fails before its output: in its parameters, at the kind file or in a stage. -/
inductive Stops (args : ExpandArguments) (files : FileTree) (env : Environment) :
    Failure → Prop where
  | parameters {f : Failure} (h : args.resolve files env = .error f) : Stops args files env f
  | loading {p : Parameters} {f : Failure} (hp : args.resolve files env = .ok p)
      (h : Kind.load files args.kindFile = .error f) : Stops args files env f
  | stage {p : Parameters} {js : List Job} {f : Failure} (hp : args.resolve files env = .ok p)
      (hjs : Kind.load files args.kindFile = .ok js)
      (h : JobExpansion.expand (args.settings p) js = .error f) : Stops args files env f

theorem run_loadJobs : (loadJobs journal path).run s =
    match Kind.load s.files path with
    | .error f => .error (.failure f) s
    | .ok js => .ok js (s.say journal (.loaded path js.length)) := by
  unfold loadJobs
  simp only [EStateM.run_bind, EStateM.run_get]
  cases Kind.load s.files path <;> rfl

theorem run_makeJobs_of_resolve_error (h : args.resolve s.files env = .error f) :
    (makeJobs args env journal).run s = .error (.failure f) s := by
  unfold makeJobs
  simp only [EStateM.run_bind, EStateM.run_get, h]
  rfl

/-- With parameters an expansion comes to its kind file. -/
theorem run_makeJobs_of_resolve_ok (h : args.resolve s.files env = .ok p) :
    (makeJobs args env journal).run s = (do
      let js ← loadJobs journal args.kindFile
      (remarks (args.settings p) js).forM (say journal)
      orStop (JobExpansion.expand (args.settings p) js) : Act (List Job)).run
        (s.begun args journal p) := by
  unfold makeJobs
  simp only [EStateM.run_bind, EStateM.run_get, h]
  rfl

theorem run_makeJobs_of_load_error (hp : args.resolve s.files env = .ok p)
    (h : Kind.load (s.begun args journal p).files args.kindFile = .error f) :
    (makeJobs args env journal).run s = .error (.failure f) (s.begun args journal p) := by
  rw [run_makeJobs_of_resolve_ok hp, EStateM.run_bind, run_loadJobs, h]

/-- With jobs an expansion logs what it says of them before it fails or gets to its output. -/
theorem run_makeJobs_of_load_ok (hp : args.resolve s.files env = .ok p)
    (h : Kind.load (s.begun args journal p).files args.kindFile = .ok js) :
    ∃ es, (makeJobs args env journal).run s =
      match JobExpansion.expand (args.settings p) js with
      | .error f => .error (.failure f) (s.logged journal es)
      | .ok made => .ok made (s.logged journal es) := by
  obtain ⟨es, hes⟩ := @run_forM_say journal
    ((s.begun args journal p).say journal (.loaded args.kindFile js.length))
    (remarks (args.settings p) js)
  obtain ⟨es', hes'⟩ : ∃ es', ((s.begun args journal p).say journal
      (.loaded args.kindFile js.length)).logged journal es = s.logged journal es' := by
    simp only [Session.begun, Session.say_eq, Session.logged_append]
    exact ⟨_, rfl⟩
  refine ⟨es', ?_⟩
  rw [run_makeJobs_of_resolve_ok hp]
  simp only [EStateM.run_bind, run_loadJobs, h, hes, hes']
  cases JobExpansion.expand (args.settings p) js <;> rfl

/-- **The steps up to the output.**  Whether they stop, at the parameters, at the kind file or in a
stage, or get through, there are only more entries in the log. -/
theorem makeJobs_cases (args : ExpandArguments) (env : Environment) (journal : Journal)
    (s : Session) :
    (∃ f, args.resolve s.files env = .error f ∧
      (makeJobs args env journal).run s = .error (.failure f) s) ∨
    ∃ p, args.resolve s.files env = .ok p ∧
      ((∃ f, Kind.load (s.begun args journal p).files args.kindFile = .error f ∧
        (makeJobs args env journal).run s = .error (.failure f) (s.begun args journal p)) ∨
      ∃ js es, Kind.load (s.begun args journal p).files args.kindFile = .ok js ∧
        (makeJobs args env journal).run s =
          match JobExpansion.expand (args.settings p) js with
          | .error f => .error (.failure f) (s.logged journal es)
          | .ok made => .ok made (s.logged journal es)) := by
  cases hp : args.resolve s.files env with
  | error f => exact .inl ⟨f, rfl, run_makeJobs_of_resolve_error hp⟩
  | ok p =>
    cases hload : Kind.load (s.begun args journal p).files args.kindFile with
    | error f => exact .inr ⟨p, rfl, .inl ⟨f, hload, run_makeJobs_of_load_error hp hload⟩⟩
    | ok js =>
      obtain ⟨es, hes⟩ := run_makeJobs_of_load_ok hp hload
      exact .inr ⟨p, rfl, .inr ⟨js, es, hload, hes⟩⟩

/-- An expansion that stops before its output does so at a failure, and has logged only. -/
theorem logged_of_makeJobs_error (h : (makeJobs args env journal).run s = .error q m) :
    (∃ f, q = .failure f) ∧ ∃ es, m = s.logged journal es := by
  rcases makeJobs_cases args env journal s with
    ⟨f, -, hrun⟩ | ⟨p, -, ⟨f, -, hrun⟩ | ⟨js, es, -, hrun⟩⟩ <;> rw [hrun] at h
  · cases h
    exact ⟨⟨f, rfl⟩, [], rfl⟩
  · cases h
    exact ⟨⟨f, rfl⟩, _, Session.say_eq _⟩
  · cases hmade : JobExpansion.expand (args.settings p) js <;> rw [hmade] at h <;> cases h
    exact ⟨⟨_, rfl⟩, es, rfl⟩

/-- An expansion that gets to its output has parameters, jobs and what they expand to. -/
theorem made_of_makeJobs_ok (h : (makeJobs args env journal).run s = .ok made m) :
    ∃ p js es, args.resolve s.files env = .ok p ∧
      Kind.load (s.begun args journal p).files args.kindFile = .ok js ∧
      JobExpansion.expand (args.settings p) js = .ok made ∧ m = s.logged journal es := by
  rcases makeJobs_cases args env journal s with
    ⟨f, -, hrun⟩ | ⟨p, hp, ⟨f, -, hrun⟩ | ⟨js, es, hjs, hrun⟩⟩ <;> rw [hrun] at h
  · cases h
  · cases h
  · cases hmade : JobExpansion.expand (args.settings p) js <;> rw [hmade] at h <;> cases h
    exact ⟨p, js, es, hp, hjs, hmade, rfl⟩

/-! ### The output -/

/-- The text of the output of an expansion. -/
def ExpandArguments.text (args : ExpandArguments) (made : List Job) : String :=
  args.format.write (.list (made.map Job.value))

theorem run_putOut_of_none (h : args.output = none) :
    (putOut args journal made).run s = .ok () (s.tell (.output (args.text made))) := by
  rw [putOut, h]
  rfl

theorem run_putOut_of_some (h : args.output = some path) :
    (putOut args journal made).run s =
      match (FileTree.output path (args.text made)).run s.files with
      | .ok () files =>
        .ok () (({ s with files := files } : Session).say journal (.written path made.length))
      | .error p files => .error p { s with files := files } := by
  have hchange : (change (FileTree.output path (args.text made))).run s =
      match (FileTree.output path (args.text made)).run s.files with
      | .ok () files => .ok () { s with files := files }
      | .error p files => .error p { s with files := files } := rfl
  rw [putOut, h]
  simp only [EStateM.run_bind]
  rw [← ExpandArguments.text, hchange]
  cases (FileTree.output path (args.text made)).run s.files <;> rfl

/-- What is put out comes after all that may fail in the jobs. -/
theorem putOut_ne_failure : (putOut args journal made).run s ≠ .error (.failure f) m := by
  intro h
  cases hout : args.output with
  | none =>
    rw [run_putOut_of_none hout] at h
    cases h
  | some path =>
    rw [run_putOut_of_some hout] at h
    cases hwrite : (FileTree.output path (args.text made)).run s.files with
    | ok u files =>
      rw [hwrite] at h
      cases h
    | error p files =>
      rw [hwrite] at h
      cases h
      exact FileTree.output_ne_failure hwrite

/-- An expansion fails before its output. -/
theorem runExpand_eq_failure_iff : (runExpand args env journal).run s = .error (.failure f) m ↔
    (makeJobs args env journal).run s = .error (.failure f) m := by
  rw [runExpand, run_bind_eq_error_iff]
  refine or_iff_left ?_
  rintro ⟨made, n, -, h⟩
  exact putOut_ne_failure h

/-! ### Log files -/

/-- The log file of a run, if it has one, is there. -/
def LogOpen (sinks : Option Sinks) (files : FileTree) : Prop :=
  ∀ s ∈ sinks, ∀ log ∈ s.file, ∃ place content, files.Holds log place content

/-- The log file of a run, if it has one, is not the file of a path. -/
def LogApart (sinks : Option Sinks) (files : FileTree) (path : String) : Prop :=
  ∀ s ∈ sinks, ∀ log ∈ s.file, files.locate log ≠ files.locate path

/-- Entries of the log leave all other files, and all ways, as they were. -/
structure Recorded (sinks : Option Sinks) (files files' : FileTree) : Prop where
  isOpen : LogOpen sinks files'
  locate : ∀ path, files'.locate path = files.locate path
  read : ∀ path, LogApart sinks files path → files'.read path = files.read path

theorem Recorded.logApart_iff {sinks : Option Sinks} {files' : FileTree}
    (h : Recorded sinks files files') : LogApart sinks files' path ↔ LogApart sinks files path := by
  simp only [LogApart, h.locate]

theorem Recorded.trans {sinks : Option Sinks} {files' files'' : FileTree}
    (h : Recorded sinks files files') (h' : Recorded sinks files' files'') :
    Recorded sinks files files'' where
  isOpen := h'.isOpen
  locate path := (h'.locate path).trans (h.locate path)
  read path hpath := (h'.read path (h.logApart_iff.2 hpath)).trans (h.read path hpath)

theorem recorded_record {sinks : Option Sinks} (h : LogOpen sinks files) (e : Entry) :
    Recorded sinks files (Log.record sinks e files) := by
  cases sinks with
  | none => exact ⟨h, fun _ => rfl, fun _ _ => rfl⟩
  | some s =>
    rw [Log.record, Sinks.record]
    cases hlog : s.file with
    | none => exact ⟨h, fun _ => rfl, fun _ _ => rfl⟩
    | some log =>
      obtain ⟨place, content, hholds⟩ := h s rfl log hlog
      have honly := FileTree.onlyFile_append hholds (s.line e.times.file e.remark).toUTF8
      refine ⟨?_, honly.locate, fun path hpath => honly.read fun hlocate => ?_⟩
      · rintro _ ⟨⟩ _ hlog'
        cases hlog.symm.trans hlog'
        exact ⟨place, honly.holds hholds⟩
      · exact hpath s rfl log hlog (hholds.located.trans hlocate.symm)

theorem recorded_filesWithLog {sinks : Option Sinks} (h : LogOpen sinks files) (es : List Entry) :
    Recorded sinks files (filesWithLog sinks es files) := by
  induction es generalizing files with
  | nil => exact ⟨h, fun _ => rfl, fun _ _ => rfl⟩
  | cons e es ih =>
    have hfirst := recorded_record h e
    exact hfirst.trans (ih hfirst.isOpen)

theorem logOpen_output {sinks : Option Sinks} {text : String} {files' : FileTree}
    (h : LogOpen sinks files) (hrun : (FileTree.output path text).run files = .ok () files') :
    LogOpen sinks files' := by
  intro s hs log hlog
  obtain ⟨place, content, hholds⟩ := h s hs log hlog
  exact ⟨place, hholds.output hrun⟩

/-- A kind file that is not the log file is read as it was when the log was opened. -/
theorem load_begun (hopen : LogOpen journal.sinks s.files)
    (hapart : LogApart journal.sinks s.files path) :
    Kind.load (s.begun args journal p).files path = Kind.load s.files path := by
  have hread : (s.begun args journal p).files.read path = s.files.read path :=
    (recorded_record hopen _).read path hapart
  rw [Kind.load, Kind.load, FileTree.readText, FileTree.readText, hread]

/-- The failures of an expansion before its output. -/
theorem makeJobs_eq_failure_iff (hopen : LogOpen journal.sinks s.files)
    (hapart : LogApart journal.sinks s.files args.kindFile) :
    (∃ m, (makeJobs args env journal).run s = .error (.failure f) m) ↔
      Stops args s.files env f := by
  rcases makeJobs_cases args env journal s with
    ⟨g, hp, hrun⟩ | ⟨p, hp, ⟨g, hload, hrun⟩ | ⟨js, es, hload, hrun⟩⟩
  · rw [hrun]
    constructor
    · rintro ⟨_, ⟨⟩⟩
      exact .parameters hp
    · intro h
      cases h with
      | parameters h =>
        cases hp.symm.trans h
        exact ⟨_, rfl⟩
      | loading hp' _ => cases hp.symm.trans hp'
      | stage hp' _ _ => cases hp.symm.trans hp'
  · rw [hrun]
    rw [load_begun hopen hapart] at hload
    constructor
    · rintro ⟨_, ⟨⟩⟩
      exact .loading hp hload
    · intro h
      cases h with
      | parameters h => cases hp.symm.trans h
      | loading _ h =>
        cases hload.symm.trans h
        exact ⟨_, rfl⟩
      | stage _ hjs _ => cases hload.symm.trans hjs
  · rw [hrun]
    rw [load_begun hopen hapart] at hload
    constructor
    · rintro ⟨m, h⟩
      cases hmade : JobExpansion.expand (args.settings p) js <;> rw [hmade] at h <;> cases h
      exact .stage hp hload hmade
    · intro h
      cases h with
      | parameters h => cases hp.symm.trans h
      | loading _ h => cases hload.symm.trans h
      | stage hp' hjs h =>
        cases hp.symm.trans hp'
        cases hload.symm.trans hjs
        rw [h]
        exact ⟨_, rfl⟩

/-! ### The check of a kind file -/

/-- An expansion fails at the kind file or in the check of the schema. -/
def FailsEarly (args : ExpandArguments) (files : FileTree) (problem : Option Problem)
    (f : Failure) : Prop :=
  problem = some (.failure f) ∧
    (Kind.load files args.kindFile = .error f ∨ f.stage = some .schema)

/-- A check fails at the kind file or at the schema. -/
theorem runValidate_eq_error_iff : (∃ m, (runValidate path journal).run s = .error q m) ↔
    ∃ f, q = .failure f ∧ (Kind.load s.files path = .error f ∨
      ∃ js, Kind.load s.files path = .ok js ∧ Schema.validateAll js = .error f) := by
  simp only [runValidate, EStateM.run_bind, run_loadJobs]
  cases hload : Kind.load s.files path with
  | error f => simp [eq_comm]
  | ok js =>
    cases hv : Schema.validateAll js with
    | error f => simp [hv, orStop, eq_comm]
    | ok u => simp [hv, orStop]

/-- **A check fails as an expansion does early**, but for the stage. -/
theorem runValidate_eq_error_iff_stops (hp : args.resolve s.files env = .ok p) :
    (∃ m, (runValidate args.kindFile journal).run s = .error q m) ↔
      ∃ f, (Stops args s.files env f ∧
        (Kind.load s.files args.kindFile = .error f ∨ f.stage = some .schema)) ∧
        q = .failure { f with stage := none } := by
  rw [runValidate_eq_error_iff]
  constructor
  · rintro ⟨f, rfl, hload | ⟨js, hload, hv⟩⟩
    · have hf : { f with stage := none } = f := by rw [← stage_of_load hload]
      exact ⟨f, ⟨.loading hp hload, .inl hload⟩, by rw [hf]⟩
    · have hf : { f with stage := none } = f := by rw [← stage_of_validateFrom hv]
      obtain ⟨hexpand, hstage⟩ :
          JobExpansion.expand (args.settings p) js = .error (f.inStage .schema) ∧
            (f.inStage .schema).stage = some .schema := expand_eq_error_schema_iff.2 ⟨f, hv, rfl⟩
      exact ⟨f.inStage .schema, ⟨.stage hp hload hexpand, .inr hstage⟩, by rw [← hf]; rfl⟩
  · rintro ⟨f, ⟨hf, hearly⟩, rfl⟩
    cases hf with
    | parameters h => cases hp.symm.trans h
    | loading _ h =>
      have hf : { f with stage := none } = f := by rw [← stage_of_load h]
      exact ⟨f, by rw [hf], .inl h⟩
    | @stage _ js _ hp' h hexpand =>
      have hstage := hearly.resolve_left (by rw [h]; nofun)
      obtain ⟨e, hv, rfl⟩ := expand_eq_error_schema_iff.1 ⟨hexpand, hstage⟩
      have he : { e with stage := none } = e := by rw [← stage_of_validateFrom hv]
      exact ⟨e, by rw [← he]; rfl, .inr ⟨js, h, hv⟩⟩

end Command

end JobExpansion
