import JobExpansion.Proofs.Command.Opening
import JobExpansion.Proofs.Text.Parts

/-!
# What a run of an expansion leaves behind

Apart from the lines of the log, the standard output and the files have nothing of an expansion that
stops before its output, and all of one that gets through (`expand_is_all_or_nothing`). The log may
be shown on the standard output, and its file may stand where the output is to go.
-/

namespace JobExpansion

namespace Command

open Log (Clock Entry Journal Remark Sinks)

variable {args : ExpandArguments} {files : FileTree} {env : Environment} {current path : String}
  {p : Parameters} {js made : List Job} {f : Failure} {q : Problem} {c : Command} {clock : Clock}
  {before m : Session} {sinks : Option Sinks}

/-! ### The log of a run -/

/-- The lines of entries on the standard output. -/
def linesOnStdout (sinks : Option Sinks) (es : List Entry) : String :=
  String.join (es.map fun e => (sinks.map (·.shown .stdout e)).getD "")

/-- A log that is not shown on the standard output leaves nothing there. -/
theorem linesOnStdout_eq_empty {sinks : Option Sinks} (h : ∀ s ∈ sinks, s.console ≠ .stdout)
    (es : List Entry) : linesOnStdout sinks es = "" := by
  have hshown (e : Entry) : (sinks.map (·.shown .stdout e)).getD "" = "" := by
    cases sinks with
    | none => rfl
    | some s => simp [Sinks.shown, h s rfl]
  rw [linesOnStdout, funext hshown]
  induction es with
  | nil => rfl
  | cons e es ih => simpa using ih

/-- Without a log file entries leave the files alone. -/
theorem filesWithLog_eq {sinks : Option Sinks} (h : ∀ s ∈ sinks, s.file = none)
    (es : List Entry) (files : FileTree) : filesWithLog sinks es files = files := by
  have hrecord (e : Entry) : Log.record sinks e files = files := by
    cases sinks with
    | none => rfl
    | some s => simp [Log.record, Sinks.record, h s rfl]
  induction es with
  | nil => rfl
  | cons e es ih =>
    rw [filesWithLog, List.foldl_cons, hrecord]
    exact ih

/-! ### Transcripts -/

/-- The entry of an event. -/
def Event.entry? : Event → Option Entry
  | .remark e => some e
  | _ => none

/-- A run that ends with some events after the entries of its log. -/
theorem outcome_of_events {t : Transcript} {before after : List Event} {es : List Entry}
    (hevents : t.events = before ++ es.map .remark ++ after)
    (hbefore : before = [] ∨ ∃ trouble, before = [.noLog trouble])
    (hafter : after.filterMap Event.entry? = []) :
    t.entries = es ∧ t.outcome.stdout =
      linesOnStdout t.sinks es ++ String.join (after.map (Transcript.onStdout t.sinks)) := by
  have hentries (es : List Entry) : (es.map Event.remark).filterMap Event.entry? = es := by
    rw [List.filterMap_map]
    exact List.filterMap_some
  have hnone : before.filterMap Event.entry? = [] ∧
      String.join (before.map (Transcript.onStdout t.sinks)) = "" := by
    rcases hbefore with rfl | ⟨trouble, rfl⟩ <;> exact ⟨rfl, rfl⟩
  constructor
  · change t.events.filterMap Event.entry? = es
    rw [hevents, List.filterMap_append, List.filterMap_append, hnone.1, hentries, hafter]
    simp
  · rw [Transcript.outcome, hevents]
    simp only [List.map_append, String.join_append, hnone.2, List.map_map]
    simp [linesOnStdout, Function.comp_def, Transcript.onStdout]

theorem transcript_of_ok (hbegin : begin files env current c = (sinks, before))
    (h : (c.act env ⟨sinks, clock⟩).run before = .ok () m) :
    c.transcript files env current clock = ⟨m.events, sinks, m.files, none, 0⟩ := by
  unfold transcript
  simp only [hbegin, h]

theorem transcript_of_error (hbegin : begin files env current c = (sinks, before))
    (h : (c.act env ⟨sinks, clock⟩).run before = .error q m) :
    c.transcript files env current clock =
      ⟨(m.stop ⟨sinks, clock⟩ q).events, sinks, (m.stop ⟨sinks, clock⟩ q).files, some q, 1⟩ := by
  unfold transcript
  simp only [hbegin, h]

theorem problem_eq_some_iff (hbegin : begin files env current c = (sinks, before)) :
    (c.transcript files env current clock).problem = some q ↔
      ∃ m, (c.act env ⟨sinks, clock⟩).run before = .error q m := by
  cases h : (c.act env ⟨sinks, clock⟩).run before with
  | ok u m => simp [transcript_of_ok hbegin h]
  | error q' m => simp [transcript_of_error hbegin h]

theorem exitCode_eq_zero_iff (hbegin : begin files env current c = (sinks, before)) :
    (c.transcript files env current clock).outcome.exitCode = 0 ↔
      ∃ m, (c.act env ⟨sinks, clock⟩).run before = .ok () m := by
  cases h : (c.act env ⟨sinks, clock⟩).run before with
  | ok u m => simp [transcript_of_ok hbegin h, Transcript.outcome]
  | error q' m => simp [transcript_of_error hbegin h, Transcript.outcome]

/-- A run that stops says so in the log, and then reports it. -/
theorem stop_logged (journal : Journal) (es : List Entry) (q : Problem) (s : Session) :
    ∃ e, (s.logged journal es).stop journal q =
      ⟨s.events ++ (es ++ [e]).map .remark ++ [.report q],
        filesWithLog journal.sinks (es ++ [e]) s.files⟩ := by
  refine ⟨(s.logged journal es).entry journal (.stopped q), ?_⟩
  rw [Session.stop, Session.say_eq, Session.logged_append, Session.logged_eq]
  rfl

/-! ### All or nothing -/

/-- An expansion that fails leaves the lines of its log. -/
theorem outcome_of_failure
    (h : (Command.transcript files env current clock (.expand args)).problem =
      some (.failure f)) :
    let log := opened files env current (.expand args)
    let t := Command.transcript files env current clock (.expand args)
    t.outcome.stdout = linesOnStdout log.1 t.entries ∧
      t.outcome.files = filesWithLog log.1 t.entries log.2 ∧ t.outcome.exitCode = 1 := by
  intro log t
  rcases hbegin : begin files env current (.expand args) with ⟨sinks, before⟩
  have hlog : log = (sinks, before.files) := by simp only [log, opened, hbegin]
  have hbefore := begin_events files env current (.expand args)
  rw [hbegin] at hbefore
  obtain ⟨m, hrun⟩ := (problem_eq_some_iff hbegin).1 h
  obtain ⟨-, es, rfl⟩ := logged_of_makeJobs_error (runExpand_eq_failure_iff.1 hrun)
  obtain ⟨e, hstop⟩ := stop_logged ⟨sinks, clock⟩ es (.failure f) before
  have ht : t = _ := transcript_of_error hbegin hrun
  rw [hstop] at ht
  obtain ⟨hentries, hstdout⟩ := outcome_of_events (t := t) (by rw [ht]) hbefore rfl
  have hsinks : t.sinks = sinks := by rw [ht]
  rw [hentries, hlog, hstdout, hsinks]
  refine ⟨?_, ?_, ?_⟩
  · simp [Transcript.onStdout]
  · rw [ht]
    rfl
  · rw [ht]
    rfl

/-- An expansion has parameters and jobs and gets all of them through the stages. The kind file is
read as it was when the log was opened, unless it is the log file and has entries by then. -/
structure Expands (args : ExpandArguments) (log : Option Sinks × FileTree) (env : Environment)
    (p : Parameters) (js made : List Job) : Prop where
  resolves : args.resolve log.2 env = .ok p
  loads : ∃ es, Kind.load (filesWithLog log.1 es log.2) args.kindFile = .ok js
  loadsApart : LogApart log.1 log.2 args.kindFile → Kind.load log.2 args.kindFile = .ok js
  expands : JobExpansion.expand (args.settings p) js = .ok made

/-- What a run of an expansion leaves when it has some text to put out. An output file has just the
text, unless it is the log file, and the last entry of the log comes after it. -/
def Delivers (args : ExpandArguments) (log : Option Sinks × FileTree) (t : Transcript)
    (text : String) : Prop :=
  match args.output with
  | none => t.outcome.stdout = linesOnStdout log.1 t.entries ++ text ∧
      t.outcome.files = filesWithLog log.1 t.entries log.2
  | some path => t.outcome.stdout = linesOnStdout log.1 t.entries ∧
      (LogApart log.1 t.outcome.files path →
        t.outcome.files.read path = .ok text.toUTF8 ∧
        ∃ es last written, t.entries = es ++ [last] ∧
          (FileTree.output path text).run (filesWithLog log.1 es log.2) = .ok () written ∧
          t.outcome.files = Log.record log.1 last written)

theorem delivers_on_stdout {text : String} {es : List Entry} {t : Transcript}
    (hout : args.output = none) (hbefore : before.events = [] ∨ ∃ trouble,
      before.events = [.noLog trouble])
    (hevents : t.events = before.events ++ es.map .remark ++ [.output text])
    (hfiles : t.files = filesWithLog t.sinks es before.files) :
    Delivers args (t.sinks, before.files) t text := by
  obtain ⟨hentries, hstdout⟩ := outcome_of_events hevents hbefore rfl
  rw [Delivers, hout]
  refine ⟨?_, ?_⟩
  · rw [hstdout, hentries]
    simp [Transcript.onStdout]
  · rw [hentries]
    exact hfiles

theorem delivers_to_file {text : String} {es : List Entry} {e : Entry} {t : Transcript}
    {written : FileTree} (hout : args.output = some path)
    (hbefore : before.events = [] ∨ ∃ trouble, before.events = [.noLog trouble])
    (hopen : LogOpen t.sinks before.files)
    (hevents : t.events = before.events ++ es.map .remark ++ [.remark e])
    (hwritten : (FileTree.output path text).run (filesWithLog t.sinks es before.files) =
      .ok () written) (hfiles : t.files = Log.record t.sinks e written) :
    Delivers args (t.sinks, before.files) t text := by
  obtain ⟨hentries, hstdout⟩ := @outcome_of_events t before.events [] (es ++ [e])
    (by simp [hevents]) hbefore rfl
  rw [Delivers, hout]
  refine ⟨?_, fun hapart => ⟨?_, es, e, written, hentries, hwritten, hfiles⟩⟩
  · rw [hstdout, hentries]
    simp
  · have hrecorded := recorded_record
      (logOpen_output (recorded_filesWithLog hopen es).isOpen hwritten) e
    have hfinal : t.outcome.files = Log.record t.sinks e written := hfiles
    rw [hfinal] at hapart ⊢
    rw [hrecorded.read path (hrecorded.logApart_iff.1 hapart)]
    exact FileTree.read_of_output hwritten

/-- An expansion that succeeds delivers the text of all its jobs. -/
theorem delivers_of_exitCode
    (h : (Command.transcript files env current clock (.expand args)).outcome.exitCode = 0) :
    let log := opened files env current (.expand args)
    ∃ p js made, Expands args log env p js made ∧
      Delivers args log (Command.transcript files env current clock (.expand args))
        (args.text made) := by
  have hopen := (opens files env current (.expand args)).logOpen
  have hbefore := begin_events files env current (.expand args)
  unfold opened at hopen ⊢
  rcases hbegin : begin files env current (.expand args) with ⟨sinks, before⟩
  rw [hbegin] at hbefore hopen
  obtain ⟨m, hrun⟩ := (exitCode_eq_zero_iff hbegin).1 h
  obtain ⟨made, n, hmade, hput⟩ := run_bind_eq_ok_iff.1 hrun
  obtain ⟨p, js, es, hp, hjs, hexpand, rfl⟩ := made_of_makeJobs_ok hmade
  have hloads : ∃ es, Kind.load (filesWithLog sinks es before.files) args.kindFile = .ok js :=
    ⟨[before.entry ⟨sinks, clock⟩ (args.started p)], hjs⟩
  have hapart (h : LogApart sinks before.files args.kindFile) :
      Kind.load before.files args.kindFile = .ok js := (load_begun hopen h).symm.trans hjs
  refine ⟨p, js, made, ⟨hp, hloads, hapart, hexpand⟩, ?_⟩
  rw [transcript_of_ok hbegin hrun]
  cases hout : args.output with
  | none =>
    rw [run_putOut_of_none hout] at hput
    cases hput
    rw [Session.logged_eq]
    exact delivers_on_stdout hout hbefore rfl rfl
  | some path =>
    rw [run_putOut_of_some hout, Session.logged_eq] at hput
    cases hwritten : (FileTree.output path (args.text made)).run
        (filesWithLog sinks es before.files) with
    | error q written =>
      rw [hwritten] at hput
      cases hput
    | ok u written =>
      rw [hwritten] at hput
      cases hput
      exact delivers_to_file hout hbefore hopen rfl hwritten rfl

/-- A check and an expansion of one kind file start with the same log. -/
theorem begin_validate : begin files env current (.validate args.kindFile) =
    begin files env current (.expand args) := by
  have hworkspace : workspace current (.validate args.kindFile) =
      workspace current (.expand args) := by
    unfold workspace
    dsimp only
  unfold begin
  rw [hworkspace]

/-- An expansion whose log is not its kind file stops at the failures before its output. -/
theorem problem_eq_failure_iff
    (hapart : LogApart (opened files env current (.expand args)).1
      (opened files env current (.expand args)).2 args.kindFile) :
    (Command.transcript files env current clock (.expand args)).problem = some (.failure f) ↔
      Stops args (opened files env current (.expand args)).2 env f := by
  have hopen := (opens files env current (.expand args)).logOpen
  unfold opened at hopen hapart ⊢
  rcases hbegin : begin files env current (.expand args) with ⟨sinks, before⟩
  rw [hbegin] at hopen hapart
  have hstops := @makeJobs_eq_failure_iff args env f ⟨sinks, clock⟩ before hopen hapart
  rw [problem_eq_some_iff hbegin, ← hstops]
  exact exists_congr fun _ => runExpand_eq_failure_iff

/-- **The commands agree.**  A check fails exactly when an expansion fails early, and they report
the same but for the stage. -/
theorem validate_agrees {clock' : Clock}
    (hapart : LogApart (opened files env current (.expand args)).1
      (opened files env current (.expand args)).2 args.kindFile)
    (hp : args.resolve (opened files env current (.expand args)).2 env = .ok p) :
    let log := opened files env current (.expand args)
    let checked := Command.transcript files env current clock' (.validate args.kindFile)
    let t := Command.transcript files env current clock (.expand args)
    ((∃ q, checked.problem = some q) ↔ ∃ f, FailsEarly args log.2 t.problem f) ∧
      ∀ q f, checked.problem = some q → FailsEarly args log.2 t.problem f →
        q.report = (Problem.failure f).report.withoutStage := by
  intro log checked t
  have hchecked (q : Problem) : checked.problem = some q ↔ ∃ f,
      FailsEarly args log.2 t.problem f ∧ q = .failure { f with stage := none } := by
    simp only [FailsEarly, t, problem_eq_failure_iff hapart]
    simp only [opened] at hp
    rcases hbegin : begin files env current (.expand args) with ⟨sinks, before⟩
    rw [hbegin] at hp
    simp only [log, opened, hbegin]
    rw [problem_eq_some_iff (begin_validate.trans hbegin)]
    exact runValidate_eq_error_iff_stops hp
  refine ⟨⟨?_, ?_⟩, fun q f hq hf => ?_⟩
  · rintro ⟨q, hq⟩
    obtain ⟨f, hf, -⟩ := (hchecked q).1 hq
    exact ⟨f, hf⟩
  · rintro ⟨f, hf⟩
    exact ⟨_, (hchecked _).2 ⟨f, hf, rfl⟩⟩
  · obtain ⟨g, hg, rfl⟩ := (hchecked q).1 hq
    cases hf.1.symm.trans hg.1
    exact (report_withoutStage f).symm

/-- **The commands agree, and an expansion is all or nothing.**  With parameters, a check of a kind
file fails exactly when an expansion fails at the kind file or at the schema, and they report the
same but for the stage. An expansion that fails in its parameters, at the kind file or in a stage
leaves nothing but the lines of its log; but for these, and for directories made for the log file,
there is nothing on the standard output and no file is changed. One that succeeds delivers the text
of all jobs. A log file that is the kind file itself is left out where it matters what is read, and
one that is the output where it matters what was written. -/
theorem expand_is_all_or_nothing (args : ExpandArguments) (files : FileTree) (env : Environment)
    (current : String) (clock clock' : Clock) :
    let log := opened files env current (.expand args)
    let checked := Command.transcript files env current clock' (.validate args.kindFile)
    let t := Command.transcript files env current clock (.expand args)
    Opens files env (workspace current (.expand args)) log ∧
    (LogApart log.1 log.2 args.kindFile →
      (∀ f, t.problem = some (.failure f) ↔ Stops args log.2 env f) ∧
      ∀ p, args.resolve log.2 env = .ok p →
        ((∃ q, checked.problem = some q) ↔ ∃ f, FailsEarly args log.2 t.problem f) ∧
        ∀ q f, checked.problem = some q → FailsEarly args log.2 t.problem f →
          q.report = (Problem.failure f).report.withoutStage) ∧
    (∀ f, t.problem = some (.failure f) →
      (t.outcome.stdout = linesOnStdout log.1 t.entries ∧
        t.outcome.files = filesWithLog log.1 t.entries log.2 ∧ t.outcome.exitCode = 1) ∧
      Recorded log.1 log.2 t.outcome.files ∧
      ((∀ s ∈ log.1, s.console ≠ .stdout) → t.outcome.stdout = "") ∧
      ((∀ s ∈ log.1, s.file = none) →
        t.outcome.files = log.2 ∧ (log.1 ≠ none → t.outcome.files = files))) ∧
    (t.outcome.exitCode = 0 → ∃ p js made, Expands args log env p js made ∧
      Delivers args log t (args.format.write (.list (made.map Job.value)))) := by
  intro log checked t
  have hopens := opens files env current (.expand args)
  refine ⟨hopens, fun hapart => ⟨fun f => problem_eq_failure_iff hapart, fun p hp =>
    validate_agrees hapart hp⟩, fun f hf => ?_, delivers_of_exitCode⟩
  obtain ⟨hstdout, hfiles, hexit⟩ := outcome_of_failure hf
  refine ⟨⟨hstdout, hfiles, hexit⟩, ?_, fun h => ?_, fun h => ?_⟩
  · rw [hfiles]
    exact recorded_filesWithLog hopens.logOpen t.entries
  · rw [hstdout, linesOnStdout_eq_empty h]
  · have hsame : t.outcome.files = log.2 := by rw [hfiles, filesWithLog_eq h]
    exact ⟨hsame, fun hlog => hsame.trans (hopens.files_eq hlog h)⟩

/-! ### A log in the way -/

deriving instance DecidableEq for FileTree, EStateM.Result

/-- Settings that show the log on the standard output. -/
def loudSettings : String := "[logging]\nconsole_output = \"stdout\"\n"

/-- A directive that lets through what has a code. -/
def loudLevel : String := "[\x7bcode\x7d]"

/-- A workspace with those settings and no kind file. -/
def loudFiles : FileTree where
  current := ["w"]
  rows := [(["w"], .directory), (["w", ".raptor-taskgen"], .directory),
    (["w", ".raptor-taskgen", "logging.toml"], .file loudSettings.toUTF8)]

/-- An environment that asks for that directive and for a log file. -/
def loudEnvironment : Environment :=
  [(Environment.logDirectory, "out"), (Environment.logLevel, loudLevel)]

/-- A clock that stands still. -/
def noon : Clock := fun _ => ⟨"2024-05-01T12:00:00.000000Z", "2024-05-01T12:00:00.000000Z"⟩

/-- An expansion whose output is to go where the log file is. -/
def loudArguments : ExpandArguments :=
  { kindFile := "raptor.yml", output := some "out/raptor-taskgen.log" }

/-- Where its remarks go. -/
def loudSinks : Sinks where
  filter := ⟨[⟨none, ["code"], some .trace⟩]⟩
  console := .stdout
  file := some "/w/out/raptor-taskgen.log"

/-- The workspace with the open log file. -/
def loudOpened : FileTree :=
  (loudFiles.set ["w", "out"] .directory).set ["w", "out", "raptor-taskgen.log"]
    (.file ByteArray.empty)

/-- The failure for want of a kind file. -/
def loudFailure : Failure :=
  .ofCause (.kindUnreadable "raptor.yml" "No such file or directory (os error 2)")

theorem read?_code : Log.FieldTest.read? "code" = some ⟨"code", none⟩ := by
  have hsplit : "code".splitOn "=" = ["code"] := Text.splitOn_of_not_mem (c := '=') (by decide)
  rw [Log.FieldTest.read?, hsplit]
  decide

theorem read?_loudLevel :
    Log.Directive.read? loudLevel = some { fields := [⟨"code", none⟩] } := by
  have hchars : Text.trimChars loudLevel.toList =
      ['[', '\x7b', 'c', 'o', 'd', 'e', '\x7d', ']'] := by decide +kernel
  have hspan : Log.Directive.cut? loudLevel 1 1 = some "" := by decide +kernel
  have hfield : Log.Directive.cut? loudLevel 2 6 = some "code" := by decide +kernel
  have hsizes : ['[', '\x7b', 'c', 'o', 'd', 'e', '\x7d', ']'].map Char.utf8Size =
      [1, 1, 1, 1, 1, 1, 1, 1] := by decide
  simp only [List.map_cons, List.map_nil, List.cons.injEq] at hsizes
  simp [Log.Directive.read?, hchars, Log.Directive.readFrom, Log.Directive.step, hspan, hfield,
    Log.Directive.withField, read?_code, Log.Directive.finish, hsizes]

theorem choose?_loudLevel : Log.Filter.choose? none loudLevel = some loudSinks.filter := by
  have hsplit : loudLevel.splitOn "," = [loudLevel] :=
    Text.splitOn_of_not_mem (c := ',') (by decide)
  rw [Log.Filter.choose?, Option.bind_none, Log.Filter.read?, hsplit]
  have hfilter : [loudLevel].filter (· ≠ "") = [loudLevel] := by decide
  rw [hfilter, List.mapM_cons, read?_loudLevel]
  rfl

theorem load_loudFiles :
    Log.Settings.load loudFiles loudEnvironment (some "/w") =
      .ok ⟨some "out", loudLevel, true, some .stdout⟩ := by
  have hexists : loudFiles.exists? (Log.Settings.path "/w") = true := by decide +kernel
  have htext : loudFiles.readText (Log.Settings.path "/w") = .ok loudSettings := by decide +kernel
  have htoml : (Toml.read? loudSettings).bind (Log.Settings.inDocument? {}) =
      some { console := some .stdout } := by decide +kernel
  have hfile : Log.Settings.inFile {} loudFiles (Log.Settings.path "/w") =
      .ok { console := some .stdout } := by
    rw [Log.Settings.inFile, hexists, htext]
    simp only [ok_mapError, ok_bind, htoml]
    rfl
  have henv : Log.Settings.inEnvironment { console := some .stdout } loudEnvironment =
      ⟨some "out", loudLevel, true, some .stdout⟩ := by decide +kernel
  rw [Log.Settings.load, hfile]
  simp only [ok_bind, henv, read?_loudLevel]
  rfl

theorem begin_loudFiles :
    begin loudFiles loudEnvironment "/w" (.expand loudArguments) =
      (some loudSinks, { files := loudOpened }) := by
  have hworkspace : workspace "/w" (.expand loudArguments) = "/w" := by decide +kernel
  have hpath : Log.Settings.logFile ⟨some "out", loudLevel, true, some .stdout⟩ loudEnvironment
      (some "/w") = .ok "/w/out/raptor-taskgen.log" := by decide +kernel
  have hnone : loudEnvironment.lookup Environment.logFilter = none := by decide
  have hplan : Log.plan loudFiles loudEnvironment (some "/w") = .ok loudSinks := by
    rw [Log.plan, load_loudFiles]
    simp only [ok_bind, hnone, choose?_loudLevel, pure_bind, hpath]
    rfl
  have hopen : (Log.openFile "/w/out/raptor-taskgen.log").run loudFiles = .ok () loudOpened := by
    decide +kernel
  unfold begin
  rw [hworkspace, run_openSinks, hplan]
  simp only [loudSinks, hopen]

theorem stops_loudArguments : Stops loudArguments loudOpened loudEnvironment loudFailure :=
  .loading (p := {}) (by decide +kernel) (by decide +kernel)

/-- With its log on the standard output, and a log file where its output is to go, a failed
expansion does leave something in both places. -/
theorem loud_failure :
    let t := Command.transcript loudFiles loudEnvironment "/w" noon (.expand loudArguments)
    Request.ofArguments ["expand", "raptor.yml", "--output", "out/raptor-taskgen.log"] =
      .run (.expand loudArguments) ∧
    Stops loudArguments (opened loudFiles loudEnvironment "/w" (.expand loudArguments)).2
      loudEnvironment loudFailure ∧
    t.problem = some (.failure loudFailure) ∧ t.outcome.exitCode = 1 ∧
    t.outcome.stdout = "2024-05-01T12:00:00.000000Z ERROR failed to read kind file raptor.yml: " ++
      "No such file or directory (os error 2) code=RAPTOR-LOAD-001\n" ∧
    loudFiles.exists? "out" = false ∧ t.outcome.files.exists? "out/raptor-taskgen.log" = true := by
  intro t
  have hargs : Request.ofArguments
      ["expand", "raptor.yml", "--output", "out/raptor-taskgen.log"] =
        .run (.expand loudArguments) := by decide +kernel
  have hstops : Stops loudArguments (opened loudFiles loudEnvironment "/w"
      (.expand loudArguments)).2 loudEnvironment loudFailure := by
    rw [opened, begin_loudFiles]
    exact stops_loudArguments
  have hrun : (runExpand loudArguments loudEnvironment ⟨some loudSinks, noon⟩).run
      { files := loudOpened } = .error (.failure loudFailure)
        (Session.begun loudArguments ⟨some loudSinks, noon⟩ {} { files := loudOpened }) :=
    runExpand_eq_failure_iff.2
      (run_makeJobs_of_load_error (p := {}) (by decide +kernel) (by decide +kernel))
  have ht : t = _ := transcript_of_error begin_loudFiles hrun
  refine ⟨hargs, hstops, ?_⟩
  rw [ht]
  decide +kernel

/-! ### A log elsewhere -/

/-- A workspace without settings, and without a kind file or with an empty one. -/
def quietFiles (kindFile : Option ByteArray) : FileTree where
  current := ["w"]
  rows := (["w"], .directory) :: (kindFile.map fun content =>
    (["w", "raptor.yml"], FileEntry.file content)).toList

/-- An environment that asks for the lines with a code. -/
def quietEnvironment : Environment := [(Environment.logLevel, loudLevel)]

/-- An expansion with its output in a directory that is not there yet. -/
def quietArguments : ExpandArguments := { kindFile := "raptor.yml", output := some "out/jobs.json" }

theorem begin_quietFiles {kindFile : Option ByteArray}
    (hexists : (quietFiles kindFile).exists? (Log.Settings.path "/w") = false) :
    begin (quietFiles kindFile) quietEnvironment "/w" (.expand quietArguments) =
      (some { filter := loudSinks.filter }, { files := quietFiles kindFile }) := by
  have hworkspace : workspace "/w" (.expand quietArguments) = "/w" := by decide +kernel
  have henv : Log.Settings.inEnvironment {} quietEnvironment = { level := loudLevel } := by
    decide +kernel
  have hload : Log.Settings.load (quietFiles kindFile) quietEnvironment (some "/w") =
      .ok { level := loudLevel } := by
    rw [Log.Settings.load, Log.Settings.inFile, hexists]
    simp only [Bool.not_false, if_true, pure_bind, henv, read?_loudLevel]
    rfl
  have hpath : Log.Settings.logFile { level := loudLevel } quietEnvironment (some "/w") =
      .ok "/w/.raptor-taskgen/logs/raptor-taskgen.log" := by decide +kernel
  have hnone : quietEnvironment.lookup Environment.logFilter = none := by decide
  have hplan : Log.plan (quietFiles kindFile) quietEnvironment (some "/w") =
      .ok { filter := loudSinks.filter } := by
    rw [Log.plan, hload]
    simp only [ok_bind, hnone, choose?_loudLevel, pure_bind, hpath]
    rfl
  unfold begin
  rw [hworkspace, run_openSinks, hplan]

theorem quiet_runs :
    let failed := Command.transcript (quietFiles none) quietEnvironment "/w" noon
      (.expand quietArguments)
    let checked := Command.transcript (quietFiles none) quietEnvironment "/w" noon
      (.validate quietArguments.kindFile)
    let log := opened (quietFiles (some ByteArray.empty)) quietEnvironment "/w"
      (.expand quietArguments)
    let done := Command.transcript (quietFiles (some ByteArray.empty)) quietEnvironment "/w" noon
      (.expand quietArguments)
    (∃ q, checked.problem = some q ∧
      q.report = (Problem.failure loudFailure).report.withoutStage) ∧
    (failed.outcome.exitCode = 1 ∧ failed.outcome.stdout = "" ∧
      failed.outcome.files = quietFiles none) ∧
    done.outcome.exitCode = 0 ∧
      ∃ p js made, Expands quietArguments log quietEnvironment p js made ∧
        Delivers quietArguments log done
          (quietArguments.format.write (.list (made.map Job.value))) := by
  intro failed checked log done
  have hbegin := @begin_quietFiles none (by decide +kernel)
  have hopened : opened (quietFiles none) quietEnvironment "/w" (.expand quietArguments) =
      (some { filter := loudSinks.filter }, quietFiles none) := by rw [opened, hbegin]
  have hall := expand_is_all_or_nothing quietArguments (quietFiles none) quietEnvironment "/w"
    noon noon
  simp only [hopened] at hall
  obtain ⟨-, hapart, hfailed, -⟩ := hall
  obtain ⟨-, -, -, hdone⟩ := expand_is_all_or_nothing quietArguments
    (quietFiles (some ByteArray.empty)) quietEnvironment "/w" noon noon
  obtain ⟨hstops, hagree⟩ := hapart (by rintro _ ⟨⟩ _ ⟨⟩)
  have hresolve : quietArguments.resolve (quietFiles none) quietEnvironment = .ok {} := by
    decide +kernel
  have hload : Kind.load (quietFiles none) quietArguments.kindFile = .error loudFailure := by
    decide +kernel
  have hproblem : failed.problem = some (.failure loudFailure) :=
    (hstops loudFailure).2 (.loading hresolve hload)
  obtain ⟨hiff, hreport⟩ := hagree _ hresolve
  obtain ⟨q, hq⟩ := hiff.2 ⟨loudFailure, hproblem, .inl hload⟩
  obtain ⟨⟨-, -, hexit⟩, -, hstdout, hfiles⟩ := hfailed loudFailure hproblem
  have hdoneExit : done.outcome.exitCode = 0 := by
    unfold done Command.transcript
    rw [begin_quietFiles (by decide +kernel)]
    decide +kernel
  exact ⟨⟨q, hq, hreport q _ hq ⟨hproblem, .inl hload⟩⟩,
    ⟨hexit, hstdout (by simp), (hfiles (by simp)).2 nofun⟩, hdoneExit, hdone hdoneExit⟩

end Command

end JobExpansion
