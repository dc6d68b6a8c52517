import JobExpansion.Kind.Document
import JobExpansion.Proofs.Outcome
import JobExpansion.Proofs.Value.Rows
import Mathlib.Data.List.Forall2

/-!
# Forms of kind documents

A document that holds jobs by name, under `jobs` or as its own rows, loads as a list of the jobs
laid over the defaults and named: one job for each entry, in order and each by itself. The first
entry that is no mapping stops it. `parse_named` says so, and that a document that lists the same
jobs loads alike.
-/

namespace JobExpansion.Kind

variable {text origin name : String} {v : Value} {rows jobs : Entries} {defaults : Option Value}
  {entry : String × Value} {j j' : Job} {records : List Job} {failure : Failure}

/-! ### What a document holds -/

/-- A text is the document of a value. A blank text is no document. -/
structure Reads (text : String) (v : Value) : Prop where
  notBlank : Text.isBlankText text = false
  read : Yaml.read text = .ok v

/-- The rows of a document hold jobs by name, and maybe defaults: the jobs are under their key, or,
if that key is not there, in all rows but that of the defaults. -/
inductive Holds (rows : Entries) : Option Value → Entries → Prop where
  | under {jobs : Entries} (h : rows.lookup jobsKey = some (.mapping jobs)) :
      Holds rows (rows.lookup defaultsKey) jobs
  | bare (h : rows.lookup jobsKey = none) :
      Holds rows (rows.lookup defaultsKey) (Entries.erase defaultsKey rows)

/-- A job laid over the defaults, if there are any. -/
def laid : Option Value → Value → Value
  | some base, job => merge base job
  | none, job => job

/-- The job that an entry stands for. It is named by the key of the entry, behind all other fields,
if it has no name of its own. -/
inductive RecordOf (defaults : Option Value) : String × Value → Job → Prop where
  | named {name : String} {job : Value} {fields : Entries} (h : laid defaults job = .mapping fields)
      (hn : Field.testName ∈ fields.keys) : RecordOf defaults (name, job) ⟨fields⟩
  | unnamed {name : String} {job : Value} {fields : Entries}
      (h : laid defaults job = .mapping fields) (hn : Field.testName ∉ fields.keys) :
      RecordOf defaults (name, job) ⟨fields ++ [(Field.testName, .text name)]⟩

/-- What loading gives for jobs by name: a job for each entry, in order, or, if there is an entry
that is no mapping, nothing but the failure of the first one. -/
inductive Loads (defaults : Option Value) (jobs : Entries) : Except Failure (List Job) → Prop where
  | all {records : List Job} (h : List.Forall₂ (RecordOf defaults) jobs records) :
      Loads defaults jobs (.ok records)
  | stopped {before after : Entries} {name : String} {job : Value}
      (hjobs : jobs = before ++ (name, job) :: after)
      (hbefore : ∀ entry ∈ before, (laid defaults entry.2).tag = .mapping)
      (hjob : (laid defaults job).tag ≠ .mapping) :
      Loads defaults jobs
        (.error ⟨.jobNotMapping (laid defaults job).tag, none, some name, none, none⟩)

/-! ### One entry -/

theorem setDefault_testName (name : String) (fields : Entries) :
    Job.setDefault Field.testName (.text name) ⟨fields⟩ =
      if Field.testName ∈ fields.keys then ⟨fields⟩
      else ⟨fields ++ [(Field.testName, .text name)]⟩ := by
  simp only [Job.setDefault, Entries.setDefault, Entries.has_iff, apply_ite Job.mk]

theorem recordOf_iff : RecordOf defaults (name, v) j ↔
    ∃ fields, laid defaults v = .mapping fields ∧
      Job.setDefault Field.testName (.text name) ⟨fields⟩ = j := by
  constructor
  · rintro (⟨h, hn⟩ | ⟨h, hn⟩)
    · exact ⟨_, h, by rw [setDefault_testName, if_pos hn]⟩
    · exact ⟨_, h, by rw [setDefault_testName, if_neg hn]⟩
  · rintro ⟨fields, h, rfl⟩
    rw [setDefault_testName]
    split
    · next hn => exact .named h hn
    · next hn => exact .unnamed h hn

theorem ofEntry_eq (defaults : Option Value) (name : String) (v : Value) :
    ofEntry defaults name v =
      ((Job.ofValue (laid defaults v)).mapError (Failure.atField name)).map
        (Job.setDefault Field.testName (.text name)) := by
  cases defaults <;> rfl

theorem ofEntry_eq_ok_iff : ofEntry defaults name v = .ok j ↔ RecordOf defaults (name, v) j := by
  rw [ofEntry_eq, recordOf_iff, map_eq_ok_iff]
  simp only [mapError_eq_ok_iff]
  cases laid defaults v <;> simp [Job.ofValue]

theorem ofEntry_eq_error_iff : ofEntry defaults name v = .error failure ↔
    (laid defaults v).tag ≠ .mapping ∧
      failure = ⟨.jobNotMapping (laid defaults v).tag, none, some name, none, none⟩ := by
  rw [ofEntry_eq, map_eq_error_iff, mapError_eq_error_iff]
  cases laid defaults v <;> simp [Job.ofValue, Value.tag, Failure.atField, eq_comm]

/-- Just a mapping comes to a job. -/
theorem exists_ofEntry_iff :
    (∃ j, ofEntry defaults name v = .ok j) ↔ (laid defaults v).tag = .mapping := by
  cases he : ofEntry defaults name v with
  | ok j =>
    obtain ⟨fields, h, -⟩ := recordOf_iff.1 (ofEntry_eq_ok_iff.1 he)
    rw [h]
    exact ⟨fun _ => rfl, fun _ => ⟨j, rfl⟩⟩
  | error failure => exact ⟨nofun, fun h => absurd h (ofEntry_eq_error_iff.1 he).1⟩

theorem RecordOf.unique (h : RecordOf defaults entry j) (h' : RecordOf defaults entry j') :
    j = j' :=
  Except.ok.inj ((ofEntry_eq_ok_iff.2 h).symm.trans (ofEntry_eq_ok_iff.2 h'))

/-! ### All entries -/

theorem ofEntries_eq_ok_iff : ofEntries defaults jobs = .ok records ↔
    List.Forall₂ (RecordOf defaults) jobs records := by
  induction jobs generalizing records with
  | nil => simp [ofEntries, eq_comm]
  | cons entry jobs ih =>
    obtain ⟨name, v⟩ := entry
    simp only [ofEntries, bind_eq_ok_iff, pure_eq_ok_iff, ofEntry_eq_ok_iff, ih,
      List.forall₂_cons_left_iff]
    constructor
    · rintro ⟨j, hj, rest, hrest, rfl⟩
      exact ⟨j, rest, hj, hrest, rfl⟩
    · rintro ⟨j, rest, hj, hrest, rfl⟩
      exact ⟨j, hj, rest, hrest, rfl⟩

theorem ofEntries_eq_each (defaults : Option Value) (jobs : Entries) :
    ofEntries defaults jobs =
      each (fun entry => (ofEntry defaults entry.1 entry.2).map fun j => [j]) jobs := by
  induction jobs with
  | nil => rfl
  | cons entry jobs ih =>
    obtain ⟨name, v⟩ := entry
    rw [ofEntries, each, ih]
    cases ofEntry defaults name v <;> rfl

theorem ofEntries_eq_error_iff : ofEntries defaults jobs = .error failure ↔
    ∃ before name job after, jobs = before ++ (name, job) :: after ∧
      (∀ entry ∈ before, (laid defaults entry.2).tag = .mapping) ∧
      (laid defaults job).tag ≠ .mapping ∧
      failure = ⟨.jobNotMapping (laid defaults job).tag, none, some name, none, none⟩ := by
  have hbefore (entry : String × Value) :
      (∃ part, (ofEntry defaults entry.1 entry.2).map (fun j => [j]) = .ok part) ↔
        (laid defaults entry.2).tag = .mapping := by
    constructor
    · rintro ⟨_, hpart⟩
      obtain ⟨j, hj, -⟩ := map_eq_ok_iff.1 hpart
      exact exists_ofEntry_iff.1 ⟨j, hj⟩
    · intro h
      obtain ⟨j, hj⟩ : ∃ j, ofEntry defaults entry.1 entry.2 = .ok j := exists_ofEntry_iff.2 h
      exact ⟨[j], map_eq_ok_iff.2 ⟨j, hj, rfl⟩⟩
  simp only [ofEntries_eq_each, each_eq_error_iff, hbefore, map_eq_error_iff,
    ofEntry_eq_error_iff, Prod.exists]

theorem ofEntries_eq_iff {outcome : Except Failure (List Job)} :
    ofEntries defaults jobs = outcome ↔ Loads defaults jobs outcome := by
  constructor
  · rintro rfl
    cases h : ofEntries defaults jobs with
    | ok records => exact .all (ofEntries_eq_ok_iff.1 h)
    | error failure =>
      obtain ⟨before, name, job, after, hjobs, hbefore, hjob, rfl⟩ := ofEntries_eq_error_iff.1 h
      exact .stopped hjobs hbefore hjob
  · rintro (h | ⟨hjobs, hbefore, hjob⟩)
    · exact ofEntries_eq_ok_iff.2 h
    · exact ofEntries_eq_error_iff.2 ⟨_, _, _, _, hjobs, hbefore, hjob, rfl⟩

/-! ### Whole documents -/

theorem parse_of_reads (h : Reads text v) (origin : String) :
    parse text origin = ofValue origin v := by
  rw [parse, h.notBlank, h.read]
  rfl

theorem lookup_jobsKey (rows : Entries) :
    (Entries.erase defaultsKey rows).lookup jobsKey = rows.lookup jobsKey := by
  rw [Entries.lookup_erase, if_neg (by decide)]

/-- Either form comes down to its entries. -/
theorem parse_of_holds (h : Reads text (.mapping rows)) (hjobs : Holds rows defaults jobs)
    (origin : String) : parse text origin = ofEntries defaults jobs := by
  rw [parse_of_reads h]
  cases hjobs with
  | under hlookup => simp only [ofValue, lookup_jobsKey, hlookup]
  | bare hlookup => simp only [ofValue, lookup_jobsKey, hlookup]

theorem parse_of_jobs_not_mapping (h : Reads text (.mapping rows))
    (hlookup : rows.lookup jobsKey = some v) (hv : v.tag ≠ .mapping) (origin : String) :
    parse text origin = .error ⟨.jobsNotMapping origin v.tag, none, some jobsKey, none, none⟩ := by
  rw [parse_of_reads h]
  cases v with
  | mapping => exact absurd rfl hv
  | _ =>
    simp only [ofValue, lookup_jobsKey, hlookup]
    rfl

theorem ofItems_values (i : Nat) (records : List Job) :
    ofItems i (records.map Job.value) = .ok records := by
  induction records generalizing i with
  | nil => rfl
  | cons j records ih =>
    rw [List.map_cons, ofItems, ih]
    rfl

/-- A list of the values of jobs stands for these jobs. -/
theorem ofValue_values (origin : String) (records : List Job) :
    ofValue origin (.list (records.map Job.value)) = .ok records := ofItems_values 0 records

/-- **Jobs by name load one by one, in either form.**  A document that holds jobs by name, and maybe
defaults, gives just what `Loads` says of these: one job for each entry, in the order of the
document, or the failure of the first entry that is no mapping, which is told by its key. So every
other document that holds the same gives the same, and so does one that lists the jobs that came
out; and an entry comes to the same job in every document with the same defaults, whatever else it
holds. What stands under `jobs` and is no mapping stops the document as well. -/
theorem parse_named {text : String} {rows : Entries} (hdoc : Reads text (.mapping rows))
    (origin : String) :
    (∀ defaults jobs, Holds rows defaults jobs →
      (∀ outcome, parse text origin = outcome ↔ Loads defaults jobs outcome) ∧
      (∀ other origin' rows', Reads other (.mapping rows') → Holds rows' defaults jobs →
        parse other origin' = parse text origin) ∧
      ∀ records, parse text origin = .ok records →
        (∀ origin', ofValue origin' (.list (records.map Job.value)) = parse text origin ∧
          ∀ listed, Reads listed (.list (records.map Job.value)) →
            parse listed origin' = parse text origin) ∧
        ∀ other origin' rows' jobs' records', Reads other (.mapping rows') →
          Holds rows' defaults jobs' → parse other origin' = .ok records' →
            ∀ entry j j', (entry, j) ∈ jobs.zip records → (entry, j') ∈ jobs'.zip records' →
              j = j') ∧
    ∀ v, rows.lookup jobsKey = some v → v.tag ≠ .mapping →
      parse text origin = .error ⟨.jobsNotMapping origin v.tag, none, some jobsKey, none, none⟩ := by
  refine ⟨fun defaults jobs hjobs => ⟨fun outcome => ?_, ?_, fun records hrecords => ⟨?_, ?_⟩⟩,
    fun v hlookup hv => parse_of_jobs_not_mapping hdoc hlookup hv origin⟩
  · rw [parse_of_holds hdoc hjobs, ofEntries_eq_iff]
  · intro other origin' rows' hother hjobs'
    rw [parse_of_holds hother hjobs', parse_of_holds hdoc hjobs]
  · intro origin'
    rw [hrecords]
    refine ⟨ofValue_values origin' records, fun listed hlisted => ?_⟩
    rw [parse_of_reads hlisted, ofValue_values]
  · intro other origin' rows' jobs' records' hother hjobs' hrecords' entry j j' hj hj'
    rw [parse_of_holds hdoc hjobs, ofEntries_eq_ok_iff] at hrecords
    rw [parse_of_holds hother hjobs', ofEntries_eq_ok_iff] at hrecords'
    exact (List.forall₂_zip hrecords hj).unique (List.forall₂_zip hrecords' hj')

/-- What the jobs below hold unless they say otherwise. -/
def usualJob : Value := .mapping [("words", .list [.text "a"])]

/-- An entry without a name of its own. -/
def plainEntry : String × Value := ("one", .mapping [("words", .list [.text "b"])])

/-- An entry with a name of its own. -/
def namedEntry : String × Value := ("two", .mapping [("test-name", .text "t")])

/-- The job of the entry without a name. -/
def plainJob : Job := ⟨[("words", .list [.text "a", .text "b"]), ("test-name", .text "one")]⟩

/-- The job of the entry with a name. -/
def namedJob : Job := ⟨[("words", .list [.text "a"]), ("test-name", .text "t")]⟩

/-- Both jobs under a key of their own. -/
def nestedText : String := "job-defaults:\n  words: [a]\n" ++
  "jobs:\n  one:\n    words: [b]\n  two:\n    test-name: t\n"

/-- Both jobs as rows of the document, around the defaults. -/
def bareText : String :=
  "one:\n  words: [b]\njob-defaults:\n  words: [a]\ntwo:\n  test-name: t\n"

/-- One of the jobs alone. -/
def aloneText : String := "job-defaults:\n  words: [a]\ntwo:\n  test-name: t\n"

/-- A list of both jobs as they come out. -/
def listedText : String := "- words: [a, b]\n  test-name: one\n- words: [a]\n  test-name: t\n"

theorem parse_plainAndNamed :
    parse nestedText "kind.yml" = .ok [plainJob, namedJob] ∧
    parse bareText "bare.yml" = parse nestedText "kind.yml" ∧
    parse listedText "list.yml" = parse nestedText "kind.yml" ∧
    (parse aloneText "alone.yml" = .ok [namedJob] ∧
      ∀ j, (namedEntry, j) ∈ [plainEntry, namedEntry].zip [plainJob, namedJob] → j = namedJob) ∧
    parse "jobs: [one]" "kind.yml" =
      .error ⟨.jobsNotMapping "kind.yml" .list, none, some "jobs", none, none⟩ := by
  have hnested : Reads nestedText
      (.mapping [("job-defaults", usualJob), ("jobs", .mapping [plainEntry, namedEntry])]) :=
    ⟨by decide +kernel, by decide +kernel⟩
  have hbare : Reads bareText
      (.mapping [plainEntry, ("job-defaults", usualJob), namedEntry]) :=
    ⟨by decide +kernel, by decide +kernel⟩
  have halone : Reads aloneText (.mapping [("job-defaults", usualJob), namedEntry]) :=
    ⟨by decide +kernel, by decide +kernel⟩
  have hlisted : Reads listedText (.list ([plainJob, namedJob].map Job.value)) :=
    ⟨by decide +kernel, by decide +kernel⟩
  have hmalformed : Reads "jobs: [one]" (.mapping [("jobs", .list [.text "one"])]) :=
    ⟨by decide +kernel, by decide +kernel⟩
  have hfields : laid (some usualJob) plainEntry.2 =
      .mapping [("words", .list [.text "a", .text "b"])] := by decide +kernel
  have hplain : RecordOf (some usualJob) plainEntry plainJob := .unnamed hfields (by decide)
  have hnamed : RecordOf (some usualJob) namedEntry namedJob :=
    .named (by decide +kernel) (by decide)
  have hholds : Holds [("job-defaults", usualJob), namedEntry] (some usualJob) [namedEntry] :=
    .bare rfl
  obtain ⟨hloads, hforms, hlist⟩ := (parse_named hnested "kind.yml").1 _ _ (.under rfl)
  have hok : parse nestedText "kind.yml" = .ok [plainJob, namedJob] :=
    (hloads _).2 (.all (.cons hplain (.cons hnamed .nil)))
  have hone : parse aloneText "alone.yml" = .ok [namedJob] :=
    (((parse_named halone "alone.yml").1 _ _ hholds).1 _).2 (.all (.cons hnamed .nil))
  obtain ⟨hvalues, halike⟩ := hlist _ hok
  refine ⟨hok, hforms bareText "bare.yml" _ hbare (.bare rfl),
    (hvalues "list.yml").2 listedText hlisted, ⟨hone, fun j hj => ?_⟩, ?_⟩
  · exact halike aloneText "alone.yml" _ _ _ halone hholds hone namedEntry j namedJob hj
      List.mem_cons_self
  · exact (parse_named hmalformed "kind.yml").2 (.list [.text "one"]) rfl (by decide)

end JobExpansion.Kind
