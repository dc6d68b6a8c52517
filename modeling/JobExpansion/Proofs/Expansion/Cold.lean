import JobExpansion.Proofs.Expansion.Options
import JobExpansion.Proofs.Text.Starts

/-!
# Cold jobs and the harness

The harness learns that it is to load pages cold from the option `--cold` or from a test whose name
ends in `-cold`. `expand_toldCold_iff` says for which records of cold branches it does.
-/

namespace JobExpansion

open Text

/-- An option that tells the harness to load pages cold. -/
def TellsCold (option : String) : Prop :=
  option = "--cold" ∨ ∃ test, option = "--test=" ++ (test ++ App.coldSuffix)

/-- Some option tells the harness to load pages cold. -/
def ToldCold (options : List String) : Prop := ∃ option ∈ options, TellsCold option

theorem toldCold_append {a b : List String} : ToldCold (a ++ b) ↔ ToldCold a ∨ ToldCold b := by
  simp [ToldCold, or_and_right, exists_or]

theorem toldCold_nil : ¬ ToldCold [] := by
  simp [ToldCold]

theorem toldCold_singleton {option : String} : ToldCold [option] ↔ TellsCold option := by
  simp [ToldCold]

/-! ### Options that do not tell -/

theorem TellsCold.startsWith {option : String} (h : TellsCold option) :
    Text.startsWith option "--cold" = true ∨ Text.startsWith option "--test=" = true := by
  rcases h with rfl | ⟨test, rfl⟩
  · exact .inl (by decide)
  · exact .inr (startsWith_append_self _ _)

/-- Options that start in another way do not tell. -/
theorem not_toldCold {p : String} {options : List String}
    (ho : ∀ option ∈ options, Text.startsWith option p = true)
    (hp : ∀ q ∈ ["--cold", "--test="],
      ¬ Text.startsWith p q = true ∧ ¬ Text.startsWith q p = true) :
    ¬ ToldCold options := by
  rintro ⟨option, hmem, ht⟩
  have hs := ho option hmem
  rcases ht.startsWith with hq | hq
  · rcases startsWith_or_startsWith hs hq with h | h
    · exact (hp _ (by simp)).1 h
    · exact (hp _ (by simp)).2 h
  · rcases startsWith_or_startsWith hs hq with h | h
    · exact (hp _ (by simp)).1 h
    · exact (hp _ (by simp)).2 h

theorem not_toldCold_if {c : Prop} [Decidable c] {option : String}
    (hp : ∀ q ∈ ["--cold", "--test="], ¬ Text.startsWith option q = true) :
    ¬ ToldCold (if c then [option] else []) := by
  split
  · rw [toldCold_singleton]
    intro h
    rcases h.startsWith with h | h
    · exact hp _ (by simp) h
    · exact hp _ (by simp) h
  · exact toldCold_nil

namespace Job

variable {j r : Job} {settings : Settings}

theorem startsWith_of_mem_fieldOption {field flag option : String}
    (h : option ∈ j.fieldOption field flag) : Text.startsWith option (flag ++ "=") = true := by
  obtain ⟨v, -, rfl⟩ : ∃ v, j.get? field = some v ∧ flag ++ "=" ++ optionText v = option := by
    simpa [fieldOption] using h
  exact startsWith_append_self _ _

theorem not_toldCold_fieldOption {field flag : String}
    (hp : ∀ q ∈ ["--cold", "--test="],
      ¬ Text.startsWith (flag ++ "=") q = true ∧ ¬ Text.startsWith q (flag ++ "=") = true) :
    ¬ ToldCold (j.fieldOption field flag) :=
  not_toldCold (fun _ => startsWith_of_mem_fieldOption) hp

/-- The test of a job tells by the end of its name. -/
theorem toldCold_test (ht : ∀ v, j.get? Field.raptorTest = some v → ∃ test, v = .text test) :
    ToldCold (j.fieldOption Field.raptorTest "--test") ↔
      ∃ test, j.get? Field.raptorTest = some (.text (test ++ App.coldSuffix)) := by
  cases hv : j.get? Field.raptorTest with
  | none => simp [fieldOption, hv, toldCold_nil]
  | some v =>
    obtain ⟨test, rfl⟩ := ht v hv
    have hopt : j.fieldOption Field.raptorTest "--test" = ["--test=" ++ test] := by
      simp [fieldOption, hv, optionText]
    rw [hopt, toldCold_singleton]
    constructor
    · rintro (h | ⟨base, h⟩)
      · have hs := startsWith_append_self "--test=" test
        rw [h] at hs
        exact absurd hs (by decide)
      · exact ⟨base, by rw [(String.append_right_inj _).1 h]⟩
    · rintro ⟨base, h⟩
      cases h
      exact .inr ⟨base, rfl⟩

/-- What the fields of a job tell about cold. -/
theorem toldCold_harnessOptions
    (ht : ∀ v, j.get? Field.raptorTest = some v → ∃ test, v = .text test) :
    ToldCold (j.harnessOptions settings) ↔
      (j.isBrowsertime = true ∧ j.flag Field.cold = true) ∨
        ∃ test, j.get? Field.raptorTest = some (.text (test ++ App.coldSuffix)) := by
  have hvideo : ¬ ToldCold (if j.flag Field.runVisualMetrics then ["--browsertime-video"]
      else []) := not_toldCold_if (by decide)
  have happ : ¬ ToldCold (j.fieldOption Field.app "--app") := not_toldCold_fieldOption (by decide)
  have hactivity : ¬ ToldCold (j.fieldOption Field.activity "--activity") :=
    not_toldCold_fieldOption (by decide)
  have hpath : ¬ ToldCold (j.fieldOption Field.binaryPath "--binary-path") :=
    not_toldCold_fieldOption (by decide)
  have hbuild : ¬ ToldCold (if j.flag Field.requireSignedExtensions then ["--is-release-build"]
      else []) := not_toldCold_if (by decide)
  have hurl : ¬ ToldCold ((UrlRule.table.filter (·.applies j.testPlatform j.testName
      settings.parameters.project settings.parameters.isTry)).map UrlRule.option) := by
    refine not_toldCold (p := "--test-url-params=") (fun option ho => ?_) (by decide)
    obtain ⟨rule, -, rfl⟩ := List.mem_map.1 ho
    exact startsWith_append_self _ _
  have hcold : ToldCold (if j.isBrowsertime && j.flag Field.cold then ["--cold"] else []) ↔
      j.isBrowsertime = true ∧ j.flag Field.cold = true := by
    rw [← Bool.and_eq_true]
    split
    · next h => simp [h, toldCold_singleton, TellsCold]
    · next h => simp [h, toldCold_nil]
  simp only [harnessOptions, toldCold_append, hvideo, happ, hactivity, hpath, hbuild, hurl, hcold,
    toldCold_test ht, false_or, or_false]

end Job

/-! ### The name of a cold test -/

/-- A name that does not tell a test of the family by its start does not do so with `-cold` at its
end either. -/
theorem startsWith_cold_iff {name rest : String} :
    Text.startsWith (name ++ (App.coldSuffix ++ rest)) Job.browsertimePrefix = true ↔
      Text.startsWith name Job.browsertimePrefix = true := by
  constructor
  · intro h
    rcases exists_of_startsWith_append h with h | ⟨tail, hp, htail⟩
    · exact h
    · -- the start of the family would have to go on with `-c` somewhere
      have hall : ∀ n ∈ Job.browsertimePrefix.toList.inits,
          Job.browsertimePrefix.toList.drop n.length = [] ∨
            ¬ (Job.browsertimePrefix.toList.drop n.length).take 2 <+: ['-', 'c'] := by decide
      have hmem : name.toList ∈ Job.browsertimePrefix.toList.inits :=
        (List.mem_inits _ _).2 ⟨tail, hp.symm⟩
      have hdrop : Job.browsertimePrefix.toList.drop name.toList.length = tail := by
        rw [hp, List.drop_left]
      rw [← hdrop] at htail
      rcases hall _ hmem with hn | hn
      · rw [← hdrop, hn, List.append_nil] at hp
        exact startsWith_iff.2 (hp ▸ List.prefix_rfl)
      · refine absurd (htail.take 2) ?_
        rwa [String.toList_append]
  · exact startsWith_append

/-- The name of a cold test goes on after `-cold`. -/
theorem exists_testName_eq (id : Identity) (isTwin : Bool) (chunk : Option (Nat × String)) :
    ∃ rest, ((id.cold.toProfile isTwin).toChunk chunk).testName =
      id.testName ++ (App.coldSuffix ++ rest) := by
  rw [Identity.toChunk_testName, Identity.toProfile_testName, Identity.cold, String.append_assoc,
    String.append_assoc]
  exact ⟨_, rfl⟩

/-! ### Records of cold branches -/

section ColdBranch

variable {settings : Settings} {b : Branch} {j r : Job} {id : Identity}

namespace Branch.Walk

variable (w : b.Walk settings j r) (hb : b.isCold = true) (hid : w.resolved.Carries id)
include hb hid

/-- The name of the record starts as the name of the job of the app does. -/
theorem startsWith_testName_iff : Text.startsWith r.testName Job.browsertimePrefix = true ↔
    Text.startsWith id.testName Job.browsertimePrefix = true := by
  have hc := w.carries hid
  rw [hb, Identity.toLoad, if_pos rfl] at hc
  obtain ⟨rest, hrest⟩ := exists_testName_eq id b.isTwin b.chunk
  rw [w.testName_eq, Job.testName_of_text hc.testName, hrest, startsWith_cold_iff]

/-- A test of the family has the flag to the end. -/
theorem get?_cold (hfamily : Text.startsWith id.testName Job.browsertimePrefix = true) :
    w.chunk.get? Field.cold = some (.bool true) := by
  have hload : w.resolved.toLoad true = .ok w.loaded := hb ▸ w.toLoad
  obtain ⟨test, -, hloaded⟩ := w.resolved_ready.toLoad_cold hid hload
  rw [Job.get?_toChunk w.profiled_ready w.toChunk (by decide),
    Job.get?_toProfile w.loaded_ready w.toProfile (by decide), hloaded,
    Job.get?_relabel (by decide), Job.get?_set_of_ne (by decide), Job.markCold, if_pos hfamily,
    Job.get?_set_self]

/-- Any other test tells by its own name, unless a subtest takes its place. -/
theorem get?_raptorTest (hfamily : ¬ Text.startsWith id.testName Job.browsertimePrefix = true) :
    ∃ test, w.chunk.get? Field.raptorTest =
      some (.text (b.chunk.elim (test ++ App.coldSuffix) Prod.snd)) := by
  have hload : w.resolved.toLoad true = .ok w.loaded := hb ▸ w.toLoad
  obtain ⟨test, -, hloaded⟩ := w.resolved_ready.toLoad_cold hid hload
  have hprofiled : w.profiled.get? Field.raptorTest = some (.text (test ++ App.coldSuffix)) := by
    rw [Job.get?_toProfile w.loaded_ready w.toProfile (by decide), hloaded,
      Job.get?_relabel (by decide), Job.get?_set_of_ne (by decide), Job.markCold, if_neg hfamily,
      Job.get?_set_self]
    rfl
  obtain ⟨id', hid'⟩ := w.profiled_ready.carries
  refine ⟨test, ?_⟩
  rw [Job.get?_raptorTest_of_toChunk hid' w.toChunk, hprofiled]
  cases b.chunk <;> rfl

end Branch.Walk

/-- The record of a cold branch tells that it is cold if its test is of the family, if it has no
subtest or one whose name does, or if the job has told so itself. -/
theorem toldCold_record (h : j.withDefaults.Ready) (hrec : b.record settings j = .ok r)
    (hb : b.isCold = true) :
    ToldCold r.options ↔ Text.startsWith r.testName Job.browsertimePrefix = true ∨
      (∀ number subtest, b.chunk = some (number, subtest) →
        ∃ base, subtest = base ++ App.coldSuffix) ∨ ToldCold j.options := by
  obtain ⟨w⟩ := Branch.exists_walk h hrec
  obtain ⟨id, hid⟩ := w.resolved_ready.carries
  have htwin : ¬ ToldCold (if b.isTwin = true then [Job.profileOption] else []) :=
    not_toldCold_if (by decide)
  have htext : ∀ v, w.chunk.get? Field.raptorTest = some v → ∃ test, v = .text test :=
    fun v hv => w.chunk_ready.meets.text (by decide) hv
  have hname := w.startsWith_testName_iff hb hid
  rw [w.options_eq, toldCold_append, toldCold_append, Job.toldCold_harnessOptions htext,
    Job.isBrowsertime, ← w.testName_eq, hname]
  by_cases hfamily : Text.startsWith id.testName Job.browsertimePrefix = true
  · simp [hfamily, Job.flag, w.get?_cold hb hid hfamily]
  · obtain ⟨test, htest⟩ := w.get?_raptorTest hb hid hfamily
    rw [htest]
    cases b.chunk with
    | none => simp [hfamily]
    | some c =>
      obtain ⟨number, subtest⟩ := c
      simp [hfamily, htwin, or_comm]

/-- **Which cold jobs are told to run cold.**  In an expansion of one job, the record of a cold
branch tells the harness so exactly if its test is of the `browsertime-tp6` family, or it is no
chunk, or the name of its subtest ends in `-cold`, or the options of the job itself tell it. -/
theorem expand_toldCold_iff {out : List Job} (h : expand settings [j] = .ok out) :
    ∃ bs, j.branches settings = .ok bs ∧ List.Forall₂ (fun b r => b.record settings j = .ok r ∧
      (b.isCold = true → (ToldCold r.options ↔
        Text.startsWith r.testName Job.browsertimePrefix = true ∨
          (∀ number subtest, b.chunk = some (number, subtest) →
            ∃ base, subtest = base ++ App.coldSuffix) ∨ ToldCold j.options))) bs out := by
  obtain ⟨hready, bs, hbs, hall⟩ := branches_of_expand h
  exact ⟨bs, hbs, hall.imp fun b r hr => ⟨hr, toldCold_record hready hr⟩⟩

end ColdBranch

/-- A cold job with a subtest, of no family that is told by a flag. -/
def chunkedSample : Job := ⟨Schema.leastFields ++ [(Field.raptorTest, .text "raptor-tp6m"),
  (Field.pageload, .text "cold"), (Field.raptorSubtests, .list [.text "amazon"])]⟩

/-- What becomes of it: a job that is called cold and runs the subtest as any other job does. -/
def chunkedRecord : Job := ⟨[
  (Field.testName, .text "raptor-tp6m-amazon-cold-amazon"),
  (Field.testPlatform, .text "android-hw-p2"), (Field.requireSignedExtensions, .bool false),
  (Field.symbol, .text "Rap(amazon-c-1)"),
  (Field.description, .text "Raptor tp6m on amazon using cold pageload-amazon"),
  (Field.tryName, .text "raptor-tp6m-amazon-cold-amazon"),
  (Field.maxRunTime, .number (.int 3000)),
  (Field.mozharness, .mapping [(Field.extraOptions, .list [.text "--test=amazon"])])]⟩

theorem not_toldCold_chunkedRecord :
    expand {} [chunkedSample] = .ok [chunkedRecord] ∧
      chunkedSample.branches {} = .ok [⟨none, true, false, some (1, "amazon")⟩] ∧
      ¬ ToldCold chunkedRecord.options := by
  have h : expand {} [chunkedSample] = .ok [chunkedRecord] := by decide +kernel
  have hb : chunkedSample.branches {} = .ok [⟨none, true, false, some (1, "amazon")⟩] := by
    decide +kernel
  obtain ⟨bs, hbs, hall⟩ := expand_toldCold_iff h
  cases hb.symm.trans hbs
  obtain ⟨⟨-, hiff⟩, -⟩ := List.forall₂_cons.1 hall
  refine ⟨h, hb, ?_⟩
  rw [hiff rfl]
  rintro (hfamily | hbase | htold)
  · revert hfamily
    decide
  · obtain ⟨base, hbase⟩ := hbase 1 "amazon" rfl
    have hlast := congrArg (·.toList.getLast?) hbase
    simp [App.coldSuffix, String.toList_append] at hlast
  · exact toldCold_nil htold

end JobExpansion
