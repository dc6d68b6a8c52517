import JobExpansion.Proofs.Expansion.Consumed
import JobExpansion.Proofs.Expansion.Frame
import JobExpansion.Proofs.Text.Starts
import Mathlib.Data.List.ReduceOption

/-!
# Accounts of options

The options that the fields of a job give stand in the order of fixed places: `Job.Gives` says which
option a job gives in which place, if any, and `Lists` that a list has just these, by their places.
`Job.Accounted` is the account of a job that was given its options, every field and row of it, and
`Job.Obstructed` says what stops a job from being given any. By `options_account` the stage of the
options keeps the accounts of all jobs, and stops at the first that is obstructed.
-/

namespace JobExpansion

/-! ### Texts in places -/

section Places

variable {R S : Nat → String → Prop} {texts : List String}

/-- The texts that a relation puts in places, all of them in the order of the places, which hold one
each at most. -/
def Lists (R : Nat → String → Prop) (texts : List String) : Prop :=
  ∃ placed : List (Nat × String), placed.map Prod.snd = texts ∧
    placed.Pairwise (fun a b => a.1 < b.1) ∧ ∀ place text, (place, text) ∈ placed ↔ R place text

theorem Lists.congr (h : Lists R texts) (hRS : ∀ place text, R place text ↔ S place text) :
    Lists S texts := by
  obtain ⟨placed, hmap, hsorted, hmem⟩ := h
  exact ⟨placed, hmap, hsorted, fun place text => (hmem place text).trans (hRS place text)⟩

/-- The texts in a row of slots, of which each is empty or holds one. -/
theorem lists_slots (slots : List (Option String)) :
    Lists (fun place text => slots[place]? = some (some text)) slots.reduceOption := by
  refine ⟨slots.zipIdx.filterMap fun e => e.1.map (e.2, ·), ?_, ?_, fun place text => ?_⟩
  · have hsnd : (fun e : Option String × Nat => (e.1.map (e.2, ·)).map Prod.snd) = Prod.fst := by
      funext e
      cases e.1 <;> rfl
    rw [List.map_filterMap, hsnd, List.reduceOption]
    conv_rhs => rw [← List.zipIdx_map_fst 0 slots, List.filterMap_map]
    rfl
  · -- places grow along the row, and empty slots leave only gaps
    have hplaces : (slots.zipIdx.map Prod.snd).Pairwise (· < ·) := by
      rw [List.zipIdx_map_snd]
      exact List.pairwise_lt_range'
    rw [List.pairwise_filterMap]
    refine (List.pairwise_map.1 hplaces).imp ?_
    rintro ⟨slot, i⟩ ⟨slot', i'⟩ hlt a ha b hb
    obtain ⟨-, -, rfl⟩ := Option.map_eq_some_iff.1 ha
    obtain ⟨-, -, rfl⟩ := Option.map_eq_some_iff.1 hb
    exact hlt
  · simp only [List.mem_filterMap, Prod.exists, List.mk_mem_zipIdx_iff_getElem?,
      Option.map_eq_some_iff, Prod.mk.injEq]
    constructor
    · rintro ⟨_, _, hslot, _, rfl, rfl, rfl⟩
      exact hslot
    · intro hslot
      exact ⟨_, _, hslot, _, rfl, rfl, rfl⟩

theorem reduceOption_map_ite {α β : Type} (p : α → Bool) (g : α → β) (as : List α) :
    (as.map fun a => if p a then some (g a) else none).reduceOption = (as.filter p).map g := by
  induction as with
  | nil => rfl
  | cons a as ih =>
    rw [List.map_cons, List.filter_cons]
    by_cases h : p a = true
    · rw [if_pos h, if_pos h, List.reduceOption_cons_of_some, ih, List.map_cons]
    · rw [if_neg h, if_neg h, List.reduceOption_cons_of_none, ih]

end Places

/-! ### Rules for URL parameters -/

namespace Text

theorem occursIn_iff {part cs : List Char} : occursIn part cs = true ↔ part <:+: cs := by
  induction cs with
  | nil => simp [occursIn]
  | cons c cs ih => simp [occursIn, List.infix_cons_iff, ih]

theorem contains_iff_exists {s part : String} :
    contains s part = true ↔ ∃ before after, s = before ++ part ++ after := by
  rw [contains, occursIn_iff]
  constructor
  · rintro ⟨before, after, h⟩
    refine ⟨String.ofList before, String.ofList after, ?_⟩
    rw [← String.toList_inj]
    simp [← h]
  · rintro ⟨before, after, rfl⟩
    exact ⟨before.toList, after.toList, by simp⟩

end Text

/-- A rule is for a test on a platform, pushed to a project. -/
structure UrlRule.IsFor (rule : UrlRule) (platform testName project : String) (isTry : Bool) :
    Prop where
  onPlatform : ∃ rest, platform = rule.platformPrefix ++ rest
  named : ∃ part ∈ rule.testNames, ∃ before after, testName = before ++ part ++ after
  pushed : rule.branches = [] ∨ project ∈ rule.branches ∨ (isTry = true ∧ "try" ∈ rule.branches)

theorem UrlRule.applies_iff {rule : UrlRule} {platform testName project : String} {isTry : Bool} :
    rule.applies platform testName project isTry = true ↔
      rule.IsFor platform testName project isTry := by
  simp only [applies, Bool.and_eq_true, Bool.or_eq_true, List.any_eq_true, List.isEmpty_iff,
    List.contains_iff_mem, Text.startsWith_iff_exists, Text.contains_iff_exists, or_assoc]
  exact ⟨fun ⟨⟨hp, hn⟩, hb⟩ => ⟨hp, hn, hb⟩, fun ⟨hp, hn, hb⟩ => ⟨⟨hp, hn⟩, hb⟩⟩

namespace Job

variable {settings : Settings} {j m r : Job} {f : Failure} {k : String}

/-! ### The options of a job -/

/-- The test is of the family that is told by a flag to run cold. -/
def InColdFamily (j : Job) : Prop := ∃ rest, j.testName = browsertimePrefix ++ rest

theorem isBrowsertime_iff : j.isBrowsertime = true ↔ j.InColdFamily :=
  Text.startsWith_iff_exists

/-- The option that a job gives in a place. -/
inductive Gives (settings : Settings) (j : Job) : Nat → String → Prop where
  | video (h : j.get? Field.runVisualMetrics = some (.bool true)) :
      Gives settings j 0 "--browsertime-video"
  | app {v : Value} (h : j.get? Field.app = some v) : Gives settings j 1 ("--app=" ++ optionText v)
  | cold (hfamily : j.InColdFamily) (h : j.get? Field.cold = some (.bool true)) :
      Gives settings j 2 "--cold"
  | activity {v : Value} (h : j.get? Field.activity = some v) :
      Gives settings j 3 ("--activity=" ++ optionText v)
  | binaryPath {v : Value} (h : j.get? Field.binaryPath = some v) :
      Gives settings j 4 ("--binary-path=" ++ optionText v)
  | test {v : Value} (h : j.get? Field.raptorTest = some v) :
      Gives settings j 5 ("--test=" ++ optionText v)
  | release (h : j.get? Field.requireSignedExtensions = some (.bool true)) :
      Gives settings j 6 "--is-release-build"
  | url {i : Nat} {rule : UrlRule} (hrule : UrlRule.table[i]? = some rule)
      (h : rule.IsFor j.testPlatform j.testName settings.parameters.project
        settings.parameters.isTry) : Gives settings j (7 + i) rule.option

/-- The slot for the option of a rule. -/
def urlSlot (settings : Settings) (j : Job) (rule : UrlRule) : Option String :=
  if rule.applies j.testPlatform j.testName settings.parameters.project settings.parameters.isTry
    then some rule.option else none

/-- The slots for the options of a job, empty where it gives none. -/
def slots (settings : Settings) (j : Job) : List (Option String) := [
  if j.flag Field.runVisualMetrics then some "--browsertime-video" else none,
  (j.get? Field.app).map fun v => "--app=" ++ optionText v,
  if j.isBrowsertime && j.flag Field.cold then some "--cold" else none,
  (j.get? Field.activity).map fun v => "--activity=" ++ optionText v,
  (j.get? Field.binaryPath).map fun v => "--binary-path=" ++ optionText v,
  (j.get? Field.raptorTest).map fun v => "--test=" ++ optionText v,
  if j.flag Field.requireSignedExtensions then some "--is-release-build" else none] ++
    UrlRule.table.map (j.urlSlot settings)

/-- The slot of a rule, behind those of the fields. -/
theorem getElem?_slots_url (i : Nat) :
    (j.slots settings)[i + 7]? = UrlRule.table[i]?.map (j.urlSlot settings) :=
  List.getElem?_map

theorem flag_iff : j.flag k = true ↔ j.get? k = some (.bool true) := decide_eq_true_iff

theorem gives_iff {place : Nat} {option : String} :
    j.Gives settings place option ↔ (j.slots settings)[place]? = some (some option) := by
  constructor
  · rintro (h | h | ⟨hfamily, h⟩ | h | h | h | h | ⟨hrule, h⟩)
    case cold => simp [slots, flag, h, isBrowsertime_iff.2 hfamily]
    case url i rule =>
      rw [Nat.add_comm, getElem?_slots_url, hrule, Option.map_some, urlSlot,
        if_pos (UrlRule.applies_iff.2 h)]
    all_goals simp [slots, flag, h]
  · -- the slots of the fields one by one, and those of the rules all alike
    intro h
    rcases place with _ | _ | _ | _ | _ | _ | _ | i
    · obtain ⟨hflag, ho⟩ := Option.ite_none_right_eq_some.1 (Option.some.inj h)
      cases ho
      exact .video (flag_iff.1 hflag)
    · obtain ⟨v, hv, rfl⟩ := Option.map_eq_some_iff.1 (Option.some.inj h)
      exact .app hv
    · obtain ⟨hboth, ho⟩ := Option.ite_none_right_eq_some.1 (Option.some.inj h)
      cases ho
      obtain ⟨hfamily, hflag⟩ := Bool.and_eq_true_iff.1 hboth
      exact .cold (isBrowsertime_iff.1 hfamily) (flag_iff.1 hflag)
    · obtain ⟨v, hv, rfl⟩ := Option.map_eq_some_iff.1 (Option.some.inj h)
      exact .activity hv
    · obtain ⟨v, hv, rfl⟩ := Option.map_eq_some_iff.1 (Option.some.inj h)
      exact .binaryPath hv
    · obtain ⟨v, hv, rfl⟩ := Option.map_eq_some_iff.1 (Option.some.inj h)
      exact .test hv
    · obtain ⟨hflag, ho⟩ := Option.ite_none_right_eq_some.1 (Option.some.inj h)
      cases ho
      exact .release (flag_iff.1 hflag)
    · obtain ⟨rule, hrule, hslot⟩ := Option.map_eq_some_iff.1 ((getElem?_slots_url i).symm.trans h)
      obtain ⟨happlies, ho⟩ := Option.ite_none_right_eq_some.1 hslot
      cases ho
      rw [Nat.add_comm i 7]
      exact .url hrule (UrlRule.applies_iff.1 happlies)

theorem harnessOptions_eq_slots : j.harnessOptions settings = (j.slots settings).reduceOption := by
  have hurl : (UrlRule.table.map (j.urlSlot settings)).reduceOption =
      (UrlRule.table.filter (·.applies j.testPlatform j.testName settings.parameters.project
        settings.parameters.isTry)).map UrlRule.option :=
    reduceOption_map_ite _ UrlRule.option _
  have hcons (o : Option String) (os : List (Option String)) :
      (o :: os).reduceOption = o.toList ++ os.reduceOption := by
    cases o <;> rfl
  have hflag (c : Prop) [Decidable c] (s : String) :
      (if c then some s else none).toList = if c then [s] else [] :=
    apply_ite Option.toList c (some s) none
  simp [harnessOptions, slots, fieldOption, hcons, hflag, hurl]

/-- **The options that the fields of a job give**, in their places. -/
theorem lists_harnessOptions : Lists (j.Gives settings) (j.harnessOptions settings) := by
  rw [harnessOptions_eq_slots]
  exact (lists_slots _).congr fun place option => gives_iff.symm

/-! ### Jobs with options -/

/-- The account of a job `r` that is the job `j` with options. -/
structure Accounted (settings : Settings) (j r : Job) : Prop where
  options : ∃ (rows : Entries) (old : List Value) (new : List String),
    j.mapping Field.mozharness = .ok rows ∧ j.optionList rows = .ok old ∧
      Lists (j.Gives settings) new ∧ r.get? Field.mozharness =
        some (.mapping (rows.set Field.extraOptions (.list (old ++ new.map Value.text))))
  consumed : ∀ k ∈ Stage.options.consumes, r.get? k = none
  coldTaken : j.InColdFamily → r.get? Field.cold = none
  coldLeft : ¬ j.InColdFamily → r.get? Field.cold = j.get? Field.cold
  marked : j.get? Field.runVisualMetrics = some (.bool true) → j.Marked r
  unmarked : j.get? Field.runVisualMetrics ≠ some (.bool true) →
    r.get? Field.attributes = j.get? Field.attributes
  untouched : ∀ k ∉ optionFields, r.get? k = j.get? k
  inOrder : j.InOrder r

theorem accounted_of_withOptions (hr : j.withOptions settings = .ok r) :
    j.Accounted settings r := by
  have hattributes := attributes_of_withOptions hr
  constructor
  case options =>
    obtain ⟨m, hm, hr⟩ := bind_eq_ok_iff.1 hr
    have hsame : m.dropConsumed.get? Field.mozharness = j.get? Field.mozharness := by
      rw [get?_dropConsumed (by decide), get?_markMetrics hm (by decide) (by decide)]
    obtain ⟨rows, old, hrows, hold, rfl⟩ := addOptions_eq_ok_iff.1 hr
    exact ⟨rows, old, j.harnessOptions settings, mapping_congr hsame hrows,
      optionList_eq_ok_iff.2 (optionList_eq_ok_iff.1 hold), lists_harnessOptions,
      get?_set_self _ _ _⟩
  case consumed => exact fun k hk => get?_withOptions_eq_none hr hk
  case coldTaken =>
    intro hfamily
    rw [get?_cold_withOptions hr, if_pos (isBrowsertime_iff.2 hfamily)]
  case coldLeft =>
    intro hfamily
    rw [get?_cold_withOptions hr, if_neg (mt isBrowsertime_iff.1 hfamily)]
  case marked =>
    intro hflag
    rwa [if_pos (flag_iff.2 hflag)] at hattributes
  case unmarked =>
    intro hflag
    rwa [if_neg (mt flag_iff.1 hflag)] at hattributes
  case untouched => exact fun k hk => get?_withOptions hr hk
  case inOrder =>
    exact (InOrder.refl j).edited (edited_withOptions hr) (fun _ _ h => h) (by decide)

/-! ### Jobs without -/

/-- If the job is to be marked for visual metrics, it can be. -/
def Markable (j : Job) : Prop := j.get? Field.runVisualMetrics = some (.bool true) →
  ∀ v, j.get? Field.attributes = some v → v.mapping? ≠ none

/-- What stops a job from being given options, and the failure that tells it. -/
inductive Obstructed (j : Job) : Failure → Prop where
  | attributes {v : Value} (hflag : j.get? Field.runVisualMetrics = some (.bool true))
      (hv : j.get? Field.attributes = some v) (hn : v.mapping? = none) :
      Obstructed j (j.failure Field.attributes (.fieldNotMapping Field.attributes))
  | mozharness {v : Value} (hmark : j.Markable) (hv : j.get? Field.mozharness = some v)
      (hn : v.mapping? = none) :
      Obstructed j (j.failure Field.mozharness (.fieldNotMapping Field.mozharness))
  | options {rows : Entries} {v : Value} (hmark : j.Markable)
      (hrows : j.get? Field.mozharness = some (.mapping rows))
      (hv : rows.lookup Field.extraOptions = some v) (hn : v.list? = none) :
      Obstructed j (j.failure optionsPath .optionsNotList)

theorem failure_congr (h : r.get? Field.testName = j.get? Field.testName) :
    r.failure = j.failure := by
  funext field cause
  rw [failure, failure, testName, testName, text?, text?, h]

theorem markMetrics_eq_error_iff : j.markMetrics = .error f ↔
    j.get? Field.runVisualMetrics = some (.bool true) ∧
      (∃ v, j.get? Field.attributes = some v ∧ v.mapping? = none) ∧
        f = j.failure Field.attributes (.fieldNotMapping Field.attributes) := by
  have hattributes : (j.erase Field.runVisualMetrics).get? Field.attributes =
      j.get? Field.attributes := get?_erase_of_ne (by decide)
  have hfailure : (j.erase Field.runVisualMetrics).failure = j.failure :=
    failure_congr (get?_erase_of_ne (by decide))
  unfold markMetrics
  split
  · next hflag =>
    rw [setIn_eq, map_eq_error_iff, mapping_eq_error_iff, hattributes, hfailure, ← flag_iff]
    exact (and_iff_right hflag).symm
  · next hflag =>
    rw [← flag_iff]
    exact ⟨nofun, fun h => absurd h.1 hflag⟩

theorem markable_iff : j.Markable ↔ ∃ m, j.markMetrics = .ok m := by
  cases hm : j.markMetrics with
  | ok m =>
    refine ⟨fun _ => ⟨m, rfl⟩, fun _ hflag v hv hn => ?_⟩
    cases hm.symm.trans (markMetrics_eq_error_iff.2 ⟨hflag, ⟨v, hv, hn⟩, rfl⟩)
  | error f =>
    obtain ⟨hflag, ⟨v, hv, hn⟩, -⟩ := markMetrics_eq_error_iff.1 hm
    exact ⟨fun h => absurd hn (h hflag v hv), nofun⟩

/-- What stops a job from getting more options stops it before the others are read as well. -/
theorem addOptions_eq_error_iff_of_markMetrics {options : List String}
    (hm : j.markMetrics = .ok m) :
    m.dropConsumed.addOptions options = .error f ↔ j.addOptions options = .error f := by
  have hmozharness : m.dropConsumed.get? Field.mozharness = j.get? Field.mozharness := by
    rw [get?_dropConsumed (by decide), get?_markMetrics hm (by decide) (by decide)]
  have hfailure : m.dropConsumed.failure = j.failure := by
    refine failure_congr ?_
    rw [get?_dropConsumed (by decide), get?_markMetrics hm (by decide) (by decide)]
  rw [addOptions_eq_error_iff, addOptions_eq_error_iff, hmozharness, hfailure]

/-- **A job is given no options just if something stops it**, and the failure tells what. -/
theorem withOptions_eq_error_iff : j.withOptions settings = .error f ↔ j.Obstructed f := by
  rw [withOptions, bind_eq_error_iff]
  constructor
  · rintro (hm | ⟨m, hm, hr⟩)
    · obtain ⟨hflag, ⟨v, hv, hn⟩, rfl⟩ := markMetrics_eq_error_iff.1 hm
      exact .attributes hflag hv hn
    · have hmark : j.Markable := markable_iff.2 ⟨m, hm⟩
      rw [addOptions_eq_error_iff_of_markMetrics hm, addOptions_eq_error_iff] at hr
      rcases hr with ⟨⟨v, hv, hn⟩, rfl⟩ | ⟨rows, hrows, ⟨v, hv, hn⟩, rfl⟩
      · exact .mozharness hmark hv hn
      · exact .options hmark hrows hv hn
  · rintro (⟨hflag, hv, hn⟩ | ⟨hmark, hv, hn⟩ | ⟨hmark, hrows, hv, hn⟩)
    case attributes => exact .inl (markMetrics_eq_error_iff.2 ⟨hflag, ⟨_, hv, hn⟩, rfl⟩)
    all_goals
      obtain ⟨m, hm⟩ := markable_iff.1 hmark
      refine .inr ⟨m, hm, ?_⟩
      rw [addOptions_eq_error_iff_of_markMetrics hm, addOptions_eq_error_iff]
    · exact .inl ⟨⟨_, hv, hn⟩, rfl⟩
    · exact .inr ⟨_, hrows, ⟨_, hv, hn⟩, rfl⟩

end Job

/-! ### The stage -/

section Stage

variable {settings : Settings} {js out : List Job} {f : Failure}

theorem apply_options_eq_ok_iff : Stage.options.apply settings js = .ok out ↔
    List.Forall₂ (fun j r => j.withOptions settings = .ok r) js out := by
  rw [apply_eq_each (by decide)]
  induction js generalizing out with
  | nil => simp [eq_comm]
  | cons j js ih =>
    simp only [each_cons_eq_ok_iff, ih, Stage.replace, map_eq_ok_iff, List.forall₂_cons_left_iff]
    constructor
    · rintro ⟨_, rest, ⟨r, hr, rfl⟩, hrest, rfl⟩
      exact ⟨r, rest, hr, hrest, rfl⟩
    · rintro ⟨r, rest, hr, hrest, rfl⟩
      exact ⟨[r], rest, ⟨r, hr, rfl⟩, hrest, rfl⟩

theorem apply_options_eq_error_iff : Stage.options.apply settings js = .error f ↔
    ∃ before j after, js = before ++ j :: after ∧
      (∀ k ∈ before, ∃ r, k.withOptions settings = .ok r) ∧ j.withOptions settings = .error f := by
  rw [apply_eq_each (by decide), each_eq_error_iff]
  simp [Stage.replace]

/-- **The options account for every field.**  If the stage of the options gets through, each job has
its options and is otherwise as it was, up to the fields that became options and the mark for visual
metrics. If not, something stops the first of the jobs that has no options. -/
theorem options_account (settings : Settings) (js : List Job) :
    (∀ out, Stage.options.apply settings js = .ok out →
      List.Forall₂ (Job.Accounted settings) js out) ∧
    ∀ f, Stage.options.apply settings js = .error f ↔ ∃ before j after,
      js = before ++ j :: after ∧ (∀ k ∈ before, ∀ e, ¬ k.Obstructed e) ∧ j.Obstructed f := by
  have hfree (k : Job) : (∃ r, k.withOptions settings = .ok r) ↔ ∀ e, ¬ k.Obstructed e := by
    have herror (e : Failure) : k.withOptions settings = .error e ↔ k.Obstructed e :=
      Job.withOptions_eq_error_iff
    simp only [← herror]
    cases k.withOptions settings <;> simp
  constructor
  · intro out h
    exact (apply_options_eq_ok_iff.1 h).imp fun _ _ => Job.accounted_of_withOptions
  · intro f
    simp only [apply_options_eq_error_iff, hfree, Job.withOptions_eq_error_iff]

/-- A job in which every field that gives an option is there. -/
def packedSample : Job := ⟨[
  (Field.testName, .text "browsertime-tp6m-youtube-playback"),
  (Field.testPlatform, .text "android-hw-g5-7-0-arm7"),
  (Field.requireSignedExtensions, .bool true), (Field.app, .text "fenix"),
  (Field.activity, .text "main"), (Field.binaryPath, .null), (Field.raptorTest, .text "tp6m"),
  (Field.cold, .bool true), (Field.runVisualMetrics, .bool true),
  (Field.mozharness, .mapping [(Field.extraOptions, .list [.text "--hint"]),
    ("script", .text "raptor.py")])]⟩

/-- The options that it gets. -/
def packedOptions : List String := ["--hint", "--browsertime-video", "--app=fenix", "--cold",
  "--activity=main", "--binary-path=null", "--test=tp6m", "--is-release-build",
  "--test-url-params=exclude=1,2,9,10,17,18,21,22,26,28,30,32,39,40,47,48,55,56,63,64,71,72,79,80,"
    ++ "83,84,89,90,95,96"]

/-- What becomes of it. -/
def packedRecord : Job := ⟨[
  (Field.testName, .text "browsertime-tp6m-youtube-playback"),
  (Field.testPlatform, .text "android-hw-g5-7-0-arm7"),
  (Field.requireSignedExtensions, .bool true),
  (Field.mozharness, .mapping [(Field.extraOptions, .list (packedOptions.map Value.text)),
    ("script", .text "raptor.py")]),
  (Field.attributes, .mapping [(Field.runVisualMetrics, .bool true)])]⟩

theorem accounted_packedRecord : Stage.options.apply {} [packedSample] = .ok [packedRecord] ∧
    packedSample.Accounted {} packedRecord := by
  have h : Stage.options.apply {} [packedSample] = .ok [packedRecord] := by decide +kernel
  obtain ⟨haccounted, -⟩ := List.forall₂_cons.1 ((options_account {} [packedSample]).1 _ h)
  exact ⟨h, haccounted⟩

end Stage

end JobExpansion
