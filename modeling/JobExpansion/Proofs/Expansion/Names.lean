import JobExpansion.Proofs.Expansion.Choices
import JobExpansion.Proofs.Expansion.Identities
import JobExpansion.Proofs.Text.Segments

/-!
# Names of records

The name of a record is made of segments: the app, before a `-cold` at the end of the name of the
job, and then the marks of the branch and the subtest. Where the apps have no dash and no subtest
looks like a mark the branch can be read off the name, so no two records of a job share one
(`expand_testNames_nodup`).
-/

namespace JobExpansion

open Text

variable {settings : Settings} {b c : Branch} {j m : Job} {id : Identity} {s t u v : String}

/-! ### The name along a branch -/

/-- What the choices after the app put after a name. -/
def Branch.nameSuffix (b : Branch) : String :=
  (if b.isCold then "-cold" else "") ++ ((if b.isTwin then "-condprof" else "") ++
    b.chunk.elim "" fun c => "-" ++ c.2)

theorem Identity.testName_along :
    (id.along b).testName = (id.toApp b.app).testName ++ b.nameSuffix := by
  rw [along, toChunk_testName, toProfile_testName, toLoad_testName, Branch.nameSuffix,
    String.append_assoc, String.append_assoc]

theorem Branch.dashed_nameSuffix : Dashed b.nameSuffix := by
  have hchunk : Dashed (b.chunk.elim "" fun c => "-" ++ c.2) := by
    cases b.chunk with
    | none => exact dashed_empty
    | some c => exact dashed_dash c.2
  unfold nameSuffix
  refine Dashed.append ?_ (Dashed.append ?_ hchunk)
  · cases b.isCold with
    | false => exact dashed_empty
    | true => exact dashed_dash "cold"
  · cases b.isTwin with
    | false => exact dashed_empty
    | true => exact dashed_dash "condprof"

/-! ### The app -/

/-- The app stands in the name as a segment of its own. -/
theorem App.exists_testName_eq (name : String) :
    ∃ start finish, Dashed finish ∧ ∀ app, App.testName name app = start ++ (app ++ finish) := by
  unfold App.testName
  cases beforeSuffix? name coldSuffix with
  | none => exact ⟨name ++ "-", "", dashed_empty, fun app => by simp⟩
  | some base =>
    refine ⟨base ++ "-", coldSuffix, dashed_dash "cold", fun app => ?_⟩
    exact String.append_assoc

/-- Apps without a dash can be read off a name, with all that follows them. -/
theorem Identity.toApp_testName_inj {app app' : Option String}
    (hsome : app.isSome = app'.isSome) (hdash : ∀ a ∈ app, '-' ∉ a.toList)
    (hdash' : ∀ a ∈ app', '-' ∉ a.toList) (hs : Dashed s) (ht : Dashed t)
    (h : (id.toApp app).testName ++ s = (id.toApp app').testName ++ t) : app = app' ∧ s = t := by
  match app, app', hsome with
  | none, none, _ => exact ⟨rfl, (String.append_right_inj _).1 h⟩
  | some a, some a', _ =>
    obtain ⟨start, finish, hfinish, hname⟩ := App.exists_testName_eq id.testName
    have ha : ∀ a u, (id.toApp (some a)).testName ++ u = start ++ (a ++ (finish ++ u)) := by
      intro a u
      have hnamed : (id.toApp (some a)).testName = start ++ (a ++ finish) := hname a
      rw [hnamed, String.append_assoc, String.append_assoc]
    rw [ha, ha, String.append_right_inj] at h
    obtain ⟨rfl, hrest⟩ := append_inj_of_dashed (hdash a rfl) (hdash' a' rfl) (hfinish.append hs)
      (hfinish.append ht) h
    exact ⟨rfl, (String.append_right_inj _).1 hrest⟩

/-! ### The marks and the subtest -/

/-- A subtest whose name does not go on as the marks of a branch do. -/
structure Unmarked (subtest : String) : Prop where
  cold : startsWith subtest "cold-" = false
  condprof : startsWith subtest "condprof-" = false

/-- A mark and what follows it are not the segment of a subtest. -/
theorem mark_append_ne (mark : String) (hv : startsWith v (mark ++ "-") = false) :
    "-" ++ mark ++ ("-" ++ u) ≠ "-" ++ v := by
  intro h
  rw [String.append_assoc, String.append_right_inj, ← String.append_assoc] at h
  rw [← h, startsWith_append_self] at hv
  cases hv

theorem Unmarked.cold_append_ne {isTwin isTwin' : Bool} (hv : Unmarked v) :
    "-cold" ++ ((if isTwin then "-condprof" else "") ++ ("-" ++ u)) ≠
      (if isTwin' then "-condprof" else "") ++ ("-" ++ v) := by
  intro h
  have hrest : ∃ w, (if isTwin then "-condprof" else "") ++ ("-" ++ u) = "-" ++ w := by
    cases isTwin with
    | false => exact ⟨u, by simp⟩
    | true => exact ⟨"condprof" ++ ("-" ++ u), (String.append_assoc : "-" ++ "condprof" ++ _ = _)⟩
  obtain ⟨w, hw⟩ := hrest
  rw [hw] at h
  cases isTwin' with
  | false => exact mark_append_ne "cold" hv.cold (by simpa using h)
  | true =>
    -- the two marks differ after their first letters
    have hcold : startsWith ("-condprof" ++ ("-" ++ v)) "-cold" = true := by
      rw [← show "-cold" ++ ("-" ++ w) = "-condprof" ++ ("-" ++ v) from h]
      exact startsWith_append_self _ _
    have hprofile := startsWith_append_self "-condprof" ("-" ++ v)
    exact absurd (startsWith_or_startsWith hcold hprofile) (by decide)

/-- The marks and the subtest can be read off what follows the app. -/
theorem Branch.nameSuffix_inj (hsome : b.chunk.isSome = c.chunk.isSome)
    (hb : ∀ x ∈ b.chunk, Unmarked x.2) (hc : ∀ x ∈ c.chunk, Unmarked x.2)
    (h : b.nameSuffix = c.nameSuffix) :
    b.isCold = c.isCold ∧ b.isTwin = c.isTwin ∧ b.chunk.map Prod.snd = c.chunk.map Prod.snd := by
  obtain ⟨app, isCold, isTwin, chunk⟩ := b
  obtain ⟨app', isCold', isTwin', chunk'⟩ := c
  match chunk, chunk', hsome with
  | none, none, _ =>
    have hmarks : ∀ x y x' y' : Bool,
        (if x then "-cold" else "") ++ ((if y then "-condprof" else "") ++ "") =
          (if x' then "-cold" else "") ++ ((if y' then "-condprof" else "") ++ "") →
        x = x' ∧ y = y' := by decide
    obtain ⟨hcold, htwin⟩ := hmarks isCold isTwin isCold' isTwin' h
    exact ⟨hcold, htwin, rfl⟩
  | some x, some y, _ =>
    have hx : Unmarked x.2 := hb x rfl
    have hy : Unmarked y.2 := hc y rfl
    obtain ⟨hcold, h⟩ := optional_append_inj hy.cold_append_ne hx.cold_append_ne h
    obtain ⟨htwin, h⟩ := optional_append_inj (mark_append_ne "condprof" hy.condprof)
      (mark_append_ne "condprof" hx.condprof) h
    exact ⟨hcold, htwin, congrArg some ((String.append_right_inj "-").1 h)⟩

/-! ### All branches of a job -/

/-- Where no segment can be taken for another the branch can be read off the name. -/
theorem Branch.eq_of_testName {apps : List String} (hdash : ∀ app ∈ apps, '-' ∉ app.toList)
    (hsubs : j.subtests.Nodup) (hfree : ∀ subtest ∈ j.subtests, Unmarked subtest)
    (hb : b.app ∈ choicesOf apps ∧ b.chunk ∈ j.chunkChoices)
    (hc : c.app ∈ choicesOf apps ∧ c.chunk ∈ j.chunkChoices)
    (h : (id.along b).testName = (id.along c).testName) : b = c := by
  have hundashed : ∀ app ∈ choicesOf apps, ∀ a ∈ app, '-' ∉ a.toList := by
    rintro _ happ a rfl
    rcases mem_choicesOf.1 happ with ⟨-, hnone⟩ | ⟨a', ha', heq⟩
    · cases hnone
    · exact hdash a (Option.some.inj heq ▸ ha')
  have hunmarked : ∀ chunk ∈ j.chunkChoices, ∀ x ∈ chunk, Unmarked x.2 := by
    rintro _ hchunk x rfl
    exact hfree _ (Job.mem_subtests_of_chunk hchunk)
  have hchunked : b.chunk.isSome = c.chunk.isSome := by
    rw [Job.chunkChoices_eq] at hb hc
    exact isSome_of_mem_choicesOf hb.2 hc.2
  rw [Identity.testName_along, Identity.testName_along] at h
  obtain ⟨happ, hsuffix⟩ := Identity.toApp_testName_inj (isSome_of_mem_choicesOf hb.1 hc.1)
    (hundashed _ hb.1) (hundashed _ hc.1) dashed_nameSuffix dashed_nameSuffix h
  obtain ⟨hcold, htwin, hsubtest⟩ := nameSuffix_inj hchunked (hunmarked _ hb.2)
    (hunmarked _ hc.2) hsuffix
  have hchunk : b.chunk = c.chunk := Job.chunk_eq_of_mem hsubs hb.2 hc.2 hsubtest
  show (⟨b.app, b.isCold, b.isTwin, b.chunk⟩ : Branch) = c
  rw [happ, hcold, htwin, hchunk]

/-- The names of the records of an expansion. -/
theorem testNames_of_expand {out : List Job} (h : expand settings [j] = .ok out) :
    ∃ (id : Identity) (bs : List Branch), j.branches settings = .ok bs ∧
      out.map Job.testName = bs.map fun b => (id.along b).testName := by
  obtain ⟨id, bs, -, hbs, hall⟩ := identities_of_expand h
  have hnames : List.Forall₂ (· = ·) (out.map Job.testName)
      (bs.map fun b => (id.along b).testName) := by
    rw [List.forall₂_map_left_iff, List.forall₂_map_right_iff]
    exact hall.flip.imp fun r b hr => Job.testName_of_text hr.2.testName
  rw [List.forall₂_eq_eq_eq] at hnames
  exact ⟨id, bs, hbs, hnames⟩

/-- **Records of a job do not share a name.**  If the list of apps of a job has no app twice and
none with a dash, and its list of subtests has none twice and none that starts with `cold-` or
`condprof-`, then the names of its records are all different. -/
theorem expand_testNames_nodup {out : List Job} (h : expand settings [j] = .ok out)
    (hm : j.withDefaults.withApps settings = .ok m) (happs : m.appList.Nodup)
    (hdash : ∀ app, .text app ∈ m.appList → '-' ∉ app.toList) (hsubs : j.subtests.Nodup)
    (hfree : ∀ subtest ∈ j.subtests, Unmarked subtest) : (out.map Job.testName).Nodup := by
  have hready : j.withDefaults.Ready := (branches_of_expand h).1
  obtain ⟨-, names, hnames⟩ := hready.withApps_spec hm
  have hchoices : j.withDefaults.appChoices settings = .ok (choicesOf names) := by
    rw [Job.appChoices_eq hm, hnames, Value.filterMap_text]
  rw [hnames] at happs hdash
  obtain ⟨id, bs, hbs, hout⟩ := testNames_of_expand h
  obtain ⟨hnodup, hspec⟩ := hready.branches_spec hchoices (nodup_choicesOf happs.of_map) hbs
  rw [hout]
  refine hnodup.map_on fun b hb c hc heq => ?_
  exact Branch.eq_of_testName (fun app happ => hdash app (List.mem_map_of_mem happ)) hsubs hfree
    (hspec b hb) (hspec c hc) heq

/-- A cold test for two apps, loaded both ways for one of them, with a subtest named like a mark. -/
def crossedSample : Job := ⟨[
  (Field.testName, .text "raptor-tp6m-cold"), (Field.testPlatform, .text "android-hw-p2"),
  (Field.requireSignedExtensions, .bool false), (Field.symbol, .text "Rap(tp6m)"),
  (Field.description, .text "Raptor tp6m"), (Field.raptorTest, .text "raptor-tp6m"),
  (Field.apps, .list [.text "fenix", .text "refbrow"]),
  (Field.pageload, .mapping [("by-app", .mapping [("fenix", .text "both"),
    ("default", .text "warm")])]),
  (Field.condprof, .bool true), (Field.raptorSubtests, .list [.text "cold"])]⟩

theorem testNames_crossedSample :
    crossedSample.withDefaults.withApps {} = .ok crossedSample.withDefaults ∧
    crossedSample.withDefaults.appList = [.text "fenix", .text "refbrow"] ∧
    crossedSample.subtests = ["cold"] ∧ Unmarked "cold" ∧
    ∃ out, expand {} [crossedSample] = .ok out ∧ (out.map Job.testName).Nodup ∧
      out.map Job.testName = ["raptor-tp6m-fenix-cold-cold",
        "raptor-tp6m-fenix-cold-condprof-cold", "raptor-tp6m-fenix-cold-cold-cold",
        "raptor-tp6m-fenix-cold-cold-condprof-cold", "raptor-tp6m-refbrow-cold-cold",
        "raptor-tp6m-refbrow-cold-condprof-cold"] := by
  have hm : crossedSample.withDefaults.withApps {} = .ok crossedSample.withDefaults := by
    decide +kernel
  have happs : crossedSample.withDefaults.appList = [.text "fenix", .text "refbrow"] := by
    decide +kernel
  have hsubs : crossedSample.subtests = ["cold"] := rfl
  have hcold : Unmarked "cold" := ⟨by decide, by decide⟩
  have hrun : (expand {} [crossedSample]).map (·.map Job.testName) =
      .ok ["raptor-tp6m-fenix-cold-cold", "raptor-tp6m-fenix-cold-condprof-cold",
        "raptor-tp6m-fenix-cold-cold-cold", "raptor-tp6m-fenix-cold-cold-condprof-cold",
        "raptor-tp6m-refbrow-cold-cold", "raptor-tp6m-refbrow-cold-condprof-cold"] := by
    decide +kernel
  obtain ⟨out, h, hnames⟩ := map_eq_ok_iff.1 hrun
  refine ⟨hm, happs, hsubs, hcold, out, h, ?_, hnames⟩
  refine expand_testNames_nodup h hm ?_ ?_ ?_ ?_
  · rw [happs]
    decide
  · simp +decide [happs]
  · rw [hsubs]
    decide
  · simpa [hsubs] using hcold

-- a subtest that goes on as a mark does takes the name of the cold record of another
example : (expand {} [⟨Schema.leastFields ++ [(Field.raptorTest, .text "raptor-tp6m"),
      (Field.pageload, .text "both"),
      (Field.raptorSubtests, .list [.text "start", .text "cold-start"])]⟩]).map
      (·.map Job.testName) =
    .ok ["raptor-tp6m-amazon-start", "raptor-tp6m-amazon-cold-start",
      "raptor-tp6m-amazon-cold-start", "raptor-tp6m-amazon-cold-cold-start"] := by
  decide +kernel

end JobExpansion
