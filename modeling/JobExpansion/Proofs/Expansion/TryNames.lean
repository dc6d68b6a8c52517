import JobExpansion.Proofs.Expansion.Identities
import JobExpansion.Proofs.Text.Ends

/-!
# Try names

A job has two names, which the fan-outs change side by side. The modes of loading pages, the
profiles and the subtests put one and the same end behind both. The choice of an app does not: both
names become the test name for the app, so a job's own try name survives it only if it is the test
name (`tryNames_of_fanOuts`). No app hides the difference, as the name for an app can be undone
(`App.testName_inj`).
-/

namespace JobExpansion

variable {settings : Settings} {j m r : Job} {id : Identity} {s : Stage} {i : Nat} {out : List Job}

/-! ### Names for an app -/

namespace App

variable {app base name other : String}

theorem testName_cold (base app : String) :
    testName (base ++ coldSuffix) app = base ++ ("-" ++ app ++ coldSuffix) := by
  simp only [testName, Text.beforeSuffix?_append, String.append_assoc]

theorem testName_of_not_cold (h : ∀ base, name ≠ base ++ coldSuffix) :
    testName name app = name ++ ("-" ++ app) := by
  have hn : Text.beforeSuffix? name coldSuffix = none :=
    Option.eq_none_iff_forall_ne_some.2 fun base hb => h base (Text.beforeSuffix?_eq_some_iff.1 hb)
  simp only [testName, hn, String.append_assoc]

/-- Only the name of a cold test has the name for an app that a cold test has. -/
theorem eq_of_testName_eq_cold (h : testName name app = testName (base ++ coldSuffix) app) :
    name = base ++ coldSuffix := by
  rw [testName_cold] at h
  by_cases hcold : ∃ b, name = b ++ coldSuffix
  · obtain ⟨b, rfl⟩ := hcold
    rw [testName_cold, String.append_left_inj] at h
    rw [h]
  · rw [testName_of_not_cold fun b hb => hcold ⟨b, hb⟩, ← String.toList_inj] at h
    simp only [String.toList_append] at h
    rw [← String.toList_inj, String.toList_append]
    rcases List.append_eq_append_iff.1 h with ⟨front, -, hend⟩ | ⟨finish, hname, hend⟩
    · -- the app would be longer than itself
      have hlength := congrArg List.length hend
      simp only [List.length_append] at hlength
      have hcold : coldSuffix.toList.length = 5 := rfl
      omega
    · have hmark : finish = coldSuffix.toList :=
        Text.eq_of_append_eq_append_mark (x := '-') (c := "cold".toList) (by decide)
          (by simp) hend.symm
      rw [hname, hmark]

/-- **The name for an app can be undone.** -/
theorem testName_inj : testName name app = testName other app ↔ name = other := by
  refine ⟨fun h => ?_, fun h => by rw [h]⟩
  by_cases hother : ∃ base, other = base ++ coldSuffix
  · obtain ⟨base, rfl⟩ := hother
    exact eq_of_testName_eq_cold h
  · by_cases hname : ∃ base, name = base ++ coldSuffix
    · obtain ⟨base, rfl⟩ := hname
      exact (eq_of_testName_eq_cold h.symm).symm
    · rw [testName_of_not_cold fun b hb => hname ⟨b, hb⟩,
        testName_of_not_cold fun b hb => hother ⟨b, hb⟩] at h
      exact (String.append_left_inj _).1 h

end App

namespace Job

/-! ### The choice of an app -/

/-- The jobs for the apps of a list are known as the apps say, whatever else the job holds. -/
theorem Carries.splitApps {names : List String} (hid : j.Carries id)
    (hm : j.withApps settings = .ok m) (happs : m.get? Field.apps = some (.list (names.map .text)))
    (hne : names ≠ []) : ∃ out, j.splitApps settings = .ok out ∧
      List.Forall₂ (fun app r => r.Carries (id.forApp app)) names out := by
  have hrest : (m.erase Field.apps).Carries id := by
    refine (hid.congr fun k hk => ?_).erase (by decide)
    have hk' : k ∉ [] ++ [Field.apps] := by
      revert k
      decide
    exact (edited_resolveField List.mem_cons_self hm).get?_eq hk'
  have hlist : m.appList = names.map .text := by simp [appList, happs, Value.list?]
  have hsplit : j.splitApps settings =
      (m.erase Field.apps).forApps j.testName (names.map .text) := by
    rw [Job.splitApps, hm, ok_bind]
    simp only [hlist]
    cases names with
    | nil => exact absurd rfl hne
    | cons app names => rfl
  obtain ⟨out, hout⟩ := (forApps_madeBy names).total fun app => ⟨_, forApp_eq hrest⟩
  obtain ⟨_, hnames, hall⟩ := (forApps_madeBy names out).1 hout
  cases hnames
  refine ⟨out, hsplit.trans hout, hall.imp fun app r hr => ?_⟩
  cases (forApp_eq hrest).symm.trans hr
  exact carries_relabel _ _

/-! ### The other choices -/

theorem Carries.tellCold (hid : j.Carries id) (hr : j.tellCold = .ok r) : r.Carries id := by
  rw [Job.tellCold, requireText_of_text hid.testName, ok_bind] at hr
  split at hr
  · cases hr
    exact hid.set (by decide)
  · rw [append_eq] at hr
    split at hr
    · cases hr
      exact hid.set (by decide)
    · cases hr

theorem Carries.cold (hid : j.Carries id) (hr : j.cold = .ok r) : r.Carries id.cold := by
  rw [Job.cold] at hr
  split at hr
  · cases hr
  · simp only [append_of_text hid.description, ok_bind] at hr
    obtain ⟨t, ht, hr⟩ := bind_eq_ok_iff.1 hr
    have hd : (j.set Field.description (.text (id.description ++ " using cold pageload"))).Carries
        { id with description := id.description ++ " using cold pageload" } := by
      constructor <;> simp +decide [get?_set, hid.testName, hid.tryName, hid.symbol]
    have hm := (hd.tellCold ht).set (k := Field.maxRunTime) (v := .number (.int coldMaxRunTime))
      (by decide)
    rw [append_of_text hm.testName, ok_bind, append_of_text (s := id.tryName), ok_bind,
      suffixLeaf_of_text (s := id.symbol)] at hr
    · cases hr
      constructor <;> simp +decide [get?_set, setSymbol, Identity.cold, hm.description]
    · simp +decide [get?_set, hm.symbol]
    · simp +decide [get?_set, hm.tryName]

theorem mem_of_chunks {symbol : Symbol} {number : Nat} {subtests : List Value}
    (hout : j.chunks symbol number subtests = .ok out) (hr : r ∈ out) :
    ∃ n subtest, j.chunk symbol n subtest = .ok r := by
  induction subtests generalizing number out with
  | nil =>
    cases hout
    cases hr
  | cons v subtests ih =>
    cases v with
    | text subtest =>
      simp only [chunks, bind_eq_ok_iff, pure_eq_ok_iff] at hout
      obtain ⟨first, hfirst, rest, hrest, rfl⟩ := hout
      rcases List.mem_cons.1 hr with rfl | hr
      · exact ⟨number, subtest, hfirst⟩
      · exact ih hrest hr
    | _ => cases hout

theorem mem_of_splitSubtests (hout : j.splitSubtests = .ok out) (hr : r ∈ out) :
    ∃ chunk, j.toChunk chunk = .ok r := by
  have hwhole : r ∈ [j.erase Field.raptorSubtests] → ∃ chunk, j.toChunk chunk = .ok r :=
    fun h => ⟨none, congrArg Except.ok (List.mem_singleton.1 h).symm⟩
  simp only [splitSubtests] at hout
  split at hout
  case h_4 subtests _ _ =>
    obtain ⟨symbol, hsymbol, hout⟩ := bind_eq_ok_iff.1 hout
    obtain ⟨number, subtest, hchunk⟩ := mem_of_chunks hout hr
    exact ⟨some (number, subtest), by rw [toChunk, hsymbol, ok_bind, hchunk]⟩
  case h_5 => cases hout
  all_goals
    cases hout
    exact hwhole hr

end Job

/-- The other fan-outs put one end behind both names. -/
theorem Stage.names_of_replace (hid : j.Carries id)
    (hs : s ∈ [Stage.pageload, .condprof, .subtests]) (hout : s.replace settings i j = .ok out)
    (hr : r ∈ out) : ∃ finish, r.get? Field.testName = some (.text (id.testName ++ finish)) ∧
      r.get? Field.tryName = some (.text (id.tryName ++ finish)) := by
  have hsame (hc : r.Carries id) : ∃ finish,
      r.get? Field.testName = some (.text (id.testName ++ finish)) ∧
        r.get? Field.tryName = some (.text (id.tryName ++ finish)) :=
    ⟨"", by simpa using hc.testName, by simpa using hc.tryName⟩
  simp only [List.mem_cons, List.not_mem_nil, or_false] at hs
  rcases hs with rfl | rfl | rfl
  · obtain ⟨isCold, hload⟩ := Job.splitPageload_madeBy.edit_of_mem hout hr
    cases isCold with
    | false =>
      cases hload
      exact hsame (hid.erase (by decide))
    | true =>
      have hc : r.Carries id.cold := (hid.erase (by decide)).cold hload
      exact ⟨"-cold", hc.testName, hc.tryName⟩
  · obtain ⟨isTwin, htwin⟩ := Job.splitProfile_madeBy.edit_of_mem hout hr
    have hc : r.Carries (id.toProfile isTwin) := hid.toProfile htwin
    cases isTwin with
    | false => exact hsame hc
    | true => exact ⟨"-condprof", hc.testName, hc.tryName⟩
  · obtain ⟨chunk, hchunk⟩ := Job.mem_of_splitSubtests hout hr
    have hc : r.Carries (id.toChunk chunk) := hid.toChunk hchunk
    cases chunk with
    | none => exact hsame hc
    | some c => exact ⟨"-" ++ c.2, hc.testName, hc.tryName⟩

/-- **When a try name of its own survives.**  A job with the texts of an identity and a list of apps
becomes one job for each app, in order, both names of which are the test name for the app. This is
the try name for the app just if the job's try name was its test name. The fan-outs after it put one
end behind both names, whatever they were. -/
theorem tryNames_of_fanOuts {names : List String} (hid : j.Carries id)
    (hm : j.withApps settings = .ok m) (happs : m.get? Field.apps = some (.list (names.map .text)))
    (hne : names ≠ []) :
    (∃ out, Stage.apps.replace settings i j = .ok out ∧ List.Forall₂ (fun app r =>
      r.get? Field.testName = some (.text (App.testName id.testName app)) ∧
      r.get? Field.tryName = some (.text (App.testName id.testName app)) ∧
      (r.get? Field.tryName = some (.text (App.testName id.tryName app)) ↔
        id.tryName = id.testName)) names out) ∧
    ∀ s ∈ [Stage.pageload, .condprof, .subtests], ∀ out, s.replace settings i j = .ok out →
      ∀ r ∈ out, ∃ finish, r.get? Field.testName = some (.text (id.testName ++ finish)) ∧
        r.get? Field.tryName = some (.text (id.tryName ++ finish)) := by
  refine ⟨?_, fun s hs out hout r hr => Stage.names_of_replace hid hs hout hr⟩
  obtain ⟨out, hout, hall⟩ := hid.splitApps hm happs hne
  refine ⟨out, hout, hall.imp fun app r hr => ⟨hr.testName, hr.tryName, ?_⟩⟩
  have htry : r.get? Field.tryName = some (.text (App.testName id.testName app)) := hr.tryName
  rw [htry, Option.some.injEq, Value.text.injEq, App.testName_inj, eq_comm]

/-- A cold job with a try name of its own, for two apps. -/
def ownTryName : Job := ⟨[
  (Field.testName, .text "raptor-tp6m-cold"), (Field.tryName, .text "tp6m-nightly"),
  (Field.description, .text "Raptor tp6m"), (Field.symbol, .text "Rap(tp6m)"),
  (Field.apps, .list [.text "fenix", .text "geckoview"])]⟩

/-- The texts of the sample. -/
def ownTryIdentity : Identity := ⟨"raptor-tp6m-cold", "tp6m-nightly", "Raptor tp6m", "Rap(tp6m)"⟩

theorem tryNames_ownTryName :
    (ownTryName.Carries ownTryIdentity ∧ ownTryName.withApps {} = .ok ownTryName ∧
      ownTryName.get? Field.apps = some (.list (["fenix", "geckoview"].map .text)) ∧
      ["fenix", "geckoview"] ≠ []) ∧
    ∃ fenix geckoview, ownTryName.splitApps {} = .ok [fenix, geckoview] ∧
      fenix.get? Field.tryName = some (.text "raptor-tp6m-fenix-cold") ∧
      geckoview.get? Field.tryName = some (.text "raptor-tp6m-geckoview-cold") ∧
      fenix.get? Field.tryName ≠ some (.text "tp6m-nightly-fenix") := by
  have hid : ownTryName.Carries ownTryIdentity := ⟨rfl, rfl, rfl, rfl⟩
  have hm : ownTryName.withApps {} = .ok ownTryName := by decide +kernel
  have happs : ownTryName.get? Field.apps = some (.list (["fenix", "geckoview"].map .text)) := rfl
  have hne : ["fenix", "geckoview"] ≠ [] := by decide
  have hnames : App.testName "raptor-tp6m-cold" "fenix" = "raptor-tp6m-fenix-cold" ∧
      App.testName "raptor-tp6m-cold" "geckoview" = "raptor-tp6m-geckoview-cold" ∧
      App.testName "tp6m-nightly" "fenix" = "tp6m-nightly-fenix" := by decide
  obtain ⟨⟨out, hout, hall⟩, -⟩ := tryNames_of_fanOuts (i := 0) hid hm happs hne
  obtain ⟨fenix, _, ⟨-, hfenix, hiff⟩, hrest, rfl⟩ := List.forall₂_cons_left_iff.1 hall
  obtain ⟨geckoview, _, ⟨-, hgeckoview, -⟩, hend, rfl⟩ := List.forall₂_cons_left_iff.1 hrest
  cases List.forall₂_nil_left_iff.1 hend
  refine ⟨⟨hid, hm, happs, hne⟩, fenix, geckoview, hout, ?_, ?_, ?_⟩
  · exact hnames.1 ▸ hfenix
  · exact hnames.2.1 ▸ hgeckoview
  · intro h
    have hlost : ¬ ownTryIdentity.tryName = ownTryIdentity.testName := by decide
    exact hlost (hiff.1 (hnames.2.2 ▸ h))

end JobExpansion
