import JobExpansion.Proofs.Keyed.Depth
import JobExpansion.Proofs.Value.Paths

/-!
# Resolution in place

A resolution reads a field through one walk along its path and writes it through another. It is
atomic and local: a failure leaves the fields as they were, and a success changes nothing but the
value at the end of the path, which is no longer keyed then, so that resolving the field once more
changes nothing. `resolveInPlace_effect` says so.
-/

namespace JobExpansion.Keyed

open Entries

variable {path : List String} {field item : String} {extra es after : Entries} {failure : Failure}
  {v w : Value}

/-! ### The outcome -/

/-- A field is set to what its value evaluates to, keyed or not. Where that fails, the fields are
left as they were. -/
theorem run_resolveAt (path : List String) (item : String) (extra es : Entries) :
    (resolveAt path item extra).run es =
      match es.getPath path with
      | none => .ok () es
      | some v =>
        match evaluate item (es.setAll extra) v with
        | .ok w => .ok () (es.setPath w path)
        | .error failure => .error failure es := by
  simp only [resolveAt, EStateM.run_bind, EStateM.run_get]
  cases hv : es.getPath path with
  | none => rfl
  | some v =>
    cases hk : isKeyed v with
    | true =>
      simp only [hk, if_true]
      cases evaluate item (es.setAll extra) v <;> rfl
    | false =>
      -- nothing is written, which is as good as writing the value that stands there
      simp only [hk, evaluate_of_not_keyed (isKeyed_eq_false_iff.1 hk), setPath_of_getPath hv]
      rfl

/-- A field that is one key. -/
theorem run_resolveInPlace_of_key (h : segments field = [field]) :
    (resolveInPlace field item extra).run es =
      match es.lookup field with
      | none => .ok () es
      | some v =>
        match evaluate item (es.setAll extra) v with
        | .ok w => .ok () (es.set field w)
        | .error failure => .error failure es := by
  rw [resolveInPlace, h, run_resolveAt, getPath_singleton]
  cases hv : es.lookup field with
  | none => rfl
  | some v => simp only [setPath_singleton hv]

theorem run_resolveAt_eq_ok_iff : (resolveAt path item extra).run es = .ok () after ↔
    (es.getPath path = none ∧ after = es) ∨ ∃ v w, es.getPath path = some v ∧
      evaluate item (es.setAll extra) v = .ok w ∧ after = es.setPath w path := by
  rw [run_resolveAt]
  cases es.getPath path with
  | none => simp [eq_comm]
  | some v => cases hw : evaluate item (es.setAll extra) v <;> simp [hw, @eq_comm _ after]

theorem run_resolveAt_eq_error_iff : (resolveAt path item extra).run es = .error failure after ↔
    after = es ∧ ∃ v, es.getPath path = some v ∧
      evaluate item (es.setAll extra) v = .error failure := by
  rw [run_resolveAt]
  cases es.getPath path with
  | none => simp
  | some v => cases hw : evaluate item (es.setAll extra) v <;> simp [hw, @eq_comm _ after, and_comm]

/-- A field that is not keyed is as good as resolved. -/
theorem run_resolveAt_of_plain (h : ∀ v, es.getPath path = some v → isKeyed v = false) :
    (resolveAt path item extra).run es = .ok () es := by
  rw [run_resolveAt_eq_ok_iff]
  cases hv : es.getPath path with
  | none => exact .inl ⟨rfl, rfl⟩
  | some v =>
    have hw : evaluate item (es.setAll extra) v = .ok v :=
      evaluate_of_not_keyed (isKeyed_eq_false_iff.1 (h v hv))
    exact .inr ⟨v, v, rfl, hw, (setPath_of_getPath hv).symm⟩

/-- **Resolution in place is atomic and local.**  The attributes are the fields overridden by the
extra ones. A failure is one of the evaluation of what stands at the end of the path, and leaves the
fields as they were. A success leaves them as they were too if the path leads nowhere or to a value
that is not keyed; in any case nothing is changed but the value at the end of the path, into what it
evaluates to. That is not keyed, so resolving the field again, with whatever attributes, succeeds
and changes nothing. -/
theorem resolveInPlace_effect (field item : String) (extra : Entries) (hextra : extra.keys.Nodup)
    (es : Entries) :
    (∀ attr, (es.setAll extra).lookup attr = (extra.lookup attr).or (es.lookup attr)) ∧
    (∀ failure after, (resolveInPlace field item extra).run es = .error failure after →
      after = es ∧ ∃ old, es.getPath (segments field) = some old ∧
        evaluate item (es.setAll extra) old = .error failure) ∧
    ∀ after, (resolveInPlace field item extra).run es = .ok () after →
      ((es.getPath (segments field) = none ∧ after = es) ∨
        ∃ old new, es.getPath (segments field) = some old ∧
          evaluate item (es.setAll extra) old = .ok new ∧
          ReplacedAt old new (segments field) es after ∧
          after.getPath (segments field) = some new ∧ isKeyed new = false ∧
          (isKeyed old = false → after = es)) ∧
      ∀ item' others, (resolveInPlace field item' others).run after = .ok () after := by
  refine ⟨fun attr => lookup_setAll hextra, fun failure after h => run_resolveAt_eq_error_iff.1 h,
    fun after h => ?_⟩
  rcases run_resolveAt_eq_ok_iff.1 h with ⟨hnone, rfl⟩ | ⟨old, new, hold, hnew, rfl⟩
  · refine ⟨.inl ⟨hnone, rfl⟩, fun item' others => run_resolveAt_of_plain fun v hv => ?_⟩
    rw [hnone] at hv
    cases hv
  · have hreplaced : ReplacedAt old new (segments field) es (es.setPath new (segments field)) :=
      replacedAt_setPath hold new
    have hplain : isKeyed new = false := isKeyed_eq_false_iff.2 (parts?_of_evaluate hnew)
    refine ⟨.inr ⟨old, new, hold, hnew, hreplaced, hreplaced.getPath, hplain, fun hk => ?_⟩,
      fun item' others => run_resolveAt_of_plain fun v hv => ?_⟩
    · have hsame : (resolveInPlace field item extra).run es = .ok () es :=
        run_resolveAt_of_plain fun v hv => by
          cases hold.symm.trans hv
          exact hk
      exact (EStateM.Result.ok.inj (h.symm.trans hsame)).2
    · cases hreplaced.getPath.symm.trans hv
      exact hplain

/-- The script that the harness runs, by app. -/
def scriptByApp : Value :=
  .mapping [("by-app", .mapping [("chrome", .text "chrome.py"), ("fenix", .text "android.py")])]

/-- The fields of a job for one app, with some script. -/
def scripted (script : Value) : Entries := [("app", .text "chrome"),
  ("mozharness", .mapping [("config", .list []), ("script", script), ("actions", .null)])]

/-- The script is that of the app which overrides the job's own; where no app does, nothing is
changed. -/
theorem resolveInPlace_scripted :
    ((keys [("app", .text "fenix")]).Nodup ∧
      (resolveInPlace "mozharness.script" "t" [("app", .text "fenix")]).run
        (scripted scriptByApp) = .ok () (scripted (.text "android.py"))) ∧
    ((keys [("app", .null)]).Nodup ∧
      (resolveInPlace "mozharness.script" "t" [("app", .null)]).run (scripted scriptByApp) =
        .error ⟨"app", "t", .missing⟩ (scripted scriptByApp)) ∧
    (resolveInPlace "mozharness.script" "u" []).run (scripted (.text "android.py")) =
      .ok () (scripted (.text "android.py")) := by
  have hread : (scripted scriptByApp).getPath (segments "mozharness.script") =
      some scriptByApp := by decide +kernel
  have hfenix : evaluate "t" ((scripted scriptByApp).setAll [("app", .text "fenix")]) scriptByApp =
      .ok (.text "android.py") :=
    (evaluate_keyed_eq_ok_iff rfl).2 ⟨.text "android.py", rfl, evaluate_of_not_keyed rfl⟩
  have hnull : evaluate "t" ((scripted scriptByApp).setAll [("app", .null)]) scriptByApp =
      .error ⟨"app", "t", .missing⟩ := by
    have hv : parts? scriptByApp = some ("app", _) := rfl
    rw [evaluate_of_keyed hv]
    rfl
  have hok : (resolveInPlace "mozharness.script" "t" [("app", .text "fenix")]).run
      (scripted scriptByApp) = .ok () (scripted (.text "android.py")) :=
    run_resolveAt_eq_ok_iff.2 (.inr ⟨_, _, hread, hfenix, by decide +kernel⟩)
  obtain ⟨failure, after, herror⟩ : ∃ failure after, (resolveInPlace "mozharness.script" "t"
      [("app", .null)]).run (scripted scriptByApp) = .error failure after :=
    ⟨_, _, run_resolveAt_eq_error_iff.2 ⟨rfl, _, hread, hnull⟩⟩
  obtain ⟨rfl, old, hold, hfailed⟩ := (resolveInPlace_effect "mozharness.script" "t"
    [("app", .null)] (by decide) (scripted scriptByApp)).2.1 failure after herror
  cases hread.symm.trans hold
  cases hnull.symm.trans hfailed
  have hagain := ((resolveInPlace_effect "mozharness.script" "t" [("app", .text "fenix")]
    (by decide) (scripted scriptByApp)).2.2 _ hok).2 "u" []
  exact ⟨⟨by decide, hok⟩, ⟨by decide, herror⟩, hagain⟩

end JobExpansion.Keyed
