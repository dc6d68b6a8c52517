import JobExpansion.Proofs.Schema.WellKeyed

/-!
# What a validated value can become

The validator looks at all alternatives of a keyed value, an evaluation takes one of them at each
depth. `evaluate_of_validated` says what the first promises about the second: the value that comes
out is not keyed and has the shape of its rule, and only the attributes of the rule have a say in
it.
-/

namespace JobExpansion.Schema

open Keyed

variable {rule : Rule} {item : String} {v r : Value}

/-- What a well-keyed value evaluates to is well keyed. -/
theorem WellKeyed.evaluate {attributes : Entries} (h : WellKeyed rule v)
    (hr : Keyed.evaluate item attributes v = .ok r) : WellKeyed rule r := by
  induction h with
  | plain hv hs =>
    rw [evaluate_of_not_keyed hv] at hr
    cases hr
    exact .plain hv hs
  | keyed hv _ _ ih =>
    obtain ⟨w, hw, hr⟩ := (evaluate_keyed_eq_ok_iff hv).1 hr
    obtain ⟨key, hmem⟩ := mem_of_choose hw
    exact ih (key, w) hmem hr

theorem WellKeyed.accepts_evaluate {attributes : Entries} (h : WellKeyed rule v)
    (hr : Keyed.evaluate item attributes v = .ok r) : rule.shape.accepts r = true :=
  (wellKeyed_iff_of_plain (parts?_of_evaluate hr)).1 (h.evaluate hr)

/-- Attributes outside the rule do not count. -/
theorem WellKeyed.evaluate_congr {a b : Entries} (h : WellKeyed rule v)
    (hab : ∀ attr ∈ rule.keyedBy, b.lookup attr = a.lookup attr) :
    Keyed.evaluate item b v = Keyed.evaluate item a v :=
  Keyed.evaluate_congr fun attr hk => hab attr (h.mem_of_keyedBy hk)

/-- **Validation is sound for evaluation.**  In a validated job, whatever a field with a rule
evaluates to is not keyed and has the shape of the rule, and two lists of attributes that agree on
those of the rule give the same value or the same failure. -/
theorem evaluate_of_validated {j : Job} (hj : validate j = .ok ()) {rule : Rule}
    (hrule : rule ∈ rules) {v : Value} (hv : j.get? rule.field = some v) (item : String)
    (attributes : Entries) :
    (∀ r, Keyed.evaluate item attributes v = .ok r →
        isKeyed r = false ∧ rule.shape.accepts r = true) ∧
      ∀ others : Entries, (∀ attr ∈ rule.keyedBy, others.lookup attr = attributes.lookup attr) →
        Keyed.evaluate item others v = Keyed.evaluate item attributes v := by
  have hw : WellKeyed rule v := (validate_eq_ok_iff.1 hj).wellKeyed hrule hv
  refine ⟨fun r hr => ⟨?_, hw.accepts_evaluate hr⟩, fun others => hw.evaluate_congr⟩
  simp [isKeyed, parts?_of_evaluate hr]

/-- Pages are loaded both ways in one app and warm in the others. -/
def keyedMode : Value :=
  .mapping [("by-app", .mapping [("fenix", .text "both"), ("default", .text "warm")])]

/-- The fields of a job that has no others than it needs. -/
def leastFields : Entries := [
  (Field.testName, .text "raptor-tp6m-amazon"), (Field.testPlatform, .text "android-hw-p2"),
  (Field.requireSignedExtensions, .bool false), (Field.symbol, .text "Rap(amazon)"),
  (Field.description, .text "Raptor tp6m on amazon")]

/-- A job with a keyed mode of loading pages. -/
def keyedSample : Job := ⟨leastFields ++ [(Field.pageload, keyedMode)]⟩

/-- The mode of the sample in one app, whatever else there is. -/
theorem evaluate_of_keyedSample :
    (validate keyedSample = .ok () ∧ keyedSample.get? Field.pageload = some keyedMode ∧
      Keyed.evaluate "raptor" [("app", .text "fenix")] keyedMode = .ok (.text "both")) ∧
    (isKeyed (.text "both") = false ∧ (Shape.oneOf pageloadModes).accepts (.text "both") = true) ∧
    Keyed.evaluate "raptor" [("app", .text "fenix"), ("test-os", .text "linux")] keyedMode =
      Keyed.evaluate "raptor" [("app", .text "fenix")] keyedMode := by
  have hvalid : validate keyedSample = .ok () := rfl
  have hboth : Keyed.evaluate "raptor" [("app", .text "fenix")] keyedMode = .ok (.text "both") :=
    (evaluate_keyed_eq_ok_iff rfl).2 ⟨.text "both", rfl, evaluate_of_not_keyed rfl⟩
  have hrule : ⟨Field.pageload, false, .oneOf pageloadModes, ["test-platform", "app"]⟩ ∈ rules := by
    decide
  obtain ⟨hshape, hothers⟩ := evaluate_of_validated hvalid hrule (v := keyedMode) rfl "raptor"
    [("app", .text "fenix")]
  exact ⟨⟨hvalid, rfl, hboth⟩, hshape _ hboth, hothers _ (by decide)⟩

end JobExpansion.Schema
