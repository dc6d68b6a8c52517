import JobExpansion.Proofs.Schema.Kept

/-!
# The first fault of a job

A job passes the schema just if every field meets its rule (`Rule.MetBy`). Of one that does not,
the first fault is told, where rules come in the order of the schema and alternatives in that of the
file, each with all that is inside it before the next: `FirstFault` says which fault of a value this
is and by which steps it is reached, `validate_eq_error_iff` that the failure names it with its
path, and `validateFrom_eq_error_iff` that of several jobs the first that does not pass is told. All
together is `validate_exact`.
-/

namespace JobExpansion

/-! ### Shapes -/

/-- A value is of a shape. -/
inductive Shape.Fits : Shape → Value → Prop where
  | string (s : String) : Fits .string (.text s)
  | boolean (b : Bool) : Fits .boolean (.bool b)
  | integer (n : Int) : Fits .integer (.number (.int n))
  | stringList (names : List String) : Fits .stringList (.list (names.map .text))
  | oneString (s : String) : Fits .stringOrList (.text s)
  | manyStrings (names : List String) : Fits .stringOrList (.list (names.map .text))
  | oneOf {words : List String} {s : String} (hs : s ∈ words) : Fits (.oneOf words) (.text s)
  | noTarget : Fits .target .null
  | namedTarget (s : String) : Fits .target (.text s)
  | indexedTarget {rows : Entries} (hindex : "index" ∈ rows.keys) (hname : "name" ∈ rows.keys) :
      Fits .target (.mapping rows)

namespace Schema

variable {rule : Rule} {path : String} {v : Value} {j : Job} {js : List Job} {f : Failure}

theorem accepts_texts (names : List String) :
    Shape.stringList.accepts (.list (names.map .text)) = true := by
  show (names.map Value.text).all Value.isText = true
  simp [Value.isText, Value.text?]

theorem accepts_iff_fits {shape : Shape} : shape.accepts v = true ↔ shape.Fits v := by
  constructor
  · intro h
    cases shape with
    | string =>
      obtain ⟨s, rfl⟩ := text_of_accepts h
      exact .string s
    | boolean =>
      cases v with
      | bool b => exact .boolean b
      | _ => cases h
    | integer =>
      match v, h with
      | .number (.int n), _ => exact .integer n
    | stringList =>
      obtain ⟨names, rfl⟩ := texts_of_accepts h
      exact .stringList names
    | stringOrList =>
      rcases Bool.or_eq_true_iff.1 h with htext | hlist
      · obtain ⟨s, rfl⟩ := text_of_accepts htext
        exact .oneString s
      · obtain ⟨names, rfl⟩ := texts_of_accepts hlist
        exact .manyStrings names
    | oneOf words =>
      cases v with
      | text s => exact .oneOf (List.contains_iff_mem.1 h)
      | _ => cases h
    | target =>
      cases v with
      | null => exact .noTarget
      | text s => exact .namedTarget s
      | mapping rows =>
        obtain ⟨hindex, hname⟩ := Bool.and_eq_true_iff.1 h
        exact .indexedTarget ((Entries.has_iff rows _).1 hindex) ((Entries.has_iff rows _).1 hname)
      | _ => cases h
  · rintro (_ | _ | _ | names | _ | names | hs | _ | _ | ⟨hindex, hname⟩)
    case stringList => exact accepts_texts names
    case manyStrings => exact accepts_texts names
    case oneOf => exact List.contains_iff_mem.2 hs
    case indexedTarget =>
      exact Bool.and_eq_true_iff.2 ⟨(Entries.has_iff _ _).2 hindex, (Entries.has_iff _ _).2 hname⟩
    all_goals rfl

/-! ### Faults -/

/-- What is wrong with a field. -/
inductive Fault where
  /-- It is required and not there. -/
  | missing
  /-- A value is not keyed and of another shape. -/
  | shape (found : Value)
  /-- A value is keyed by an attribute that the rule does not allow. -/
  | attribute (attr : String)

/-- The cause of a failure that tells a fault at a path. -/
def Fault.cause (rule : Rule) (path : String) : Fault → Cause
  | .missing => .fieldMissing path
  | .shape found => .wrongShape path rule.shape found
  | .attribute attr => .notKeyable path attr rule.keyedBy

/-- The code of a fault. -/
def Fault.code : Fault → String
  | .missing => "RAPTOR-SCHEMA-001"
  | .shape _ => "RAPTOR-SCHEMA-002"
  | .attribute _ => "RAPTOR-SCHEMA-003"

/-- A way into keyed values: the attribute and the key of the alternative that is taken in each. -/
abbrev Way := List (String × String)

/-- The path to a value in a field: the field and a step for each keyed value on the way. -/
def pathTo (field : String) (way : Way) : String :=
  field ++ String.join (way.map fun step => ".by-" ++ step.1 ++ "." ++ step.2)

/-- The first fault of a value, depth first, and the way to it. Alternatives before the one that it
is in have none. -/
inductive FirstFault (rule : Rule) : Value → Way → Fault → Prop where
  | shape {v : Value} (hv : Keyed.parts? v = none) (hs : ¬ rule.shape.accepts v = true) :
      FirstFault rule v [] (.shape v)
  | attribute {v : Value} {attr : String} {alternatives : Entries}
      (hv : Keyed.parts? v = some (attr, alternatives)) (ha : attr ∉ rule.keyedBy) :
      FirstFault rule v [] (.attribute attr)
  | within {v w : Value} {attr key : String} {before after : Entries} {way : Way} {fault : Fault}
      (hv : Keyed.parts? v = some (attr, before ++ (key, w) :: after)) (ha : attr ∈ rule.keyedBy)
      (hbefore : ∀ row ∈ before, WellKeyed rule row.2) (h : FirstFault rule w way fault) :
      FirstFault rule v ((attr, key) :: way) fault

theorem Fault.code_cause (rule : Rule) (path : String) (fault : Fault) :
    (fault.cause rule path).code = fault.code := by
  cases fault <;> rfl

/-! ### The check of a value -/

theorem pathTo_nil (field : String) : pathTo field [] = field := by
  simp [pathTo, String.join]

example : pathTo "target" [("app", "fenix"), ("test-platform", "default")] =
    "target.by-app.fenix.by-test-platform.default" := by decide

/-- A step into a keyed value makes the path longer. -/
theorem pathTo_cons (field : String) (step : String × String) (way : Way) :
    pathTo field (step :: way) =
      pathTo (field ++ ".by-" ++ step.1 ++ "." ++ step.2) way := by
  simp [pathTo, String.join_cons, String.append_assoc]

theorem checkAll_eq_findSome? (alternatives : Entries) : checkAll rule path alternatives =
    alternatives.findSome? fun row => check rule (path ++ row.1) row.2 := by
  induction alternatives with
  | nil => rfl
  | cons row rest ih =>
    rw [checkAll, List.findSome?_cons, ih]
    cases check rule (path ++ row.1) row.2 <;> rfl

theorem checkAll_eq_some_iff {alternatives : Entries} {o : Offence} :
    checkAll rule path alternatives = some o ↔ ∃ before key w after,
      alternatives = before ++ (key, w) :: after ∧ (∀ row ∈ before, WellKeyed rule row.2) ∧
        check rule (path ++ key) w = some o := by
  simp only [checkAll_eq_findSome?, List.findSome?_eq_some_iff, check_eq_none_iff, Prod.exists]
  constructor
  · rintro ⟨before, key, w, after, he, ho, hbefore⟩
    exact ⟨before, key, w, after, he, hbefore, ho⟩
  · rintro ⟨before, key, w, after, he, hbefore, ho⟩
    exact ⟨before, key, w, after, he, ho, hbefore⟩

theorem checkShape_eq_some_iff {o : Offence} : checkShape rule path v = some o ↔
    ¬ rule.shape.accepts v = true ∧ o = (.wrongShape path rule.shape v, path) := by
  unfold checkShape
  split
  · next h => simp [h]
  · next h => simp [h, eq_comm]

theorem firstFault_iff_of_plain (hv : Keyed.parts? v = none) {way : Way} {fault : Fault} :
    FirstFault rule v way fault ↔
      ¬ rule.shape.accepts v = true ∧ way = [] ∧ fault = .shape v := by
  constructor
  · rintro (⟨-, hs⟩ | ⟨hk, -⟩ | ⟨hk, -, -, -⟩)
    · exact ⟨hs, rfl, rfl⟩
    all_goals
      rw [hv] at hk
      cases hk
  · rintro ⟨hs, rfl, rfl⟩
    exact .shape hv hs

theorem firstFault_iff_of_keyed {attr : String} {alternatives : Entries}
    (hv : Keyed.parts? v = some (attr, alternatives)) {way : Way} {fault : Fault} :
    FirstFault rule v way fault ↔
      (attr ∉ rule.keyedBy ∧ way = [] ∧ fault = .attribute attr) ∨
      (attr ∈ rule.keyedBy ∧ ∃ before key w after inner,
        alternatives = before ++ (key, w) :: after ∧ (∀ row ∈ before, WellKeyed rule row.2) ∧
          FirstFault rule w inner fault ∧ way = (attr, key) :: inner) := by
  constructor
  · rintro (⟨hn, -⟩ | ⟨hk, ha⟩ | ⟨hk, ha, hbefore, h⟩)
    · rw [hv] at hn
      cases hn
    · rw [hv] at hk
      cases hk
      exact .inl ⟨ha, rfl, rfl⟩
    · rw [hv] at hk
      cases hk
      exact .inr ⟨ha, _, _, _, _, _, rfl, hbefore, h, rfl⟩
  · rintro (⟨ha, rfl, rfl⟩ | ⟨ha, before, key, w, after, inner, rfl, hbefore, h, rfl⟩)
    · exact .attribute hv ha
    · exact .within hv ha hbefore h

/-- **The check finds the first fault**, and its path is the way to it. -/
theorem check_eq_some_iff {o : Offence} : check rule path v = some o ↔
    ∃ way fault, FirstFault rule v way fault ∧
      o = (fault.cause rule (pathTo path way), pathTo path way) := by
  induction v using Keyed.parts_induction generalizing path with
  | plain v hv =>
    rw [check_of_plain hv, checkShape_eq_some_iff]
    simp only [firstFault_iff_of_plain hv]
    constructor
    · rintro ⟨hs, rfl⟩
      exact ⟨[], .shape v, ⟨hs, rfl, rfl⟩, by rw [pathTo_nil]; rfl⟩
    · rintro ⟨way, fault, ⟨hs, rfl, rfl⟩, ho⟩
      rw [pathTo_nil] at ho
      exact ⟨hs, ho⟩
  | keyed v attr alternatives hv ih =>
    rw [check_of_keyed hv]
    simp only [firstFault_iff_of_keyed hv]
    by_cases ha : attr ∈ rule.keyedBy
    · -- the alternative at fault is checked under the path with the step into it
      simp only [List.contains_iff_mem, ha, if_true, checkAll_eq_some_iff]
      constructor
      · rintro ⟨before, key, w, after, he, hbefore, ho⟩
        obtain ⟨inner, fault, h, rfl⟩ := (ih key w (by simp [he])).1 ho
        exact ⟨_, fault, .inr ⟨trivial, before, key, w, after, inner, he, hbefore, h, rfl⟩,
          by rw [pathTo_cons]⟩
      · rintro ⟨way, fault, ⟨hn, -, -⟩ | ⟨-, before, key, w, after, inner, he, hbefore, h, rfl⟩, ho⟩
        · exact absurd trivial hn
        · rw [pathTo_cons] at ho
          exact ⟨before, key, w, after, he, hbefore,
            (ih key w (by simp [he])).2 ⟨inner, fault, h, ho⟩⟩
    · simp only [List.contains_iff_mem, ha, if_false, Option.some.injEq]
      constructor
      · rintro rfl
        exact ⟨[], .attribute attr, .inl ⟨not_false, rfl, rfl⟩, by rw [pathTo_nil]; rfl⟩
      · rintro ⟨way, fault, ⟨-, rfl, rfl⟩ | ⟨hf, -⟩, ho⟩
        · rw [ho, pathTo_nil]
          rfl
        · exact hf.elim

/-! ### Rules -/

/-- A job meets a rule: the field is there if it must, and what is in it is as the rule wants it. -/
structure Rule.MetBy (rule : Rule) (j : Job) : Prop where
  wellKeyed : ∀ v, j.get? rule.field = some v → WellKeyed rule v
  present : rule.required = true → j.get? rule.field ≠ none

/-- The first fault of a job against a rule, and the way to it. -/
inductive Rule.ViolatedBy (rule : Rule) (j : Job) : Way → Fault → Prop where
  | missing (hr : rule.required = true) (hv : j.get? rule.field = none) :
      Rule.ViolatedBy rule j [] .missing
  | held {v : Value} {way : Way} {fault : Fault} (hv : j.get? rule.field = some v)
      (h : FirstFault rule v way fault) : Rule.ViolatedBy rule j way fault

theorem metBy_iff : Rule.MetBy rule j ↔ Rule.offence rule j = none := by
  rw [offence_eq_none_iff]
  exact ⟨fun h => ⟨h.wellKeyed, h.present⟩, fun h => ⟨h.1, h.2⟩⟩

theorem offence_eq_some_iff {o : Offence} : Rule.offence rule j = some o ↔
    ∃ way fault, Rule.ViolatedBy rule j way fault ∧
      o = (fault.cause rule (pathTo rule.field way), pathTo rule.field way) := by
  unfold Rule.offence
  cases hv : j.get? rule.field with
  | some v =>
    rw [check_eq_some_iff]
    constructor
    · rintro ⟨way, fault, h, ho⟩
      exact ⟨way, fault, .held hv h, ho⟩
    · rintro ⟨way, fault, ⟨-, hn⟩ | ⟨hw, h⟩, ho⟩
      · rw [hv] at hn
        cases hn
      · rw [hv] at hw
        cases hw
        exact ⟨way, fault, h, ho⟩
  | none =>
    constructor
    · intro ho
      obtain ⟨hr, ho⟩ := Option.ite_none_right_eq_some.1 ho
      cases ho
      exact ⟨[], .missing, .missing hr hv, by rw [pathTo_nil]; rfl⟩
    · rintro ⟨way, fault, ⟨hr, -⟩ | ⟨hw, -⟩, ho⟩
      · rw [if_pos hr, ho, pathTo_nil]
        rfl
      · rw [hv] at hw
        cases hw

/-! ### Jobs -/

/-- The first rule that a job violates, with the first fault against it. -/
structure FirstViolation (j : Job) (rule : Rule) (way : Way) (fault : Fault) : Prop where
  first : ∃ before after, rules = before ++ rule :: after ∧ ∀ r ∈ before, Rule.MetBy r j
  violated : Rule.ViolatedBy rule j way fault

/-- The failure of a job that tells a fault. -/
def Fault.failure (fault : Fault) (j : Job) (rule : Rule) (way : Way) : Failure :=
  j.failure (pathTo rule.field way) (fault.cause rule (pathTo rule.field way))

theorem meets_iff : Meets j ↔ ∀ rule ∈ rules, Rule.MetBy rule j :=
  forall₂_congr fun _ _ => metBy_iff.symm

theorem validate_eq_error_iff : validate j = .error f ↔
    ∃ rule way fault, FirstViolation j rule way fault ∧ f = fault.failure j rule way := by
  have hfound : validate j = .error f ↔ ∃ o, rules.findSome? (Rule.offence · j) = some o ∧
      f = j.failure o.2 o.1 := by
    unfold validate
    cases rules.findSome? (Rule.offence · j) <;> simp [eq_comm]
  simp only [hfound, List.findSome?_eq_some_iff, offence_eq_some_iff, ← metBy_iff]
  constructor
  · rintro ⟨_, ⟨before, rule, after, hrules, ⟨way, fault, hv, rfl⟩, hmet⟩, hf⟩
    exact ⟨rule, way, fault, ⟨⟨before, after, hrules, hmet⟩, hv⟩, hf⟩
  · rintro ⟨rule, way, fault, ⟨⟨before, after, hrules, hmet⟩, hv⟩, hf⟩
    exact ⟨_, ⟨before, rule, after, hrules, ⟨way, fault, hv, rfl⟩, hmet⟩, hf⟩

theorem validateFrom_eq_ok_iff {i : Nat} :
    validateFrom i js = .ok () ↔ ∀ j ∈ js, validate j = .ok () := by
  induction js generalizing i with
  | nil => simp [validateFrom]
  | cons j js ih =>
    simp only [validateFrom, bind_eq_ok_iff, mapError_eq_ok_iff, ih, List.forall_mem_cons]
    constructor
    · rintro ⟨⟨⟩, hj, hjs⟩
      exact ⟨hj, hjs⟩
    · rintro ⟨hj, hjs⟩
      exact ⟨(), hj, hjs⟩

theorem validateFrom_eq_error_iff {i : Nat} : validateFrom i js = .error f ↔
    ∃ before j after e, js = before ++ j :: after ∧ (∀ k ∈ before, validate k = .ok ()) ∧
      validate j = .error e ∧ f = e.atIndex (i + before.length) := by
  induction js generalizing i with
  | nil => simp [validateFrom]
  | cons j js ih =>
    simp only [validateFrom, bind_eq_error_iff, mapError_eq_error_iff, mapError_eq_ok_iff, ih]
    constructor
    · rintro (⟨e, he, rfl⟩ | ⟨⟨⟩, hj, before, k, after, e, rfl, hbefore, he, rfl⟩)
      · exact ⟨[], j, js, e, rfl, List.forall_mem_nil _, he, rfl⟩
      · refine ⟨j :: before, k, after, e, rfl, List.forall_mem_cons.2 ⟨hj, hbefore⟩, he, ?_⟩
        rw [List.length_cons, Nat.add_right_comm, Nat.add_assoc]
    · rintro ⟨before, k, after, e, hjs, hbefore, he, rfl⟩
      cases before with
      | nil =>
        cases hjs
        exact .inl ⟨e, he, rfl⟩
      | cons j' before =>
        cases hjs
        obtain ⟨hj, hbefore⟩ := List.forall_mem_cons.1 hbefore
        refine .inr ⟨(), hj, before, k, after, e, rfl, hbefore, he, ?_⟩
        rw [List.length_cons, Nat.add_right_comm, Nat.add_assoc]

/-- **The validator accepts just the jobs of the schema, and tells the first fault.**  A job passes
if it meets every rule. If not, the failure is that of the first rule that it violates and of the
first fault there, under the code of the fault and the path to it. Several jobs pass if each does,
and if not, the failure of the first that does not is told with its position. -/
theorem validate_exact :
    (∀ shape v, Shape.accepts shape v = true ↔ shape.Fits v) ∧
    (∀ j, validate j = .ok () ↔ ∀ rule ∈ rules, Rule.MetBy rule j) ∧
    (∀ j f, validate j = .error f ↔ ∃ rule way fault, FirstViolation j rule way fault ∧
      f = fault.failure j rule way ∧ f.cause.code = fault.code) ∧
    (∀ js, validateAll js = .ok () ↔ ∀ j ∈ js, validate j = .ok ()) ∧
    ∀ js f, validateAll js = .error f ↔ ∃ before j after e, js = before ++ j :: after ∧
      (∀ k ∈ before, validate k = .ok ()) ∧ validate j = .error e ∧
        f = e.atIndex before.length := by
  refine ⟨fun _ _ => accepts_iff_fits, fun j => validate_eq_ok_iff.trans meets_iff, fun j f => ?_,
    fun js => validateFrom_eq_ok_iff, fun js f => ?_⟩
  · rw [validate_eq_error_iff]
    constructor
    · rintro ⟨rule, way, fault, hv, rfl⟩
      exact ⟨rule, way, fault, hv, rfl, Fault.code_cause rule _ fault⟩
    · rintro ⟨rule, way, fault, hv, hf, -⟩
      exact ⟨rule, way, fault, hv, hf⟩
  · unfold validateAll
    rw [validateFrom_eq_error_iff]
    simp only [Nat.zero_add]

end Schema

end JobExpansion
