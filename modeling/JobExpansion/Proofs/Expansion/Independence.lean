import JobExpansion.Proofs.Expansion.Runs
import JobExpansion.Proofs.Schema.Soundness
import Mathlib.Data.List.Forall2

/-!
# Lists of jobs one after the other

No job has a say in what becomes of another. A run on two lists in a row gives what the runs on
each of them give, in a row. If it fails, it fails at the first stage that one of the two runs does
not get over, since a stage takes all jobs before the next one begins; at one stage the first list
comes before the second. `expand_append` says so, with the failure that is told.
-/

namespace JobExpansion

variable {settings : Settings} {js xs ys a b out : List Job} {f g : Failure} {s : Stage}
  {stages : List Stage} {n : Nat}

/-! ### One stage -/

/-- The failure as it is told when `n` other jobs stand before: the check of the schema counts
them too. -/
def Failure.countedFrom (n : Nat) (f : Failure) : Failure :=
  if f.stage = some .schema then { f with index := f.index.map (n + ·) } else f

theorem Failure.countedFrom_of_ne (h : f.stage ≠ some .schema) (n : Nat) : f.countedFrom n = f :=
  if_neg h

theorem Failure.stage_countedFrom : (f.countedFrom n).stage = f.stage := by
  unfold countedFrom
  split <;> rfl

theorem replaceAll_append {r : Nat → Job → Except Failure (List Job)} (i : Nat)
    (xs ys : List Job) :
    replaceAll r i (xs ++ ys) = do
      let a ← replaceAll r i xs
      let b ← replaceAll r (i + xs.length) ys
      return a ++ b := by
  induction xs generalizing i with
  | nil =>
    simp only [List.nil_append, replaceAll, ok_bind, List.length_nil, Nat.add_zero]
    exact (bind_pure _).symm
  | cons j xs ih =>
    have hi : i + 1 + xs.length = i + (j :: xs).length := by
      rw [List.length_cons]
      omega
    simp only [List.cons_append, replaceAll, ih, hi, bind_assoc, pure_bind, List.append_assoc]

/-- A job that stands `n` positions further on is replaced alike. -/
theorem replace_add (s : Stage) (i : Nat) (j : Job) :
    (s.replace settings (i + n) j).mapError (Failure.inStage s) =
      ((s.replace settings i j).mapError (Failure.inStage s)).mapError (Failure.countedFrom n) := by
  by_cases hs : s = .schema
  · subst hs
    simp only [Stage.replace]
    cases Schema.validate j with
    | ok => rfl
    | error e =>
      simp [Except.map, Failure.atIndex, Failure.inStage, Failure.countedFrom,
        Nat.add_comm]
  · rw [replace_eq_of_ne_schema hs (i + n), replace_eq_of_ne_schema hs i]
    cases s.replace settings 0 j with
    | ok made => rfl
    | error e =>
      have he : (e.inStage s).stage ≠ some .schema := fun h => hs (Option.some.inj h)
      exact congrArg Except.error (Failure.countedFrom_of_ne he n).symm

theorem replaceAll_add (s : Stage) (i : Nat) (js : List Job) :
    (replaceAll (s.replace settings) (i + n) js).mapError (Failure.inStage s) =
      ((replaceAll (s.replace settings) i js).mapError (Failure.inStage s)).mapError
        (Failure.countedFrom n) := by
  induction js generalizing i with
  | nil => rfl
  | cons j js ih =>
    have hi : i + n + 1 = i + 1 + n := by omega
    simp only [replaceAll, mapError_bind, replace_add, hi, ih]
    rfl

/-- **One stage on two lists in a row.** -/
theorem apply_append (s : Stage) (xs ys : List Job) :
    (s.apply settings (xs ++ ys)).mapError (Failure.inStage s) = do
      let a ← (s.apply settings xs).mapError (Failure.inStage s)
      let b ← ((s.apply settings ys).mapError (Failure.inStage s)).mapError
        (Failure.countedFrom xs.length)
      return a ++ b := by
  simp only [Stage.apply, replaceAll_append, mapError_bind, replaceAll_add]
  rfl

/-! ### How far a run comes -/

/-- A run stops after `n` stages: they succeed, and the next one fails on what they have made. -/
def StopsAfter (settings : Settings) (stages : List Stage) (js : List Job) (n : Nat) : Prop :=
  ∃ made s e, expandThrough settings (stages.take n) js = .ok made ∧ stages[n]? = some s ∧
    s.apply settings made = .error e

theorem expandThrough_cons_of_ok (h : s.apply settings js = .ok a) :
    expandThrough settings (s :: stages) js = expandThrough settings stages a := by
  rw [expandThrough, h]
  rfl

theorem expandThrough_cons_of_error (h : s.apply settings js = .error f) :
    expandThrough settings (s :: stages) js = .error (f.inStage s) := by
  rw [expandThrough, h]
  rfl

theorem stopsAfter_cons_iff_of_error (h : s.apply settings js = .error f) :
    StopsAfter settings (s :: stages) js n ↔ n = 0 := by
  cases n with
  | zero => simp [StopsAfter, expandThrough, h]
  | succ n => simp [StopsAfter, expandThrough_cons_of_error h]

theorem stopsAfter_cons_iff_of_ok (h : s.apply settings js = .ok a) :
    StopsAfter settings (s :: stages) js n ↔ ∃ k, n = k + 1 ∧ StopsAfter settings stages a k := by
  cases n with
  | zero => simp [StopsAfter, expandThrough, h]
  | succ n => simp [StopsAfter, expandThrough_cons_of_ok h]

/-- A failure names the stage that has failed. -/
theorem stage_of_expandThrough (h : expandThrough settings stages js = .error f) :
    ∃ s ∈ stages, f.stage = some s := by
  induction stages generalizing js with
  | nil => cases h
  | cons s stages ih =>
    cases hs : s.apply settings js with
    | error e =>
      cases (expandThrough_cons_of_error hs).symm.trans h
      exact ⟨s, List.mem_cons_self, rfl⟩
    | ok made =>
      obtain ⟨t, ht, hf⟩ := ih ((expandThrough_cons_of_ok hs).symm.trans h)
      exact ⟨t, List.mem_cons_of_mem _ ht, hf⟩

/-! ### A run on two lists -/

theorem apply_append_of_ok (ha : s.apply settings xs = .ok a) (hb : s.apply settings ys = .ok b) :
    s.apply settings (xs ++ ys) = .ok (a ++ b) := by
  have h : (s.apply settings (xs ++ ys)).mapError (Failure.inStage s) = .ok (a ++ b) := by
    rw [apply_append, ha, hb]
    rfl
  exact mapError_eq_ok_iff.1 h

theorem expandThrough_append_of_error_left (h : s.apply settings xs = .error f) :
    expandThrough settings (s :: stages) (xs ++ ys) = .error (f.inStage s) := by
  rw [expandThrough, apply_append, h]
  rfl

theorem expandThrough_append_of_error_right (ha : s.apply settings xs = .ok a)
    (h : s.apply settings ys = .error f) :
    expandThrough settings (s :: stages) (xs ++ ys) =
      .error ((f.inStage s).countedFrom xs.length) := by
  rw [expandThrough, apply_append, ha, h]
  rfl

theorem expandThrough_append_eq_ok_iff :
    expandThrough settings stages (xs ++ ys) = .ok out ↔
      ∃ a b, expandThrough settings stages xs = .ok a ∧ expandThrough settings stages ys = .ok b ∧
        a ++ b = out := by
  induction stages generalizing xs ys with
  | nil => simp [expandThrough]
  | cons s stages ih =>
    cases hx : s.apply settings xs with
    | error e =>
      simp [expandThrough_append_of_error_left hx, expandThrough_cons_of_error hx]
    | ok a =>
      cases hy : s.apply settings ys with
      | error e =>
        simp [expandThrough_append_of_error_right hx hy, expandThrough_cons_of_error hy]
      | ok b =>
        rw [expandThrough_cons_of_ok (apply_append_of_ok hx hy), expandThrough_cons_of_ok hx,
          expandThrough_cons_of_ok hy, ih]

theorem expandThrough_nil_jobs : expandThrough settings stages [] = .ok [] := by
  induction stages with
  | nil => rfl
  | cons s stages ih => exact (expandThrough_cons_of_ok (a := []) rfl).trans ih

/-- **A run job by job.**  It lists what a run on each of its jobs alone gives. -/
theorem expandThrough_iff_parts :
    expandThrough settings stages js = .ok out ↔ ∃ parts : List (List Job),
      List.Forall₂ (fun j part => expandThrough settings stages [j] = .ok part) js parts ∧
        parts.flatten = out := by
  induction js generalizing out with
  | nil => simp [expandThrough_nil_jobs, eq_comm]
  | cons j js ih =>
    rw [← List.singleton_append, expandThrough_append_eq_ok_iff]
    constructor
    · rintro ⟨a, b, ha, hb, rfl⟩
      obtain ⟨parts, hparts, rfl⟩ := ih.1 hb
      exact ⟨a :: parts, .cons ha hparts, rfl⟩
    · rintro ⟨_, hparts, rfl⟩
      obtain ⟨a, rest, ha, hrest, rfl⟩ := List.forall₂_cons_left_iff.1 hparts
      exact ⟨a, rest.flatten, ha, ih.2 ⟨rest, hrest, rfl⟩, rfl⟩

/-- A run on two lists stops after `n` stages with the failure `f`: the run on the first stops there
and that on the second no earlier, or the run on the second stops there and that on the first
later. -/
def StopsFirst (settings : Settings) (stages : List Stage) (xs ys : List Job) (n : Nat)
    (f : Failure) : Prop :=
  (expandThrough settings stages xs = .error f ∧ StopsAfter settings stages xs n ∧
      ∀ m, StopsAfter settings stages ys m → n ≤ m) ∨
    ∃ g, expandThrough settings stages ys = .error g ∧ f = g.countedFrom xs.length ∧
      StopsAfter settings stages ys n ∧ ∀ m, StopsAfter settings stages xs m → n < m

theorem stopsFirst_of_error_left (hx : s.apply settings xs = .error g) :
    StopsFirst settings (s :: stages) xs ys n f ↔ n = 0 ∧ f = g.inStage s := by
  unfold StopsFirst
  rw [expandThrough_cons_of_error hx]
  simp only [stopsAfter_cons_iff_of_error hx]
  constructor
  · rintro (⟨hf, hn, -⟩ | ⟨-, -, -, -, hlt⟩)
    · exact ⟨hn, (Except.error.inj hf).symm⟩
    · exact absurd (hlt 0 rfl) n.not_lt_zero
  · rintro ⟨rfl, rfl⟩
    exact .inl ⟨rfl, rfl, fun m _ => m.zero_le⟩

theorem stopsFirst_of_error_right (hx : s.apply settings xs = .ok a)
    (hy : s.apply settings ys = .error g) :
    StopsFirst settings (s :: stages) xs ys n f ↔
      n = 0 ∧ f = (g.inStage s).countedFrom xs.length := by
  unfold StopsFirst
  rw [expandThrough_cons_of_error hy]
  simp only [stopsAfter_cons_iff_of_ok hx, stopsAfter_cons_iff_of_error hy]
  constructor
  · rintro (⟨-, ⟨k, rfl, -⟩, hle⟩ | ⟨h, he, rfl, hn, -⟩)
    · exact absurd (hle 0 rfl) k.not_succ_le_zero
    · cases he
      exact ⟨hn, rfl⟩
  · rintro ⟨rfl, rfl⟩
    refine .inr ⟨_, rfl, rfl, rfl, ?_⟩
    rintro m ⟨k, rfl, -⟩
    exact k.succ_pos

/-- Once both lists have got over a stage, the stages after it decide. None of these looks at
positions. -/
theorem stopsFirst_of_ok (hs : Stage.schema ∉ stages) (hx : s.apply settings xs = .ok a)
    (hy : s.apply settings ys = .ok b) :
    StopsFirst settings (s :: stages) xs ys n f ↔
      ∃ k, n = k + 1 ∧ StopsFirst settings stages a b k f := by
  have hcount {g : Failure} (hg : expandThrough settings stages b = .error g) (k : Nat) :
      g.countedFrom k = g := by
    obtain ⟨t, ht, hgt⟩ := stage_of_expandThrough hg
    refine Failure.countedFrom_of_ne (fun h => hs ?_) k
    cases hgt.symm.trans h
    exact ht
  unfold StopsFirst
  rw [expandThrough_cons_of_ok hx, expandThrough_cons_of_ok hy]
  simp only [stopsAfter_cons_iff_of_ok hx, stopsAfter_cons_iff_of_ok hy]
  constructor
  · rintro (⟨he, ⟨k, rfl, hk⟩, hle⟩ | ⟨g, he, rfl, ⟨k, rfl, hk⟩, hlt⟩)
    · refine ⟨k, rfl, .inl ⟨he, hk, fun m hm => ?_⟩⟩
      exact Nat.le_of_succ_le_succ (hle (m + 1) ⟨m, rfl, hm⟩)
    · refine ⟨k, rfl, .inr ⟨g, he, by rw [hcount he, hcount he], hk, fun m hm => ?_⟩⟩
      exact Nat.lt_of_succ_lt_succ (hlt (m + 1) ⟨m, rfl, hm⟩)
  · rintro ⟨n, rfl, ⟨he, hn, hle⟩ | ⟨g, he, rfl, hn, hlt⟩⟩
    · refine .inl ⟨he, ⟨n, rfl, hn⟩, ?_⟩
      rintro m ⟨k, rfl, hk⟩
      exact Nat.succ_le_succ (hle k hk)
    · refine .inr ⟨g, he, by rw [hcount he, hcount he], ⟨n, rfl, hn⟩, ?_⟩
      rintro m ⟨k, rfl, hk⟩
      exact Nat.succ_lt_succ (hlt k hk)

/-- A run on two lists fails where the first of the two runs does, the first list coming first. -/
theorem expandThrough_append_eq_error_iff (hs : Stage.schema ∉ stages.tail) :
    expandThrough settings stages (xs ++ ys) = .error f ↔
      ∃ n, f.stage = stages[n]? ∧ StopsFirst settings stages xs ys n f := by
  induction stages generalizing xs ys with
  | nil => simp [expandThrough, StopsFirst]
  | cons s stages ih =>
    replace hs : Stage.schema ∉ stages := hs
    cases hx : s.apply settings xs with
    | error e =>
      rw [expandThrough_append_of_error_left hx]
      simp only [stopsFirst_of_error_left hx]
      constructor
      · rintro ⟨⟩
        exact ⟨0, rfl, rfl, rfl⟩
      · rintro ⟨n, -, -, rfl⟩
        rfl
    | ok a =>
      cases hy : s.apply settings ys with
      | error e =>
        rw [expandThrough_append_of_error_right hx hy]
        simp only [stopsFirst_of_error_right hx hy]
        constructor
        · rintro ⟨⟩
          exact ⟨0, Failure.stage_countedFrom, rfl, rfl⟩
        · rintro ⟨n, -, -, rfl⟩
          rfl
      | ok b =>
        rw [expandThrough_cons_of_ok (apply_append_of_ok hx hy),
          ih fun h => hs (List.mem_of_mem_tail h)]
        simp only [stopsFirst_of_ok hs hx hy]
        constructor
        · rintro ⟨n, hf, h⟩
          exact ⟨n + 1, hf, n, rfl, h⟩
        · rintro ⟨_, hf, n, rfl, h⟩
          exact ⟨n, hf, h⟩

/-- **Jobs expand independently of each other.**  An expansion of two lists in a row succeeds
exactly when the expansions of both do, and lists their results in a row. Otherwise it fails at the
first stage at which the expansion of one of the two fails, and the failure is that of the first
list if it is one of them, and else that of the second, with positions counted on. -/
theorem expand_append (settings : Settings) (xs ys : List Job) :
    (∀ out, expand settings (xs ++ ys) = .ok out ↔
      ∃ a b, expand settings xs = .ok a ∧ expand settings ys = .ok b ∧ a ++ b = out) ∧
    ∀ f, expand settings (xs ++ ys) = .error f ↔ ∃ n, f.stage = Stage.all[n]? ∧
      ((expand settings xs = .error f ∧ StopsAfter settings Stage.all xs n ∧
          ∀ m, StopsAfter settings Stage.all ys m → n ≤ m) ∨
        ∃ g, expand settings ys = .error g ∧ f = g.countedFrom xs.length ∧
          StopsAfter settings Stage.all ys n ∧
            ∀ m, StopsAfter settings Stage.all xs m → n < m) :=
  ⟨fun _ => expandThrough_append_eq_ok_iff,
    fun _ => expandThrough_append_eq_error_iff (by decide)⟩

-- the first job would fail when pages are to be loaded, the second one is told before
example : expand {} [⟨Schema.leastFields ++ [(Field.pageload, .text "cold")]⟩, ⟨[]⟩] =
    .error ⟨.fieldMissing Field.testName, some "<unnamed>", some Field.testName, some 1,
      some .schema⟩ := by
  rfl

end JobExpansion
