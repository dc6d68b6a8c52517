import Mathlib.Data.List.Forall2
import JobExpansion.Proofs.Outcome

/-!
# Fans of results

A step that replaces a thing by several makes one result for each of a list of choices, each by an
edit of its own (`MadeBy`). `MadeBy.fan` nests two such steps: what the second makes of each
result of the first is made by the choices of the second within each choice of the first.
-/

namespace JobExpansion

variable {α β γ ρ : Type}

/-- A step succeeds exactly when the choices and the edits for all of them do, and then gives the
result of each edit in the order of the choices. -/
def MadeBy (made : Except Failure (List ρ)) (choices : Except Failure (List γ))
    (edit : γ → Except Failure ρ) : Prop :=
  ∀ out, made = .ok out ↔
    ∃ cs, choices = .ok cs ∧ List.Forall₂ (fun c r => edit c = .ok r) cs out

theorem MadeBy.edit_of_mem {made : Except Failure (List ρ)} {choices : Except Failure (List γ)}
    {edit : γ → Except Failure ρ} {out : List ρ} {r : ρ} (h : MadeBy made choices edit)
    (hm : made = .ok out) (hr : r ∈ out) : ∃ c, edit c = .ok r := by
  obtain ⟨cs, -, hall⟩ := (h out).1 hm
  clear h hm
  induction hall with
  | nil => cases hr
  | @cons c r' _ _ hc _ ih =>
    rcases List.mem_cons.1 hr with rfl | hr
    · exact ⟨c, hc⟩
    · exact ih hr

/-- Nothing fails if no edit does. -/
theorem MadeBy.total {made : Except Failure (List ρ)} {cs : List γ} {edit : γ → Except Failure ρ}
    (h : MadeBy made (.ok cs) edit) (hall : ∀ c, ∃ r, edit c = .ok r) : ∃ out, made = .ok out := by
  choose result hresult using hall
  refine ⟨cs.map result, (h _).2 ⟨cs, rfl, ?_⟩⟩
  rw [List.forall₂_map_right_iff, List.forall₂_same]
  exact fun c _ => hresult c

/-! ### Listing the results -/

section Listing

variable {made : Except Failure (List ρ)} {choices : Except Failure (List γ)} {cs : List γ}
  {edit : γ → Except Failure ρ}

theorem MadeBy.nil : MadeBy (.ok []) (.ok []) edit := by
  intro out
  simp [eq_comm]

theorem MadeBy.cons {c : γ} (h : MadeBy made (.ok cs) edit) :
    MadeBy (do let r ← edit c; return r :: (← made)) (.ok (c :: cs)) edit := by
  intro out
  simp only [bind_eq_ok_iff, pure_eq_ok_iff, h _, Except.ok.injEq, exists_eq_left',
    List.forall₂_cons_left_iff]
  constructor
  · rintro ⟨r, hr, rest, hrest, rfl⟩
    exact ⟨r, rest, hr, hrest, rfl⟩
  · rintro ⟨r, rest, hr, hrest, rfl⟩
    exact ⟨r, hr, rest, hrest, rfl⟩

/-- There is only one way on. -/
theorem MadeBy.single {c : γ} {r : ρ} (h : edit c = .ok r) : MadeBy (.ok [r]) (.ok [c]) edit := by
  have hc : MadeBy _ (.ok [c]) edit := MadeBy.nil.cons
  rwa [h] at hc

theorem MadeBy.edited (edit : γ → Except Failure ρ) (c : γ) :
    MadeBy (do return [← edit c]) (.ok [c]) edit := by
  intro out
  simp only [bind_eq_ok_iff, pure_eq_ok_iff, Except.ok.injEq, exists_eq_left',
    List.forall₂_cons_left_iff, List.forall₂_nil_left_iff]
  constructor
  · rintro ⟨r, hr, rfl⟩
    exact ⟨r, [], hr, rfl, rfl⟩
  · rintro ⟨r, _, hr, rfl, rfl⟩
    exact ⟨r, hr, rfl⟩

/-- The thing as it is, and edited. -/
theorem MadeBy.twin (edit : γ → Except Failure ρ) {c : γ} {r : ρ} (h : edit c = .ok r) (c' : γ) :
    MadeBy (do return [r, ← edit c']) (.ok [c, c']) edit := by
  have hc : MadeBy _ (.ok [c, c']) edit := (MadeBy.edited edit c').cons
  rw [h] at hc
  simpa using hc

/-- The choices written in another way. -/
theorem MadeBy.map {f : γ → β} {record : β → Except Failure ρ} (h : MadeBy made (.ok cs) edit)
    (hf : ∀ c, record (f c) = edit c) : MadeBy made (.ok (cs.map f)) record := by
  intro out
  rw [h out]
  simp [hf, List.forall₂_map_left_iff]

end Listing

theorem MadeBy.bind_each_eq_ok_iff {first : Except Failure (List α)}
    {choices : Except Failure (List γ)} {edit : γ → Except Failure α}
    {rest : α → Except Failure (List ρ)} {out : List ρ} (h : MadeBy first choices edit) :
    (first >>= each rest) = .ok out ↔ ∃ cs, choices = .ok cs ∧
      ∃ ms, List.Forall₂ (fun c m => edit c = .ok m) cs ms ∧ each rest ms = .ok out := by
  rw [bind_eq_ok_iff]
  constructor
  · rintro ⟨ms, hms, hout⟩
    obtain ⟨cs, hcs, hms⟩ := (h ms).1 hms
    exact ⟨cs, hcs, ms, hms, hout⟩
  · rintro ⟨cs, hcs, ms, hms, hout⟩
    exact ⟨ms, (h ms).2 ⟨cs, hcs, hms⟩, hout⟩

/-! ### One more edit -/

theorem edited_each_iff {edit : γ → Except Failure α} {g : α → Except Failure ρ} {cs : List γ}
    {out : List ρ} :
    (∃ ms, List.Forall₂ (fun c m => edit c = .ok m) cs ms ∧
      each (fun m => (g m).map fun r => [r]) ms = .ok out) ↔
      List.Forall₂ (fun c r => (edit c >>= g) = .ok r) cs out := by
  induction cs generalizing out with
  | nil => simp [eq_comm]
  | cons c cs ih =>
    constructor
    · rintro ⟨_, hall, h⟩
      obtain ⟨m, ms, hm, hms, rfl⟩ := List.forall₂_cons_left_iff.1 hall
      obtain ⟨_, rest, hmap, hrest, rfl⟩ := each_cons_eq_ok_iff.1 h
      obtain ⟨r, hr, rfl⟩ := map_eq_ok_iff.1 hmap
      exact .cons (bind_eq_ok_iff.2 ⟨m, hm, hr⟩) (ih.1 ⟨ms, hms, hrest⟩)
    · intro h
      obtain ⟨r, rest, hr, hrest, rfl⟩ := List.forall₂_cons_left_iff.1 h
      obtain ⟨m, hm, hr⟩ := bind_eq_ok_iff.1 hr
      obtain ⟨ms, hms, hrest⟩ := ih.2 hrest
      refine ⟨m :: ms, .cons hm hms, each_cons_eq_ok_iff.2 ⟨[r], rest, ?_, hrest, rfl⟩⟩
      exact map_eq_ok_iff.2 ⟨r, hr, rfl⟩

/-- Each result is edited once more. -/
theorem MadeBy.andThen {made : Except Failure (List α)} {choices : Except Failure (List γ)}
    {edit : γ → Except Failure α} (h : MadeBy made choices edit) (g : α → Except Failure ρ) :
    MadeBy (made >>= each fun m => (g m).map fun r => [r]) choices (fun c => edit c >>= g) := by
  intro out
  rw [h.bind_each_eq_ok_iff]
  simp only [edited_each_iff]

/-! ### Nested steps -/

/-- What is made of one job by one step and of its result by the next. -/
theorem MadeBy.one {x : Except Failure α} {rest : α → Except Failure (List ρ)}
    {ways : α → Except Failure (List β)} {record : β → Except Failure ρ}
    (h : ∀ m, x = .ok m → MadeBy (rest m) (ways m) record) :
    MadeBy (x.map (fun m => [m]) >>= each rest) (x >>= ways) record := by
  intro out
  cases x with
  | error e => simp [Except.map]
  | ok m =>
    rw [show ((Except.ok m).map fun m => [m]) = (.ok [m] : Except Failure _) from rfl, ok_bind,
      each_singleton]
    exact h m rfl out

theorem forall₂_append_left {R : β → ρ → Prop} {bs₁ bs₂ : List β} {out : List ρ}
    (h : List.Forall₂ R (bs₁ ++ bs₂) out) :
    ∃ out₁ out₂, List.Forall₂ R bs₁ out₁ ∧ List.Forall₂ R bs₂ out₂ ∧ out₁ ++ out₂ = out :=
  ⟨out.take bs₁.length, out.drop bs₁.length, (List.forall₂_take_append out bs₁ bs₂ h.flip).flip,
    (List.forall₂_drop_append out bs₁ bs₂ h.flip).flip, List.take_append_drop _ _⟩

theorem nested_each_iff {edit : γ → Except Failure α} {rest : α → Except Failure (List ρ)}
    {ways : γ → α → Except Failure (List β)} {record : β → Except Failure ρ} {cs : List γ}
    {out : List ρ} (hrest : ∀ c m, edit c = .ok m → MadeBy (rest m) (ways c m) record) :
    (∃ ms, List.Forall₂ (fun c m => edit c = .ok m) cs ms ∧ each rest ms = .ok out) ↔
      ∃ bs, each (fun c => edit c >>= ways c) cs = .ok bs ∧
        List.Forall₂ (fun b r => record b = .ok r) bs out := by
  induction cs generalizing out with
  | nil => simp [eq_comm]
  | cons c cs ih =>
    constructor
    · rintro ⟨_, hall, h⟩
      obtain ⟨m, ms, hm, hms, rfl⟩ := List.forall₂_cons_left_iff.1 hall
      obtain ⟨out₁, out₂, h₁, h₂, rfl⟩ := each_cons_eq_ok_iff.1 h
      obtain ⟨bs₁, hw, hb₁⟩ := (hrest c m hm out₁).1 h₁
      obtain ⟨bs₂, he, hb₂⟩ := ih.1 ⟨ms, hms, h₂⟩
      have hcw : (edit c >>= ways c) = .ok bs₁ := bind_eq_ok_iff.2 ⟨m, hm, hw⟩
      exact ⟨bs₁ ++ bs₂, each_cons_eq_ok_iff.2 ⟨bs₁, bs₂, hcw, he, rfl⟩, List.rel_append hb₁ hb₂⟩
    · rintro ⟨_, hall, hb⟩
      obtain ⟨bs₁, bs₂, hcw, he, rfl⟩ := each_cons_eq_ok_iff.1 hall
      obtain ⟨m, hm, hw⟩ := bind_eq_ok_iff.1 hcw
      obtain ⟨out₁, out₂, hb₁, hb₂, rfl⟩ := forall₂_append_left hb
      obtain ⟨ms, hms, h₂⟩ := ih.2 ⟨bs₂, he, hb₂⟩
      have h₁ := (hrest c m hm out₁).2 ⟨bs₁, hw, hb₁⟩
      exact ⟨m :: ms, .cons hm hms, each_cons_eq_ok_iff.2 ⟨out₁, out₂, h₁, h₂, rfl⟩⟩

/-- **Nested fans.**  If each result of a first step goes through a second one that has its own
choices, the results of both are made by the choices of the second within each choice of the
first. -/
theorem MadeBy.fan {first : Except Failure (List α)} {choices : Except Failure (List γ)}
    {edit : γ → Except Failure α} {rest : α → Except Failure (List ρ)}
    {ways : γ → α → Except Failure (List β)} {record : β → Except Failure ρ}
    (h : MadeBy first choices edit)
    (hrest : ∀ c m, edit c = .ok m → MadeBy (rest m) (ways c m) record) :
    MadeBy (first >>= each rest) (choices >>= each fun c => edit c >>= ways c) record := by
  intro out
  rw [h.bind_each_eq_ok_iff]
  simp only [nested_each_iff hrest, bind_eq_ok_iff]
  constructor
  · rintro ⟨cs, hcs, bs, he, hb⟩
    exact ⟨bs, ⟨cs, hcs, he⟩, hb⟩
  · rintro ⟨bs, ⟨cs, hcs, he⟩, hb⟩
    exact ⟨cs, hcs, bs, he, hb⟩

end JobExpansion
