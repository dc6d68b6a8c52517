import JobExpansion.Failure.Cause

/-!
# Outcomes of steps that may fail

When a chain of steps succeeds and when it fails, and what a list gives when each of its entries
is replaced by a list of results (`each`). `each_bind_eq_ok_iff` says that replacing twice in a row
succeeds exactly when replacing by the combined step does, with the same results in the same order.
`run_forM_perm` says of steps on a state that they may be taken in any order if any two may be
exchanged.
-/

namespace JobExpansion

section Except

variable {ε ε' α β : Type}

@[simp] theorem ok_bind (a : α) (f : α → Except ε β) : (Except.ok a >>= f) = f a := rfl

@[simp] theorem error_bind (e : ε) (f : α → Except ε β) :
    ((Except.error e : Except ε α) >>= f) = .error e := rfl

@[simp] theorem bind_eq_ok_iff {x : Except ε α} {f : α → Except ε β} {b : β} :
    (x >>= f) = .ok b ↔ ∃ a, x = .ok a ∧ f a = .ok b := by
  cases x <;> simp [bind, Except.bind]

@[simp] theorem bind_eq_error_iff {x : Except ε α} {f : α → Except ε β} {e : ε} :
    (x >>= f) = .error e ↔ x = .error e ∨ ∃ a, x = .ok a ∧ f a = .error e := by
  cases x <;> simp [bind, Except.bind]

@[simp] theorem map_eq_ok_iff {x : Except ε α} {f : α → β} {b : β} :
    x.map f = .ok b ↔ ∃ a, x = .ok a ∧ f a = b := by
  cases x <;> simp [Except.map]

@[simp] theorem map_eq_error_iff {x : Except ε α} {f : α → β} {e : ε} :
    x.map f = .error e ↔ x = .error e := by
  cases x <;> simp [Except.map]

@[simp] theorem functor_map_eq_ok_iff {x : Except ε α} {f : α → β} {b : β} :
    f <$> x = .ok b ↔ ∃ a, x = .ok a ∧ f a = b := map_eq_ok_iff

@[simp] theorem functor_map_eq_error_iff {x : Except ε α} {f : α → β} {e : ε} :
    f <$> x = .error e ↔ x = .error e := map_eq_error_iff

@[simp] theorem ok_mapError (f : ε → ε') (a : α) :
    (Except.ok a : Except ε α).mapError f = .ok a := rfl

@[simp] theorem error_mapError (f : ε → ε') (e : ε) :
    (Except.error e : Except ε α).mapError f = .error (f e) := rfl

@[simp] theorem mapError_eq_ok_iff {x : Except ε α} {f : ε → ε'} {a : α} :
    x.mapError f = .ok a ↔ x = .ok a := by
  cases x <;> simp

@[simp] theorem mapError_eq_error_iff {x : Except ε α} {f : ε → ε'} {e : ε'} :
    x.mapError f = .error e ↔ ∃ e', x = .error e' ∧ f e' = e := by
  cases x <;> simp

theorem mapError_bind (h : ε → ε') (x : Except ε α) (k : α → Except ε β) :
    (x >>= k).mapError h = x.mapError h >>= fun a => (k a).mapError h := by
  cases x <;> rfl

@[simp] theorem pure_eq_ok_iff {a b : α} : (pure a : Except ε α) = .ok b ↔ a = b := by
  simp [pure, Except.pure]

@[simp] theorem pure_ne_error {a : α} {e : ε} : (pure a : Except ε α) ≠ .error e := by
  simp [pure, Except.pure]

/-- What is known of the result of a step that does not fail. -/
theorem holds_of_eq_ok {x : Except ε α} {a : α} {P : α → Prop} (h : ∃ b, x = .ok b ∧ P b)
    (hx : x = .ok a) : P a := by
  obtain ⟨b, hb, hp⟩ := h
  cases hb.symm.trans hx
  exact hp

end Except

/-! ### Steps on a state -/

section Run

variable {ε ε' σ α β : Type} {x : EStateM ε σ α} {f : α → EStateM ε σ β} {s r : σ}

theorem run_bind_eq_ok_iff {b : β} : (x >>= f).run s = .ok b r ↔
    ∃ a m, x.run s = .ok a m ∧ (f a).run m = .ok b r := by
  rw [EStateM.run_bind]
  cases x.run s <;> simp [and_assoc]

theorem run_bind_eq_error_iff {e : ε} : (x >>= f).run s = .error e r ↔
    x.run s = .error e r ∨ ∃ a m, x.run s = .ok a m ∧ (f a).run m = .error e r := by
  rw [EStateM.run_bind]
  cases x.run s <;> simp [and_assoc]

theorem run_adaptExcept_eq_ok_iff {g : ε → ε'} {a : α} :
    (x.adaptExcept g).run s = .ok a r ↔ x.run s = .ok a r := by
  rw [EStateM.run_adaptExcept]
  cases x.run s <;> simp

theorem run_adaptExcept_eq_error_iff {g : ε → ε'} {e : ε'} :
    (x.adaptExcept g).run s = .error e r ↔ ∃ e', x.run s = .error e' r ∧ g e' = e := by
  rw [EStateM.run_adaptExcept]
  cases x.run s with
  | ok a m => simp
  | error e' m =>
    constructor
    · rintro ⟨⟩
      exact ⟨e', rfl, rfl⟩
    · rintro ⟨_, ⟨⟩, rfl⟩
      rfl

theorem run_tryCatch (x : EStateM ε σ α) (handler : ε → EStateM ε σ α) (s : σ) :
    (tryCatch x handler).run s =
      match x.run s with
      | .ok a m => .ok a m
      | .error e m => (handler e).run m := by
  change EStateM.tryCatch x handler s = _
  unfold EStateM.tryCatch EStateM.run
  cases x s <;> rfl

end Run

/-! ### Steps on a state, one after another -/

section State

variable {ε σ α : Type} {f : α → EStateM ε σ Unit} {as bs : List α} {s r : σ}

theorem run_forM_cons_eq_ok_iff {a : α} : ((a :: as).forM f).run s = .ok () r ↔
    ∃ m, (f a).run s = .ok () m ∧ (as.forM f).run m = .ok () r := by
  have hcons : (a :: as).forM f = f a >>= fun _ => as.forM f := rfl
  rw [hcons, run_bind_eq_ok_iff]
  exact ⟨fun ⟨_, h⟩ => h, fun h => ⟨(), h⟩⟩

/-- Steps that change nothing change nothing together. -/
theorem run_forM_of_fixed (h : ∀ a ∈ as, (f a).run s = .ok () s) :
    (as.forM f).run s = .ok () s := by
  induction as with
  | nil => rfl
  | cons a as ih =>
    exact run_forM_cons_eq_ok_iff.2 ⟨s, h a List.mem_cons_self,
      ih fun b hb => h b (List.mem_cons_of_mem _ hb)⟩

/-- What every step keeps holds at the end if it holds at the start. -/
theorem run_forM_keeps {P : σ → Prop} (hkeeps : ∀ a ∈ as, ∀ s m, P s →
    (f a).run s = .ok () m → P m) (hs : P s) (hr : (as.forM f).run s = .ok () r) : P r := by
  induction as generalizing s with
  | nil =>
    cases hr
    exact hs
  | cons a as ih =>
    obtain ⟨m, hm, hr⟩ := run_forM_cons_eq_ok_iff.1 hr
    exact ih (fun b hb => hkeeps b (List.mem_cons_of_mem _ hb))
      (hkeeps a List.mem_cons_self s m hs hm) hr

/-- **Steps that may be exchanged may be taken in any order**, as long as the states are such that
they may. -/
theorem run_forM_perm {P : σ → Prop} {Q : α → Prop} (h : as.Perm bs) (has : ∀ a ∈ as, Q a)
    (hkeeps : ∀ a, Q a → ∀ s m, P s → (f a).run s = .ok () m → P m)
    (hswap : ∀ a b, Q a → Q b → ∀ s m r, P s → (f a).run s = .ok () m → (f b).run m = .ok () r →
      ∃ m', (f b).run s = .ok () m' ∧ (f a).run m' = .ok () r)
    (hs : P s) (hr : (as.forM f).run s = .ok () r) : (bs.forM f).run s = .ok () r := by
  induction h generalizing s with
  | nil => exact hr
  | cons a _ ih =>
    obtain ⟨m, hm, hr⟩ := run_forM_cons_eq_ok_iff.1 hr
    have hP : P m := hkeeps a (has a List.mem_cons_self) s m hs hm
    exact run_forM_cons_eq_ok_iff.2
      ⟨m, hm, ih (fun b hb => has b (List.mem_cons_of_mem _ hb)) hP hr⟩
  | swap a b as =>
    obtain ⟨m, hm, hr⟩ := run_forM_cons_eq_ok_iff.1 hr
    obtain ⟨n, hn, hr⟩ := run_forM_cons_eq_ok_iff.1 hr
    obtain ⟨m', hm', hn'⟩ := hswap b a (has b List.mem_cons_self)
      (has a (List.mem_cons_of_mem _ List.mem_cons_self)) s m n hs hm hn
    exact run_forM_cons_eq_ok_iff.2 ⟨m', hm', run_forM_cons_eq_ok_iff.2 ⟨n, hn', hr⟩⟩
  | trans h _ ih ih' => exact ih' (fun b hb => has b (h.mem_iff.2 hb)) hs (ih has hs hr)

end State

/-! ### Where steps on a state lead -/

section Moves

variable {ε σ α β : Type} {R : σ → σ → Prop} {x : EStateM ε σ α} {f : α → EStateM ε σ β}

/-- A step leads from every state to one that is in a relation to it, whether it is done or
fails. -/
def Moves (R : σ → σ → Prop) (x : EStateM ε σ α) : Prop :=
  ∀ s, match x.run s with
    | .ok _ m => R s m
    | .error _ m => R s m

theorem Moves.bind (htrans : ∀ {a b c}, R a b → R b c → R a c) (hx : Moves R x)
    (hf : ∀ a, Moves R (f a)) : Moves R (x >>= f) := by
  intro s
  have hs := hx s
  rw [EStateM.run_bind]
  cases hrun : x.run s with
  | error e m =>
    rw [hrun] at hs
    exact hs
  | ok a m =>
    rw [hrun] at hs
    have hm := hf a m
    dsimp only
    cases hrun' : (f a).run m <;> rw [hrun'] at hm <;> exact htrans hs hm

theorem Moves.tryCatch {handler : ε → EStateM ε σ α} (htrans : ∀ {a b c}, R a b → R b c → R a c)
    (hx : Moves R x) (hhandler : ∀ e, Moves R (handler e)) : Moves R (tryCatch x handler) := by
  intro s
  have hs := hx s
  rw [run_tryCatch]
  cases hrun : x.run s with
  | ok a m =>
    rw [hrun] at hs
    exact hs
  | error e m =>
    rw [hrun] at hs
    have hm := hhandler e m
    dsimp only
    cases hrun' : (handler e).run m <;> rw [hrun'] at hm <;> exact htrans hs hm

end Moves

/-! ### Replacing each entry of a list -/

section Each

variable {α β γ : Type} {f : α → Except Failure (List β)} {g : β → Except Failure (List γ)}

/-- The results for each entry of a list, one after another. -/
def each (f : α → Except Failure (List β)) : List α → Except Failure (List β)
  | [] => .ok []
  | a :: as => do
    let first ← f a
    return first ++ (← each f as)

@[simp] theorem each_nil : each f [] = .ok [] := rfl

@[simp] theorem each_cons_eq_ok_iff {a : α} {as : List α} {bs : List β} :
    each f (a :: as) = .ok bs ↔
      ∃ first rest, f a = .ok first ∧ each f as = .ok rest ∧ first ++ rest = bs := by
  simp [each]

theorem each_pure (as : List α) : each (fun a => .ok [a]) as = .ok as := by
  induction as with
  | nil => rfl
  | cons a as ih => rw [each, ih]; rfl

theorem each_append_eq_ok_iff {as as' : List α} {bs : List β} :
    each f (as ++ as') = .ok bs ↔
      ∃ first rest, each f as = .ok first ∧ each f as' = .ok rest ∧ first ++ rest = bs := by
  induction as generalizing bs with
  | nil => simp
  | cons a as ih =>
    simp only [List.cons_append, each_cons_eq_ok_iff, ih]
    constructor
    · rintro ⟨x, _, hx, ⟨y, z, hy, hz, rfl⟩, rfl⟩
      exact ⟨x ++ y, z, ⟨x, y, hx, hy, rfl⟩, hz, List.append_assoc x y z⟩
    · rintro ⟨_, z, ⟨x, y, hx, hy, rfl⟩, hz, rfl⟩
      exact ⟨x, y ++ z, hx, ⟨y, z, hy, hz, rfl⟩, (List.append_assoc x y z).symm⟩

theorem each_singleton (a : α) : each f [a] = f a := by
  rw [each]
  cases f a with
  | error e => rfl
  | ok bs => exact congrArg Except.ok (List.append_nil bs)

/-- **Two replacements in a row.**  Replacing the entries of a list by one step and the results by
another succeeds exactly when doing both steps for one entry after another does. -/
theorem each_bind_eq_ok_iff {as : List α} {cs : List γ} :
    (each f as >>= each g) = .ok cs ↔ each (fun a => f a >>= each g) as = .ok cs := by
  induction as generalizing cs with
  | nil => simp
  | cons a as ih =>
    simp only [each_cons_eq_ok_iff, ← ih, bind_eq_ok_iff]
    constructor
    · rintro ⟨_, ⟨x, y, hx, hy, rfl⟩, h⟩
      obtain ⟨u, v, hu, hv, rfl⟩ := each_append_eq_ok_iff.1 h
      exact ⟨u, v, ⟨x, hx, hu⟩, ⟨y, hy, hv⟩, rfl⟩
    · rintro ⟨u, v, ⟨x, hx, hu⟩, ⟨y, hy, hv⟩, rfl⟩
      exact ⟨x ++ y, ⟨x, y, hx, hy, rfl⟩, each_append_eq_ok_iff.2 ⟨u, v, hu, hv, rfl⟩⟩

theorem mem_of_each {as : List α} {bs : List β} {b : β} (h : each f as = .ok bs) (hb : b ∈ bs) :
    ∃ a ∈ as, ∃ part, f a = .ok part ∧ b ∈ part := by
  induction as generalizing bs with
  | nil =>
    cases h
    cases hb
  | cons a as ih =>
    obtain ⟨first, rest, hfirst, hrest, rfl⟩ := each_cons_eq_ok_iff.1 h
    rcases List.mem_append.1 hb with hb | hb
    · exact ⟨a, List.mem_cons_self, first, hfirst, hb⟩
    · obtain ⟨a', ha', part, hpart, hb⟩ := ih hrest hb
      exact ⟨a', List.mem_cons_of_mem _ ha', part, hpart, hb⟩

/-- The first entry without results stops it. -/
theorem each_eq_error_iff {as : List α} {e : Failure} : each f as = .error e ↔
    ∃ before a after, as = before ++ a :: after ∧ (∀ b ∈ before, ∃ part, f b = .ok part) ∧
      f a = .error e := by
  induction as with
  | nil => simp [each]
  | cons a as ih =>
    simp only [each, bind_eq_error_iff, pure_ne_error, and_false, exists_false, or_false, ih]
    constructor
    · rintro (h | ⟨part, hpart, before, b, after, rfl, hbefore, h⟩)
      · exact ⟨[], a, as, rfl, List.forall_mem_nil _, h⟩
      · exact ⟨a :: before, b, after, rfl, List.forall_mem_cons.2 ⟨⟨part, hpart⟩, hbefore⟩, h⟩
    · rintro ⟨before, b, after, has, hbefore, h⟩
      cases before with
      | nil =>
        cases has
        exact .inl h
      | cons a' before =>
        cases has
        obtain ⟨⟨part, hpart⟩, hbefore⟩ := List.forall_mem_cons.1 hbefore
        exact .inr ⟨part, hpart, before, b, after, rfl, hbefore, h⟩

/-- Results that tell by a key which entry they are for are different if the entries are. -/
theorem nodup_of_each {key : β → α} {P : β → Prop} {as : List α} {bs : List β}
    (h : each f as = .ok bs) (has : as.Nodup)
    (hpart : ∀ a part, f a = .ok part → part.Nodup ∧ ∀ b ∈ part, key b = a ∧ P b) :
    bs.Nodup ∧ ∀ b ∈ bs, key b ∈ as ∧ P b := by
  have hmem : ∀ {as bs b}, each f as = .ok bs → b ∈ bs → key b ∈ as ∧ P b := by
    intro as bs b h hb
    obtain ⟨a, ha, part, hp, hbp⟩ := mem_of_each h hb
    obtain ⟨rfl, hP⟩ := (hpart a part hp).2 b hbp
    exact ⟨ha, hP⟩
  refine ⟨?_, fun b hb => hmem h hb⟩
  induction as generalizing bs with
  | nil =>
    cases h
    exact List.nodup_nil
  | cons a as ih =>
    obtain ⟨first, rest, hfirst, hrest, rfl⟩ := each_cons_eq_ok_iff.1 h
    obtain ⟨ha, has⟩ := List.nodup_cons.1 has
    obtain ⟨hnodup, hkey⟩ := hpart a first hfirst
    refine List.nodup_append.2 ⟨hnodup, ih hrest has, ?_⟩
    -- a result of the first entry that came back later would be for another entry by its key
    rintro b hb _ hb' rfl
    exact ha ((hkey b hb).1 ▸ (hmem hrest hb').1)

end Each

end JobExpansion
