import JobExpansion.Proofs.Expansion.Nested
import JobExpansion.Proofs.Expansion.Steps

/-!
# The identity of a record

The names, the description and the symbol of a record are those of the job, changed by the choices
of its branch one after another (`Identity.along`) and by nothing else.
-/

namespace JobExpansion

variable {settings : Settings} {b : Branch} {j r : Job} {id : Identity}

/-- The identity at the end of a branch. -/
def Identity.along (b : Branch) (id : Identity) : Identity :=
  (((id.toApp b.app).toLoad b.isCold).toProfile b.isTwin).toChunk b.chunk

namespace Job

theorem Carries.congr (hid : j.Carries id) (h : ∀ k ∈ Identity.fields, r.get? k = j.get? k) :
    r.Carries id where
  testName := (h _ (by decide)).trans hid.testName
  tryName := (h _ (by decide)).trans hid.tryName
  description := (h _ (by decide)).trans hid.description
  symbol := (h _ (by decide)).trans hid.symbol

/-- No field of the identity is keyed. -/
theorem Carries.resolved (hid : j.Carries id) (hr : j.resolved settings = .ok r) : r.Carries id :=
  hid.congr fun k hk => get?_resolved hr (by revert k; decide)

theorem Carries.withOptions (hid : j.Carries id) (hr : j.withOptions settings = .ok r) :
    r.Carries id :=
  hid.congr fun k hk => get?_withOptions hr (by revert k; decide)

end Job

/-- **The record of a branch is known as the branch says.** -/
theorem Branch.Walk.carries_record (w : b.Walk settings j r) (hid : j.withDefaults.Carries id) :
    r.Carries (id.along b) :=
  (w.carries ((hid.toApp w.toApp).resolved w.resolve)).withOptions w.finish

/-- The records of an expansion, their branches and their identities. -/
theorem identities_of_expand {out : List Job} (h : expand settings [j] = .ok out) :
    ∃ id bs, j.withDefaults.Carries id ∧ j.branches settings = .ok bs ∧
      List.Forall₂ (fun b r => b.record settings j = .ok r ∧ r.Carries (id.along b)) bs out := by
  obtain ⟨hready, bs, hbs, hall⟩ := branches_of_expand h
  obtain ⟨id, hid⟩ := hready.carries
  refine ⟨id, bs, hid, hbs, hall.imp fun b r hr => ⟨hr, ?_⟩⟩
  obtain ⟨w⟩ := Branch.exists_walk hready hr
  exact w.carries_record hid

end JobExpansion
