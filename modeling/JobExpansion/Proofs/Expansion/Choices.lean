import Mathlib.Data.List.Nodup
import Mathlib.Data.Prod.Basic
import JobExpansion.Proofs.Expansion.Nested
import JobExpansion.Proofs.Expansion.Steps

/-!
# Choices

The apps and the subtests to choose from are those of a list, or none at all if it is empty
(`choicesOf`). The subtests stay the same along all branches, and if no app is listed twice no
branch is (`Ready.branches_spec`).
-/

namespace JobExpansion

variable {α : Type} {settings : Settings} {j m r : Job}

/-- What a list gives to choose from. -/
def choicesOf : List α → List (Option α)
  | [] => [none]
  | l => l.map some

theorem nodup_choicesOf {l : List α} (h : l.Nodup) : (choicesOf l).Nodup := by
  cases l with
  | nil => exact List.nodup_singleton none
  | cons a l => exact h.map fun _ _ => Option.some.inj

/-- An empty list has one choice, and any other none but its entries. -/
theorem mem_choicesOf {l : List α} {x : Option α} :
    x ∈ choicesOf l ↔ (l = [] ∧ x = none) ∨ ∃ a ∈ l, x = some a := by
  cases l with
  | nil => simp [choicesOf]
  | cons a l => simp [choicesOf, eq_comm]

theorem isSome_of_mem_choicesOf {l : List α} {x y : Option α} (hx : x ∈ choicesOf l)
    (hy : y ∈ choicesOf l) : x.isSome = y.isSome := by
  rcases mem_choicesOf.1 hx with ⟨rfl, rfl⟩ | ⟨a, ha, rfl⟩
  · rcases mem_choicesOf.1 hy with ⟨-, rfl⟩ | ⟨b, hb, -⟩
    · rfl
    · cases hb
  · rcases mem_choicesOf.1 hy with ⟨rfl, -⟩ | ⟨b, -, rfl⟩
    · cases ha
    · rfl

namespace Job

theorem appChoices_eq (h : j.withApps settings = .ok m) :
    j.appChoices settings = .ok (choicesOf (m.appList.filterMap Value.text?)) := by
  rw [appChoices, h, ok_bind]
  cases m.appList.filterMap Value.text? <;> rfl

theorem chunkChoices_eq :
    j.chunkChoices = choicesOf ((j.subtests.zipIdx 1).map Prod.swap) := by
  unfold chunkChoices
  cases j.subtests with
  | nil => rfl
  | cons subtest subtests => exact (List.map_map ..).symm

theorem chunkChoices_congr (h : r.get? Field.raptorSubtests = j.get? Field.raptorSubtests) :
    r.chunkChoices = j.chunkChoices := by
  unfold chunkChoices subtests
  rw [h]

theorem nodup_loadChoices : j.loadChoices.Nodup := by
  rw [loadChoices_eq]
  split_ifs <;> decide

theorem nodup_profileChoices : j.profileChoices.Nodup := by
  rw [profileChoices_eq]
  split <;> decide

/-- Subtests are told apart by their numbers. -/
theorem nodup_chunkChoices : j.chunkChoices.Nodup := by
  rw [chunkChoices_eq]
  refine nodup_choicesOf (List.Nodup.map Prod.swap_injective (List.Nodup.of_map Prod.snd ?_))
  rw [List.zipIdx_map_snd]
  exact List.nodup_range'

theorem mem_zipIdx_of_chunk {c : Nat × String} (h : some c ∈ j.chunkChoices) :
    c.swap ∈ j.subtests.zipIdx 1 := by
  rw [chunkChoices_eq] at h
  rcases mem_choicesOf.1 h with ⟨-, hc⟩ | ⟨d, hd, hc⟩
  · cases hc
  · cases hc
    obtain ⟨entry, hentry, rfl⟩ := List.mem_map.1 hd
    exact hentry

theorem mem_subtests_of_chunk {c : Nat × String} (h : some c ∈ j.chunkChoices) :
    c.2 ∈ j.subtests := by
  have hfst : c.2 ∈ (j.subtests.zipIdx 1).map Prod.fst :=
    List.mem_map_of_mem (mem_zipIdx_of_chunk h)
  rwa [List.zipIdx_map_fst] at hfst

/-- A subtest that is listed once has one number. -/
theorem chunk_eq_of_mem {x y : Option (Nat × String)} (h : j.subtests.Nodup)
    (hx : x ∈ j.chunkChoices) (hy : y ∈ j.chunkChoices)
    (heq : x.map Prod.snd = y.map Prod.snd) : x = y := by
  cases x with
  | none => exact (Option.map_eq_none_iff.1 heq.symm).symm
  | some c =>
    obtain ⟨d, rfl, hsubtest⟩ := Option.map_eq_some_iff.1 heq.symm
    have hfst : ((j.subtests.zipIdx 1).map Prod.fst).Nodup := by rwa [List.zipIdx_map_fst]
    have hswap : c.swap = d.swap := List.inj_on_of_nodup_map hfst (mem_zipIdx_of_chunk hx)
      (mem_zipIdx_of_chunk hy) hsubtest.symm
    exact congrArg some (Prod.swap_injective hswap)

/-! ### Branches -/

/-- The branches of one app and one mode of loading pages. -/
theorem Ready.profiles_spec {app : Option String} {isCold : Bool} {part : List Branch}
    (h : j.Ready) (hpart : each (fun isTwin => do
      let r ← j.toProfile isTwin
      return r.chunkChoices.map fun chunk => Branch.mk app isCold isTwin chunk)
      j.profileChoices = .ok part) :
    part.Nodup ∧ ∀ b ∈ part, b.isTwin ∈ j.profileChoices ∧
      b.app = app ∧ b.isCold = isCold ∧ b.chunk ∈ j.chunkChoices := by
  refine nodup_of_each hpart nodup_profileChoices fun isTwin twins htwins => ?_
  obtain ⟨r, hr, htwins⟩ := bind_eq_ok_iff.1 htwins
  cases htwins
  have hchunks : r.chunkChoices = j.chunkChoices :=
    chunkChoices_congr (get?_toProfile h hr (by decide))
  refine ⟨nodup_chunkChoices.map fun _ _ heq => (Branch.mk.inj heq).2.2.2, fun b hb => ?_⟩
  obtain ⟨chunk, hchunk, rfl⟩ := List.mem_map.1 hb
  exact ⟨rfl, rfl, rfl, hchunks ▸ hchunk⟩

/-- The branches of one app. -/
theorem Ready.loads_spec {app : Option String} {part : List Branch} (h : j.Ready)
    (hpart : each (fun isCold => do
      let m ← j.toLoad isCold
      each (fun isTwin => do
        let r ← m.toProfile isTwin
        return r.chunkChoices.map fun chunk => Branch.mk app isCold isTwin chunk)
        m.profileChoices)
      j.loadChoices = .ok part) :
    part.Nodup ∧ ∀ b ∈ part, b.isCold ∈ j.loadChoices ∧ b.app = app ∧
      b.chunk ∈ j.chunkChoices := by
  refine nodup_of_each hpart nodup_loadChoices fun isCold loads hloads => ?_
  obtain ⟨m, hm, hloads⟩ := bind_eq_ok_iff.1 hloads
  have hchunks : m.chunkChoices = j.chunkChoices :=
    chunkChoices_congr (get?_toLoad h hm (by decide))
  obtain ⟨hnodup, hspec⟩ := (h.toLoad hm).profiles_spec hloads
  refine ⟨hnodup, fun b hb => ?_⟩
  obtain ⟨-, happ, hcold, hchunk⟩ := hspec b hb
  exact ⟨hcold, happ, hchunks ▸ hchunk⟩

/-- **Branches are different.**  If no app is listed twice, no branch is; and the app and the
subtest of each are choices that the job has from the start. -/
theorem Ready.branches_spec {bs : List Branch} {apps : List (Option String)}
    (h : j.withDefaults.Ready) (happs : j.withDefaults.appChoices settings = .ok apps)
    (hnodup : apps.Nodup) (hbs : j.branches settings = .ok bs) :
    bs.Nodup ∧ ∀ b ∈ bs, b.app ∈ apps ∧ b.chunk ∈ j.chunkChoices := by
  obtain ⟨apps', happs', hbs⟩ := bind_eq_ok_iff.1 hbs
  cases happs.symm.trans happs'
  refine nodup_of_each hbs hnodup fun app part hpart => ?_
  simp only [bind_eq_ok_iff] at hpart
  obtain ⟨m, hm, r, hr, hpart⟩ := hpart
  have hready : m.Ready := holds_of_eq_ok (h.toApp app) hm
  have hchunks : r.chunkChoices = j.chunkChoices := by
    refine chunkChoices_congr ?_
    rw [get?_resolved hr (by decide), get?_toApp h hm (by decide), get?_withDefaults (by decide)]
  obtain ⟨hnodup, hspec⟩ := (hready.resolved hr).loads_spec hpart
  refine ⟨hnodup, fun b hb => ?_⟩
  obtain ⟨-, happ, hchunk⟩ := hspec b hb
  exact ⟨happ, hchunks ▸ hchunk⟩

end Job

end JobExpansion
