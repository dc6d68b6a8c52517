import Mathlib.Data.Nat.Bitwise
import JobExpansion.Pattern.Anchored

/-!
# Matching a whole text

An expression matches the whole of a text when its end can be reached from its start. Between the
two anchors of a text every expression does just that (`matchesIn_enclosed`): the places from which
it may start are cut down to the first one, and those where it may end to the last one. An
expression that spells out some characters matches no other text.
-/

namespace JobExpansion.Regex

variable {text : List Char} {r : Regex}

/-- The end of a text can be reached from its start. -/
def matchesWhole (r : Regex) (text : List Char) : Bool := (r.reach text 1).testBit text.length

/-- An expression between the two ends of a text. -/
def enclosed (r : Regex) : Regex := ofSeq [.look .textStart, r, .look .textEnd]

/-! ### Anchors -/

theorem lookPlaces_textStart_of_some (c : Char) (text : List Char) :
    lookPlaces .textStart (some c) text = 0 := by
  induction text generalizing c with
  | nil => rfl
  | cons d text ih => rw [lookPlaces, ih]; rfl

/-- A text starts at its first place only. -/
theorem lookPlaces_textStart (text : List Char) : lookPlaces .textStart none text = 1 := by
  cases text with
  | nil => rfl
  | cons c text => rw [lookPlaces, lookPlaces_textStart_of_some]; rfl

/-- A text ends at its last place only. -/
theorem lookPlaces_textEnd (before : Option Char) (text : List Char) :
    lookPlaces .textEnd before text = 2 ^ text.length := by
  induction text generalizing before with
  | nil => rfl
  | cons c text ih =>
    rw [lookPlaces, ih, List.length_cons, Nat.pow_succ]
    simp [Look.holds, Nat.mul_comm]

/-- **Between anchors an expression has to match the whole text.** -/
theorem matchesIn_enclosed (r : Regex) (text : List Char) :
    (enclosed r).matchesIn text = r.matchesWhole text := by
  have hfirst : (Nat.pow 2 (text.length + 1) - 1) &&& 1 = 1 := by
    have hodd : (2 ^ (text.length + 1) - 1) % 2 = 1 := by
      have := Nat.pow_pos (n := text.length) (show 0 < 2 by decide)
      omega
    rwa [Nat.and_one_is_mod]
  have hreach : (enclosed r).reach text (Nat.pow 2 (text.length + 1) - 1) =
      r.reach text 1 &&& 2 ^ text.length := by
    simp only [enclosed, ofSeq, reach, lookPlaces_textStart, lookPlaces_textEnd, hfirst]
  rw [matchesIn, matchesWhole, hreach, Nat.and_two_pow]
  cases (r.reach text 1).testBit text.length with
  | false => simp
  | true => simp

/-! ### Characters spelt out -/

/-- The expression that spells out some characters. -/
def literal (cs : List Char) : Regex := ofSeq (cs.map fun c => .chars (.single c))

theorem reach_ofSeq (text : List Char) (as : List Regex) (places : Nat) :
    (ofSeq as).reach text places = as.foldl (fun places a => a.reach text places) places := by
  induction as generalizing places with
  | nil => rfl
  | cons a as ih =>
    cases as with
    | nil => rfl
    | cons b as => exact ih (a.reach text places)

theorem contains_single (c d : Char) : (CharClass.single c).contains d.toNat = decide (c = d) := by
  have h : c.toNat = d.toNat ↔ c = d := Char.toNat_inj
  simp only [CharClass.single, CharClass.contains, ← h]
  by_cases hcd : c.toNat = d.toNat
  · simp [hcd]
  · simp only [hcd, decide_false, Bool.and_eq_false_iff, decide_eq_false_iff_not]
    omega

theorem stepPlaces_zero (set : CharClass) (text : List Char) : stepPlaces set text 0 = 0 := by
  cases text <;> rfl

/-- A character leads from the place before it to the one after it. -/
theorem stepPlaces_single (c : Char) (before rest : List Char) :
    stepPlaces (.single c) (before ++ rest) (2 ^ before.length) =
      if rest.head? = some c then 2 ^ (before.length + 1) else 0 := by
  induction before with
  | nil =>
    cases rest with
    | nil => rfl
    | cons d rest =>
      rw [List.nil_append, List.length_nil, stepPlaces, contains_single]
      by_cases h : c = d
      · simp [h, stepPlaces_zero]
      · simp [h, Ne.symm h, stepPlaces_zero]
  | cons d before ih =>
    have hpos : 2 ^ (before.length + 1) ≠ 0 := by simp
    have heven : ¬ 2 ^ (before.length + 1) % 2 = 1 := by omega
    have hhalf : 2 ^ (before.length + 1) / 2 = 2 ^ before.length := by omega
    rw [List.cons_append, List.length_cons, stepPlaces, if_neg hpos, hhalf, ih,
      if_neg fun h => heven h.1]
    split <;> simp [Nat.pow_succ, Nat.mul_comm]

theorem foldl_reach_zero (text cs : List Char) :
    (cs.map fun c => chars (.single c)).foldl (fun places a => a.reach text places) 0 = 0 := by
  induction cs with
  | nil => rfl
  | cons c cs ih => rw [List.map_cons, List.foldl_cons, reach, stepPlaces_zero, ih]

theorem reach_literal (cs before rest : List Char) :
    (literal cs).reach (before ++ rest) (2 ^ before.length) =
      if cs <+: rest then 2 ^ (before.length + cs.length) else 0 := by
  rw [literal, reach_ofSeq]
  induction cs generalizing before rest with
  | nil => simp
  | cons c cs ih =>
    rw [List.map_cons, List.foldl_cons, reach, stepPlaces_single]
    cases rest with
    | nil => simp [foldl_reach_zero]
    | cons d rest =>
      by_cases h : c = d
      · subst h
        have := ih (before ++ [c]) rest
        simp only [List.append_assoc, List.singleton_append, List.length_append,
          List.length_singleton] at this
        simp [this, Nat.add_assoc, Nat.add_comm 1]
      · simp [h, Ne.symm h, foldl_reach_zero]

/-- **Characters spelt out match themselves only.** -/
theorem matchesWhole_literal (cs text : List Char) :
    (literal cs).matchesWhole text = true ↔ text = cs := by
  have h := reach_literal cs [] text
  rw [List.nil_append, List.length_nil, Nat.zero_add] at h
  rw [matchesWhole, show (1 : Nat) = 2 ^ 0 from rfl, h]
  by_cases hp : cs <+: text
  · rw [if_pos hp, Nat.testBit_two_pow, decide_eq_true_iff]
    exact ⟨fun hl => (hp.eq_of_length hl).symm, fun ht => by rw [ht]⟩
  · rw [if_neg hp, Nat.zero_testBit]
    exact ⟨nofun, fun ht => absurd (ht ▸ List.prefix_refl cs) hp⟩

end JobExpansion.Regex
