import JobExpansion.Proofs.Keyed.Choice
import JobExpansion.Proofs.Pattern.Enclosed

/-!
# Anchored keys

A key is put between the anchors as text. It matches the whole of a text or not at all, and it is a
pattern by itself, unless it closes a group that it does not open (`anchored_at_both_ends`): then it
closes the group around it, and its alternatives may stand at one anchor each.
-/

namespace JobExpansion.Keyed

variable {text key : String} {es : Entries}

/-- A key is a pattern by itself. -/
def StandsAlone (key : String) : Prop := ∃ r, Pattern.Alone key r

/-- A key is a pattern by itself, and as such it matches the whole of a text. -/
def MatchesWhole (key text : String) : Prop :=
  ∃ r, Pattern.Alone key r ∧ r.matchesWhole text.toList = true

/-- A key is no pattern by itself because it closes a group that it does not open. -/
def ClosesUnopened (key : String) : Prop := Pattern.read key.toList = .error .groupUnopened

instance (key : String) : Decidable (ClosesUnopened key) := inferInstanceAs (Decidable (_ = _))

/-- What is compiled of a key stands between the anchors. -/
theorem compile_of_isPattern (h : IsPattern key) (hkey : ¬ ClosesUnopened key) :
    ∃ own, Pattern.Alone key own ∧ Pattern.compile key = .ok (Regex.enclosed own) := by
  obtain ⟨r, hr⟩ := h
  rcases Pattern.compile_eq_ok hr with ⟨own, hown, rfl⟩ | hunopened
  · exact ⟨own, hown, hr⟩
  · exact absurd hunopened hkey

/-- A key that is compiled matches what it matches by itself as a whole. -/
theorem matches_iff_matchesWhole (h : IsPattern key) (hkey : ¬ ClosesUnopened key) :
    Matches key text ↔ MatchesWhole key text := by
  obtain ⟨own, hown, hr⟩ := compile_of_isPattern h hkey
  have haccepts : Pattern.accepts (Regex.enclosed own) text = own.matchesWhole text.toList :=
    Regex.matchesIn_enclosed own text.toList
  constructor
  · rintro ⟨r, hr', hm⟩
    cases hr.symm.trans hr'
    exact ⟨own, hown, haccepts.symm.trans hm⟩
  · rintro ⟨own', ⟨hread, -⟩, hm⟩
    cases hown.1.symm.trans hread
    exact ⟨_, hr, haccepts.trans hm⟩

/-- **Keys are anchored at both ends.**  Let a text be no key of some alternatives. A key of theirs
that closes no group but its own counts as a match only if by itself it is a pattern that matches
the whole of the text, and then it does count if it is compiled; and if it is no pattern by itself,
the choice fails and tells a key that is none. -/
theorem anchored_at_both_ends (h : es.lookup text = none) {row : String × Value} (hrow : row ∈ es)
    (hkey : ¬ ClosesUnopened row.1) :
    (Matches row.1 text ↔ IsPattern row.1 ∧ MatchesWhole row.1 text) ∧
      (¬ StandsAlone row.1 → ∃ bad ∈ es, ∃ fault, Pattern.compile bad.1 = .error fault ∧
        choose (some text) es = .error (.invalid bad.1 fault.message)) := by
  refine ⟨⟨fun hm => ⟨hm.isPattern, ?_⟩, fun ⟨hp, hm⟩ => ?_⟩, fun halone => ?_⟩
  · exact (matches_iff_matchesWhole hm.isPattern hkey).1 hm
  · exact (matches_iff_matchesWhole hp hkey).2 hm
  · have hno : ¬ IsPattern row.1 := fun hp =>
      let ⟨own, hown, _⟩ := compile_of_isPattern hp hkey
      halone ⟨own, hown⟩
    rw [choose_some]
    exact chooseFor_of_not_isPattern h ⟨row, hrow, hno⟩

/-- Page loads by platform, one of them for a key that is no pattern. -/
def platforms : Entries := [("android-hw.*", .text "cold"), ("(", .text "warm")]

theorem anchored_platforms :
    (platforms.lookup "android-hw-g5/opt" = none ∧ Matches "android-hw.*" "android-hw-g5/opt" ∧
      ¬ ClosesUnopened "android-hw.*" ∧ ¬ ClosesUnopened "(" ∧ ¬ StandsAlone "(") ∧
    MatchesWhole "android-hw.*" "android-hw-g5/opt" ∧
    choose (some "android-hw-g5/opt") platforms = .error (.invalid "(" "unclosed group") := by
  have hnone : platforms.lookup "android-hw-g5/opt" = none := by decide
  have hm : Matches "android-hw.*" "android-hw-g5/opt" := matchesText_iff.1 (by decide +kernel)
  have hfirst : ¬ ClosesUnopened "android-hw.*" := by decide +kernel
  have hsecond : ¬ ClosesUnopened "(" := by decide +kernel
  have halone : ¬ StandsAlone "(" := by
    rintro ⟨r, hread, -⟩
    have hunclosed : Pattern.read "(".toList = .error .groupUnclosed := by decide +kernel
    cases hunclosed.symm.trans hread
  obtain ⟨-, hwhole⟩ := (anchored_at_both_ends hnone List.mem_cons_self hfirst).1.1 hm
  obtain ⟨bad, hbad, fault, hfault, hc⟩ :=
    (anchored_at_both_ends hnone (List.mem_cons_of_mem _ List.mem_cons_self) hsecond).2 halone
  rcases List.mem_cons.1 hbad with rfl | hbad
  · exact absurd hm.isPattern (not_isPattern_iff.2 ⟨fault, hfault⟩)
  · obtain rfl := List.mem_singleton.1 hbad
    have hfault' : Pattern.compile "(" = .error .groupUnclosed := by decide +kernel
    cases hfault.symm.trans hfault'
    exact ⟨⟨hnone, hm, hfirst, hsecond, halone⟩, hwhole, hc⟩

-- A key that closes the group around it is no pattern, and yet it matches a text of which it is not
-- the whole: its first alternative is anchored at the start only.
example :
    ClosesUnopened "a)|(?:b" ∧
      choose (some "ax") [("a)|(?:b", .number (.int 1)), (defaultKey, .number (.int 2))] =
        .ok (.number (.int 1)) := by
  decide +kernel

end JobExpansion.Keyed
