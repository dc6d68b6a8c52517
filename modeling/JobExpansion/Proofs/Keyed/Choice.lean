import JobExpansion.Keyed.Basic

/-!
# What decides a choice

A choice looks for the key of the attribute's text first. Otherwise every key has to be a pattern,
and what counts are the rows whose keys match: one of them is taken, several are too many, and if
there is none the default is. `choose_some` and `choose_none` say that the short way for a lone
default comes to the same.
-/

namespace JobExpansion.Keyed

variable {text key : String} {es : Entries} {v : Value} {t : Trouble}

/-! ### Keys as patterns -/

/-- A key is a pattern. -/
def IsPattern (key : String) : Prop := ∃ r, Pattern.compile key = .ok r

/-- A key matches a text as a pattern. -/
def Matches (key text : String) : Prop :=
  ∃ r, Pattern.compile key = .ok r ∧ Pattern.accepts r text = true

/-- Whether a key matches a text as a pattern. -/
def matchesText (text key : String) : Bool :=
  match Pattern.compile key with
  | .ok r => Pattern.accepts r text
  | .error _ => false

theorem matchesText_iff : matchesText text key = true ↔ Matches key text := by
  unfold matchesText Matches
  cases Pattern.compile key <;> simp

theorem Matches.isPattern (h : Matches key text) : IsPattern key :=
  let ⟨r, hr, _⟩ := h
  ⟨r, hr⟩

theorem not_isPattern_iff : ¬ IsPattern key ↔ ∃ fault, Pattern.compile key = .error fault := by
  unfold IsPattern
  cases Pattern.compile key <;> simp

/-- The rows whose keys match a text. -/
def fitting (text : String) (es : Entries) : Entries := es.filter fun row => matchesText text row.1

theorem mem_fitting {row : String × Value} :
    row ∈ fitting text es ↔ row ∈ es ∧ Matches row.1 text := by
  rw [fitting, List.mem_filter, matchesText_iff]

theorem keys_fitting (text : String) (es : Entries) :
    (fitting text es).keys = es.keys.filter (matchesText text) := by
  rw [Entries.keys, Entries.keys, List.filter_map]
  rfl

/-! ### The scan of the keys -/

/-- A scan of patterns gives the values of the rows that match. -/
theorem matching_of_isPattern (text : String) (hall : ∀ row ∈ es, IsPattern row.1) :
    matching text es = .ok ((fitting text es).map (·.2)) := by
  induction es with
  | nil => rfl
  | cons row es ih =>
    obtain ⟨p, v⟩ := row
    obtain ⟨⟨r, hr⟩, hall⟩ := List.forall_mem_cons.1 hall
    have hm : matchesText text p = Pattern.accepts r text := by simp [matchesText, hr]
    rw [matching, hr]
    simp only [ih hall]
    cases ha : Pattern.accepts r text <;> simp [fitting, hm, ha]

/-- A scan stops at a key that is no pattern. -/
theorem matching_of_not_isPattern (text : String) (hno : ∃ row ∈ es, ¬ IsPattern row.1) :
    ∃ row ∈ es, ∃ fault, Pattern.compile row.1 = .error fault ∧
      matching text es = .error (.invalid row.1 fault.message) := by
  induction es with
  | nil =>
    obtain ⟨row, hrow, -⟩ := hno
    cases hrow
  | cons row es ih =>
    obtain ⟨p, v⟩ := row
    cases hp : Pattern.compile p with
    | error fault =>
      refine ⟨_, List.mem_cons_self, fault, hp, ?_⟩
      rw [matching, hp]
    | ok r =>
      -- the key at the head is a pattern, so the scan stops further on
      obtain ⟨other, hother, hno⟩ := hno
      have hmem : other ∈ es := (List.mem_cons.1 hother).resolve_left fun h => hno (h ▸ ⟨r, hp⟩)
      obtain ⟨stop, hstop, fault, hfault, hm⟩ := ih ⟨other, hmem, hno⟩
      refine ⟨stop, List.mem_cons_of_mem _ hstop, fault, hfault, ?_⟩
      rw [matching, hp]
      simp only [hm]

/-! ### The choice for a text -/

theorem chooseFor_of_lookup (h : es.lookup text = some v) : chooseFor text es = .ok v := by
  rw [chooseFor, h]

/-- A key that is no pattern stops the choice, unless the text is a key. -/
theorem chooseFor_of_not_isPattern (h : es.lookup text = none)
    (hno : ∃ row ∈ es, ¬ IsPattern row.1) :
    ∃ row ∈ es, ∃ fault, Pattern.compile row.1 = .error fault ∧
      chooseFor text es = .error (.invalid row.1 fault.message) := by
  obtain ⟨row, hrow, fault, hfault, hm⟩ := matching_of_not_isPattern text hno
  refine ⟨row, hrow, fault, hfault, ?_⟩
  rw [chooseFor, h]
  simp only [hm]

/-- Among patterns the rows that match decide. -/
theorem chooseFor_of_isPattern (h : es.lookup text = none) (hall : ∀ row ∈ es, IsPattern row.1) :
    chooseFor text es =
      match fitting text es with
      | [] => fallback (.noMatch text) es
      | [row] => .ok row.2
      | _ :: _ :: _ => .error (.ambiguous text) := by
  rw [chooseFor, h]
  simp only [matching_of_isPattern text hall]
  rcases fitting text es with _ | ⟨row, _ | ⟨other, rest⟩⟩ <;> rfl

theorem fallback_of_lookup (h : es.lookup defaultKey = some v) : fallback t es = .ok v := by
  rw [fallback, h]

theorem fallback_of_none (h : es.lookup defaultKey = none) : fallback t es = .error t := by
  rw [fallback, h]

/-! ### The short way -/

theorem isPattern_default : IsPattern defaultKey := ⟨_, rfl⟩

/-- A default that stands alone is taken for every text. -/
theorem chooseFor_default (text : String) (v : Value) :
    chooseFor text [(defaultKey, v)] = .ok v := by
  by_cases ht : text = defaultKey
  · exact chooseFor_of_lookup (by rw [ht, Entries.lookup_cons_self])
  · have hnone : List.lookup text [(defaultKey, v)] = none := Entries.lookup_cons_of_ne ht v []
    have hall : ∀ row ∈ [(defaultKey, v)], IsPattern row.1 :=
      List.forall_mem_singleton.2 isPattern_default
    rw [chooseFor_of_isPattern hnone hall, fitting]
    cases hm : matchesText text defaultKey with
    | false => simp [hm, fallback]
    | true => simp [hm]

theorem choose_of_lone_default (key : Option String) (v : Value) :
    choose key [(defaultKey, v)] = choose.chooseAmong key [(defaultKey, v)] := by
  cases key with
  | none => rfl
  | some text => exact (chooseFor_default text v).symm

theorem choose_eq_chooseAmong (key : Option String) (es : Entries) :
    choose key es = choose.chooseAmong key es := by
  unfold choose
  split
  · next only v =>
    split
    · next h =>
      subst h
      exact choose_of_lone_default key v
    · rfl
  · rfl

theorem choose_some (text : String) (es : Entries) : choose (some text) es = chooseFor text es :=
  choose_eq_chooseAmong (some text) es

theorem choose_none (es : Entries) : choose none es = fallback .missing es :=
  choose_eq_chooseAmong none es

end JobExpansion.Keyed
