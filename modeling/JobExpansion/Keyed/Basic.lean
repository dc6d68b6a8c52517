import JobExpansion.Value.Json
import JobExpansion.Pattern.Anchored
import JobExpansion.Text.Quoted

/-!
# Keyed values

A keyed value is a mapping with the one key `by-<attribute>` over a mapping of alternatives, such
as `by-app` over `fenix` and `default`. `Keyed.choose` picks an alternative for the text of the
attribute: the alternative of just that key, else the one whose key matches as a pattern, else
`default`.
-/

namespace JobExpansion.Keyed

/-- The key of the alternative that is taken when no other is. -/
def defaultKey : String := "default"

/-- The attribute behind `by-`. -/
def attr? (key : String) : Option String :=
  match key.toList with
  | 'b' :: 'y' :: '-' :: rest => some (String.ofList rest)
  | _ => none

/-- The attribute and the alternatives of a keyed value. -/
def parts? : Value → Option (String × Entries)
  | .mapping [(key, .mapping alternatives)] => (attr? key).map (·, alternatives)
  | _ => none

/-- A value is keyed. -/
def isKeyed (v : Value) : Bool := (parts? v).isSome

theorem isKeyed_eq_false_iff {v : Value} : isKeyed v = false ↔ parts? v = none := by
  simp [isKeyed]

/-- What stops the choice of an alternative. -/
inductive Trouble where
  /-- The attribute has no text, and there is no default. -/
  | missing
  /-- No alternative fits the attribute's text, and there is no default. -/
  | noMatch (key : String)
  /-- Several patterns match the attribute's text. -/
  | ambiguous (key : String)
  /-- An alternative is no pattern. -/
  | invalid (pattern : String) (reason : String)
  deriving DecidableEq, Repr

/-- A choice that failed: the attribute, the item it was made for, and why. -/
structure Failure where
  attr : String
  item : String
  trouble : Trouble
  deriving DecidableEq, Repr

/-- The wording of a failed choice. -/
def Failure.message (f : Failure) : String :=
  match f.trouble with
  | .missing =>
    s!"no attribute '{f.attr}' and no value for 'default' found while determining item {f.item}"
  | .noMatch key =>
    s!"no {f.attr} matching {Text.quoted key} nor 'default' found while determining item {f.item}"
  | .ambiguous key =>
    s!"multiple matching values for {f.attr} {Text.quoted key} found "
      ++ s!"while determining item {f.item}"
  | .invalid pattern reason =>
    s!"invalid alternative {Text.quoted pattern} under by-{f.attr} "
      ++ s!"while determining item {f.item}: {reason}"

/-- The text of an attribute; only strings, booleans and numbers have one. -/
def attributeText? : Value → Option String
  | .text s => some s
  | .bool b => some (if b then "true" else "false")
  | .number n => some (n.text .signed)
  | _ => none

/-- The values of the alternatives whose keys match a text as patterns. -/
def matching (key : String) : Entries → Except Trouble (List Value)
  | [] => .ok []
  | (pattern, v) :: rest =>
    match Pattern.compile pattern with
    | .error fault => .error (.invalid pattern fault.message)
    | .ok r =>
      match matching key rest with
      | .error e => .error e
      | .ok vs => .ok (if Pattern.accepts r key then v :: vs else vs)

/-- The alternative under `default`. -/
def fallback (trouble : Trouble) (alternatives : Entries) : Except Trouble Value :=
  match alternatives.lookup defaultKey with
  | some v => .ok v
  | none => .error trouble

/-- The alternative for a text. -/
def chooseFor (key : String) (alternatives : Entries) : Except Trouble Value :=
  match alternatives.lookup key with
  | some v => .ok v
  | none =>
    match matching key alternatives with
    | .error e => .error e
    | .ok [v] => .ok v
    | .ok [] => fallback (.noMatch key) alternatives
    | .ok (_ :: _ :: _) => .error (.ambiguous key)

/-- The alternative for an attribute that may have no text. When `default` is the only one, the
attribute does not matter. -/
def choose (key : Option String) (alternatives : Entries) : Except Trouble Value :=
  match alternatives with
  | [(only, v)] => if only = defaultKey then .ok v else chooseAmong [(only, v)]
  | alternatives => chooseAmong alternatives
where
  /-- The alternative when `default` is not the only one. -/
  chooseAmong (alternatives : Entries) : Except Trouble Value :=
    match key with
    | some key => chooseFor key alternatives
    | none => fallback .missing alternatives

/-! ### A choice is one of the alternatives -/

theorem mem_of_fallback {t : Trouble} {es : Entries} {v : Value} (h : fallback t es = .ok v) :
    ∃ k, (k, v) ∈ es := by
  unfold fallback at h
  split at h
  · next w hw =>
    cases h
    exact ⟨_, Entries.mem_of_lookup hw⟩
  · cases h

theorem mem_of_matching {key : String} {es : Entries} {vs : List Value} {v : Value}
    (h : matching key es = .ok vs) (hv : v ∈ vs) : ∃ k, (k, v) ∈ es := by
  induction es generalizing vs with
  | nil =>
    cases h
    cases hv
  | cons row es ih =>
    obtain ⟨p, w⟩ := row
    unfold matching at h
    split at h
    · cases h
    · next r _ =>
      split at h
      · cases h
      · next ws hws =>
        cases h
        split at hv
        · rcases List.mem_cons.1 hv with rfl | hv
          · exact ⟨p, List.mem_cons_self⟩
          · obtain ⟨k, hk⟩ := ih hws hv
            exact ⟨k, List.mem_cons_of_mem _ hk⟩
        · obtain ⟨k, hk⟩ := ih hws hv
          exact ⟨k, List.mem_cons_of_mem _ hk⟩

theorem mem_of_chooseFor {key : String} {es : Entries} {v : Value}
    (h : chooseFor key es = .ok v) : ∃ k, (k, v) ∈ es := by
  unfold chooseFor at h
  split at h
  · next w hw =>
    cases h
    exact ⟨_, Entries.mem_of_lookup hw⟩
  · split at h
    · cases h
    · next w hw =>
      cases h
      exact mem_of_matching hw List.mem_cons_self
    · exact mem_of_fallback h
    · cases h

theorem mem_of_choose {key : Option String} {es : Entries} {v : Value}
    (h : choose key es = .ok v) : ∃ k, (k, v) ∈ es := by
  have among {es : Entries} (h : choose.chooseAmong key es = .ok v) : ∃ k, (k, v) ∈ es := by
    unfold choose.chooseAmong at h
    split at h
    · exact mem_of_chooseFor h
    · exact mem_of_fallback h
  unfold choose at h
  split at h
  · next only w =>
    split at h
    · cases h
      exact ⟨only, List.mem_cons_self⟩
    · exact among h
  · exact among h

theorem parts?_eq_some_iff {v : Value} {attr : String} {alternatives : Entries} :
    parts? v = some (attr, alternatives) ↔
      ∃ key, attr? key = some attr ∧ v = .mapping [(key, .mapping alternatives)] := by
  unfold parts?
  split
  · next key alts =>
    constructor
    · intro h
      obtain ⟨a, ha, he⟩ := Option.map_eq_some_iff.1 h
      cases he
      exact ⟨key, ha, rfl⟩
    · rintro ⟨key', ha, he⟩
      simp only [Value.mapping.injEq, List.cons.injEq, Prod.mk.injEq, and_true] at he
      obtain ⟨rfl, rfl⟩ := he
      simp [ha]
  · next hn =>
    constructor
    · intro h
      cases h
    · rintro ⟨key, _, rfl⟩
      exact absurd rfl (hn key alternatives)

theorem isKeyed_eq_true_iff {v : Value} : isKeyed v = true ↔
    ∃ key alternatives, (attr? key).isSome = true ∧
      v = .mapping [(key, .mapping alternatives)] := by
  simp only [isKeyed, Option.isSome_iff_exists, Prod.exists, parts?_eq_some_iff]
  constructor
  · rintro ⟨attr, alternatives, key, hattr, hv⟩
    exact ⟨key, alternatives, ⟨attr, hattr⟩, hv⟩
  · rintro ⟨key, alternatives, ⟨attr, hattr⟩, hv⟩
    exact ⟨attr, alternatives, key, hattr, hv⟩

end JobExpansion.Keyed
