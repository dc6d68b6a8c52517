import JobExpansion.Keyed.Basic
import JobExpansion.Value.Path

/-!
# Resolution of keyed values

`evaluate` follows the chosen alternatives until a value is no longer keyed; each alternative is
smaller than the value it belongs to, so this ends. `resolveInPlace` replaces a keyed field by what
it evaluates to, the attributes being the fields around it and a few more that take precedence; the
fields are a state, which a failure leaves as it finds it. `resolve` is the outcome as a value.
-/

namespace JobExpansion.Keyed

theorem sizeOf_lt_of_mem {k : String} {v : Value} {es : Entries} (h : (k, v) ∈ es) :
    sizeOf v < sizeOf es := by
  have := List.sizeOf_lt_of_mem h
  simp only [Prod.mk.sizeOf_spec] at this
  omega

/-- A keyed value reduced to one that is not keyed, under some attributes. -/
def evaluate (item : String) (attributes : Entries) (v : Value) : Except Failure Value :=
  match _hp : parts? v with
  | none => .ok v
  | some (attr, alternatives) =>
    match _hc : choose ((attributes.lookup attr).bind attributeText?) alternatives with
    | .error trouble => .error ⟨attr, item, trouble⟩
    | .ok w => evaluate item attributes w
termination_by sizeOf v
decreasing_by
  obtain ⟨key, _, rfl⟩ := parts?_eq_some_iff.1 _hp
  obtain ⟨k, hk⟩ := mem_of_choose _hc
  have := sizeOf_lt_of_mem hk
  simp only [Value.mapping.sizeOf_spec, List.cons.sizeOf_spec, List.nil.sizeOf_spec,
    Prod.mk.sizeOf_spec]
  omega

/-- The field at the end of a path resolved in place. What stands there and the attributes are read
first, and the field is written only once it is known what its value evaluates to. A field that is
not there or not keyed is left alone. -/
def resolveAt (path : List String) (item : String) (extra : Entries) :
    EStateM Failure Entries Unit := do
  let es ← get
  match es.getPath path with
  | none => return ()
  | some v =>
    if isKeyed v then
      match evaluate item (es.setAll extra) v with
      | .ok w => modify (Entries.setPath w path)
      | .error failure => throw failure

/-- A dotted field resolved in place. -/
def resolveInPlace (field item : String) (extra : Entries) : EStateM Failure Entries Unit :=
  resolveAt (Entries.segments field) item extra

/-- The fields with one dotted field resolved. -/
def resolve (field item : String) (extra es : Entries) : Except Failure Entries :=
  match (resolveInPlace field item extra).run es with
  | .ok () es => .ok es
  | .error failure _ => .error failure

theorem evaluate_of_not_keyed {item : String} {attributes : Entries} {v : Value}
    (h : parts? v = none) : evaluate item attributes v = .ok v := by
  unfold evaluate
  split
  · rfl
  · next hp =>
    rw [h] at hp
    cases hp

end JobExpansion.Keyed
