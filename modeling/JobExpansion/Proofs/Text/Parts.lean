import Mathlib.Data.String.Basic

/-!
# Parts of a text

A text without a separator is one part. The cutting goes through the bytes of the text from the
front; what it has left behind holds no separator.
-/

namespace JobExpansion.Text

open String

/-- From some place on there is no separator, and the part at hand reaches back to the start. -/
theorem splitOnAux_of_not_mem {c : Char} (l r : List Char) (h : c ∉ r) :
    splitOnAux (ofList (l ++ r)) (ofList [c]) 0 ⟨utf8Len l⟩ 0 [] = [ofList (l ++ r)] := by
  induction r generalizing l with
  | nil =>
    have hend : Pos.Raw.atEnd (ofList (l ++ [])) ⟨utf8Len l⟩ = true := (atEnd_of_valid l []).2 rfl
    have hextract : Pos.Raw.extract (ofList (l ++ [])) 0 ⟨utf8Len l⟩ = ofList (l ++ []) := by
      simpa using extract_of_valid [] l []
    rw [splitOnAux, if_pos hend, hextract]
    rfl
  | cons d r ih =>
    have hend : ¬ Pos.Raw.atEnd (ofList (l ++ d :: r)) ⟨utf8Len l⟩ = true := fun he =>
      List.cons_ne_nil d r ((atEnd_of_valid l (d :: r)).1 he)
    have hget : Pos.Raw.get (ofList (l ++ d :: r)) ⟨utf8Len l⟩ = d := get_of_valid l (d :: r)
    have hsep : Pos.Raw.get (ofList [c]) 0 = c := get_of_valid [] [c]
    have hne : ¬ (d == c) = true := by
      simpa using fun hd => h (by simp [hd])
    have hnext : Pos.Raw.next (ofList (l ++ d :: r)) (Pos.Raw.unoffsetBy ⟨utf8Len l⟩ 0) =
        ⟨utf8Len (l ++ [d])⟩ := by
      have := next_of_valid l d r
      simpa using this
    have := ih (l ++ [d]) (fun hr => h (List.mem_cons_of_mem d hr))
    rw [splitOnAux, if_neg hend, hget, hsep, if_neg hne, hnext]
    simpa using this

/-- A text without a separator is one part. -/
theorem splitOn_of_not_mem {c : Char} {s : String} (h : c ∉ s.toList) :
    s.splitOn (ofList [c]) = [s] := by
  have hne : ¬ (ofList [c] == "") = true := by simp
  have := splitOnAux_of_not_mem [] s.toList h
  rw [splitOn, if_neg hne]
  simpa using this

end JobExpansion.Text
