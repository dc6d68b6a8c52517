/-!
# Paths

A path is a text of names between slashes; a slash in front makes it absolute. Names may be `.` and
`..`; repeated slashes count once, and so does every `.` that is not all there is in front. The
functions here look at the text only. `parentChars?_length_lt` says that going up makes a path
shorter, so that every path has finitely many ancestors.
-/

namespace JobExpansion.Path

/-- A path from the root. -/
def isAbsolute (path : String) : Bool := path.toList.head? = some '/'

/-- The number of characters in front that stand for where a path starts: the slash of the root,
or a `.` as the first name. -/
def startLength : List Char → Nat
  | '/' :: _ => 1
  | ['.'] => 1
  | '.' :: '/' :: _ => 1
  | _ => 0

/-- A reversed path without slashes and names `.` at its end. -/
def dropTrailing : List Char → List Char
  | '/' :: cs => dropTrailing cs
  | ['.'] => []
  | '.' :: '/' :: cs => dropTrailing cs
  | cs => cs

theorem length_dropTrailing_le (cs : List Char) : (dropTrailing cs).length ≤ cs.length := by
  fun_induction dropTrailing cs <;> simp_all <;> omega

theorem head_dropTrailing (cs : List Char) : (dropTrailing cs).head? ≠ some '/' := by
  fun_induction dropTrailing cs with
  | case1 _ ih => exact ih
  | case2 => simp
  | case3 _ ih => exact ih
  | case4 cs h => cases cs with
    | nil => simp
    | cons c cs =>
      intro hc
      simp only [List.head?_cons, Option.some.injEq] at hc
      exact h cs (by rw [hc])

/-- What follows the start of a path, reversed, up to its last name. -/
def reversedBody (cs : List Char) : List Char :=
  dropTrailing (cs.drop (startLength cs)).reverse

/-- A character within a name. -/
def inName (c : Char) : Bool := c ≠ '/'

/-- The characters of the path that a path's last name is in. -/
def parentChars? (cs : List Char) : Option (List Char) :=
  match reversedBody cs with
  | [] => if cs.head? = some '.' then some [] else none
  | body =>
    some (cs.take (startLength cs) ++ (dropTrailing (body.dropWhile inName)).reverse)

theorem startLength_le (cs : List Char) : startLength cs ≤ cs.length := by
  fun_cases startLength cs <;> simp

theorem parentChars?_length_lt {cs p : List Char} (h : parentChars? cs = some p) :
    p.length < cs.length := by
  unfold parentChars? at h
  have hs := startLength_le cs
  have hb : (reversedBody cs).length ≤ cs.length - startLength cs := by
    unfold reversedBody
    have := length_dropTrailing_le (cs.drop (startLength cs)).reverse
    simpa using this
  split at h
  · split at h
    · obtain rfl := Option.some.inj h
      cases cs <;> simp_all
    · cases h
  · rename_i body hbody
    obtain rfl := Option.some.inj h
    have hhead := head_dropTrailing (cs.drop (startLength cs)).reverse
    change (reversedBody cs).head? ≠ some '/' at hhead
    cases hr : reversedBody cs with
    | nil => exact absurd hr hbody
    | cons c rest =>
      rw [hr] at hhead hb
      have hc : inName c = true := by simpa [inName] using hhead
      have h1 := length_dropTrailing_le ((c :: rest).dropWhile inName)
      have h2 : ((c :: rest).dropWhile inName).length ≤ rest.length := by
        rw [List.dropWhile_cons_of_pos hc]
        exact (List.dropWhile_sublist _).length_le
      simp only [List.length_cons] at hb
      simp only [List.length_append, List.length_take, List.length_reverse]
      omega

/-- The path that a path's last name is in; the root and the empty path have none. -/
def parent? (path : String) : Option String := (parentChars? path.toList).map String.ofList

/-- A path followed by the paths above it, the nearest first. -/
def ancestorChars (cs : List Char) : List (List Char) :=
  match _h : parentChars? cs with
  | some p => cs :: ancestorChars p
  | none => [cs]
termination_by cs.length
decreasing_by exact parentChars?_length_lt ‹_›

/-- A path followed by the paths above it, the nearest first. -/
def ancestors (path : String) : List String := (ancestorChars path.toList).map String.ofList

/-- The last name of a path, if it is not `..`. -/
def fileName? (path : String) : Option String :=
  match reversedBody path.toList with
  | [] => none
  | body =>
    let name := String.ofList (body.takeWhile inName).reverse
    if name = ".." then none else some name

/-- A name without what follows its last dot, and that dot; a dot in front does not count. -/
def stem (name : String) : String :=
  match name.toList.reverse.dropWhile (· ≠ '.') with
  | _ :: c :: cs => String.ofList (c :: cs).reverse
  | _ => name

/-- A path within another one; an absolute one stays as it is. -/
def join (base path : String) : String :=
  if isAbsolute path then path
  else if base.isEmpty || base.toList.getLast? = some '/' then base ++ path
  else base ++ "/" ++ path

/-- The names of a path, empty ones left out. -/
def names (path : String) : List String :=
  ((path.toList.splitOnP (· = '/')).filter (!·.isEmpty)).map String.ofList

/-- A path that ends with a slash is that of a directory. -/
def wantsDirectory (path : String) : Bool := path.toList.getLast? = some '/'

end JobExpansion.Path
