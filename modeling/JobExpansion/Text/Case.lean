import JobExpansion.Text.Property

/-!
# Case

Upper and lower case of characters and texts, where one character may have an image of several,
and simple case folding, whose classes of equal image decide matching without regard to case.
-/

namespace JobExpansion.Text

/-- Characters whose upper case has more than one character. -/
def upperSpecial : List (Nat × List Nat) :=
  (tokens [
    "df=53+53 149=2bc+4e 1f0=4a+30c 390=399+308+301 3b0=3a5+308+301 587=535+552 1e96=48+331",
    "1e97=54+308 1e98=57+30a 1e99=59+30a 1e9a=41+2be 1f50=3a5+313 1f52=3a5+313+300",
    "1f54=3a5+313+301 1f56=3a5+313+342 1f80=1f08+399 1f81=1f09+399 1f82=1f0a+399",
    "1f83=1f0b+399 1f84=1f0c+399 1f85=1f0d+399 1f86=1f0e+399 1f87=1f0f+399 1f88=1f08+399",
    "1f89=1f09+399 1f8a=1f0a+399 1f8b=1f0b+399 1f8c=1f0c+399 1f8d=1f0d+399 1f8e=1f0e+399",
    "1f8f=1f0f+399 1f90=1f28+399 1f91=1f29+399 1f92=1f2a+399 1f93=1f2b+399 1f94=1f2c+399",
    "1f95=1f2d+399 1f96=1f2e+399 1f97=1f2f+399 1f98=1f28+399 1f99=1f29+399 1f9a=1f2a+399",
    "1f9b=1f2b+399 1f9c=1f2c+399 1f9d=1f2d+399 1f9e=1f2e+399 1f9f=1f2f+399 1fa0=1f68+399",
    "1fa1=1f69+399 1fa2=1f6a+399 1fa3=1f6b+399 1fa4=1f6c+399 1fa5=1f6d+399 1fa6=1f6e+399",
    "1fa7=1f6f+399 1fa8=1f68+399 1fa9=1f69+399 1faa=1f6a+399 1fab=1f6b+399 1fac=1f6c+399",
    "1fad=1f6d+399 1fae=1f6e+399 1faf=1f6f+399 1fb2=1fba+399 1fb3=391+399 1fb4=386+399",
    "1fb6=391+342 1fb7=391+342+399 1fbc=391+399 1fc2=1fca+399 1fc3=397+399 1fc4=389+399",
    "1fc6=397+342 1fc7=397+342+399 1fcc=397+399 1fd2=399+308+300 1fd3=399+308+301",
    "1fd6=399+342 1fd7=399+308+342 1fe2=3a5+308+300 1fe3=3a5+308+301 1fe4=3a1+313",
    "1fe6=3a5+342 1fe7=3a5+308+342 1ff2=1ffa+399 1ff3=3a9+399 1ff4=38f+399 1ff6=3a9+342",
    "1ff7=3a9+342+399 1ffc=3a9+399 fb00=46+46 fb01=46+49 fb02=46+4c fb03=46+46+49",
    "fb04=46+46+4c fb05=53+54 fb06=53+54 fb13=544+546 fb14=544+535 fb15=544+53b fb16=54e+546",
    "fb17=544+53d"]).filterMap fun token =>
    match token.splitOn "=" with
    | [source, image] => some (readHex source, (image.splitOn "+").map readHex)
    | _ => none

/-- The upper case of a character. -/
def upper (c : Char) : List Char :=
  if c.toNat < 128 then [c.toUpper] else
    match upperSpecial.lookup c.toNat with
    | some image => image.map Char.ofNat
    | none => [Char.ofNat (upperShifts.get c.toNat)]

/-- The lower case of a character. -/
def lower (c : Char) : List Char :=
  if c.toNat < 128 then [c.toLower]
  else if c = '\u0130' then ['i', '\u0307']
  else [Char.ofNat (lowerShifts.get c.toNat)]

/-- The first character that is not ignored when the case of its neighbours matters is cased. -/
def casedAhead (cs : List Char) : Bool :=
  match cs.find? fun c => !Property.caseIgnorable c.toNat with
  | some c => Property.cased c.toNat
  | none => false

/-- Lower case, a capital sigma that ends a word becoming a final one. -/
def lowerFrom (before : List Char) : List Char → List Char
  | [] => []
  | c :: cs =>
    let image :=
      if c = 'Σ' then [if casedAhead before ∧ !casedAhead cs then 'ς' else 'σ'] else lower c
    image ++ lowerFrom (c :: before) cs

/-- A text in lower case. -/
def lowerText (s : String) : String := String.ofList (lowerFrom [] s.toList)

/-- The first character in upper case, the others in lower case. -/
def capitalize (s : String) : String :=
  match s.toList with
  | [] => ""
  | c :: cs => String.ofList (upper c ++ cs.flatMap lower)

/-- The code points that differ from `n` at most in case, `n` among them. -/
def caseVariants (n : Nat) : List Nat :=
  let base := foldShifts.get n
  base :: foldShifts.sources base

end JobExpansion.Text
