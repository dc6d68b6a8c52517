import JobExpansion.Files.Path

/-!
# File trees

Files and directories by their place below the root, as far as a run can see them. A path is walked
name by name from the current directory or from the root; every name that another one follows is to
be that of a directory.
-/

namespace JobExpansion

/-- Why a file cannot be read or made. -/
inductive AccessError where
  | notFound | exists | notDirectory | isDirectory | nameTooLong
  /-- A path holds the character zero. -/
  | zeroInPath
  /-- The content of a file is no text. -/
  | notText
  deriving DecidableEq, Repr

/-- The wording of an error. -/
def AccessError.message : AccessError → String
  | .notFound => "No such file or directory (os error 2)"
  | .exists => "File exists (os error 17)"
  | .notDirectory => "Not a directory (os error 20)"
  | .isDirectory => "Is a directory (os error 21)"
  | .nameTooLong => "File name too long (os error 36)"
  | .zeroInPath => "file name contained an unexpected NUL byte"
  | .notText => "stream did not contain valid UTF-8"

/-- The names that lead from the root to a file or a directory. -/
abbrev Location := List String

/-- What stands at a place. -/
inductive FileEntry where
  | directory
  | file (content : ByteArray)

instance : DecidableEq FileEntry
  | .directory, .directory => isTrue rfl
  | .directory, .file _ => isFalse nofun
  | .file _, .directory => isFalse nofun
  | .file a, .file b =>
    decidable_of_iff (a.data = b.data)
      ⟨fun h => congrArg FileEntry.file (ByteArray.ext h), fun h => congrArg ByteArray.data
        (FileEntry.file.inj h)⟩

/-- Files and directories, and the directory that relative paths start from. -/
structure FileTree where
  current : Location := []
  rows : List (Location × FileEntry) := []

namespace FileTree

/-- What stands at a place; the root is a directory. -/
def get? (t : FileTree) (place : Location) : Option FileEntry :=
  if place = [] then some .directory else t.rows.lookup place

/-- Rows with an entry at a place. -/
def setRow (place : Location) (e : FileEntry) :
    List (Location × FileEntry) → List (Location × FileEntry)
  | [] => [(place, e)]
  | row :: rows => if row.1 = place then (place, e) :: rows else row :: setRow place e rows

/-- The tree with an entry at a place. -/
def set (place : Location) (e : FileEntry) (t : FileTree) : FileTree :=
  { t with rows := setRow place e t.rows }

theorem lookup_setRow (place p : Location) (e : FileEntry) (rows : List (Location × FileEntry)) :
    (setRow place e rows).lookup p = if p = place then some e else rows.lookup p := by
  induction rows with
  | nil =>
    by_cases h : p = place
    · simp [setRow, h]
    · have hb : (p == place) = false := by simpa using h
      simp [setRow, List.lookup_cons, h, hb]
  | cons row rows ih =>
    obtain ⟨k, v⟩ := row
    by_cases hk : k = place
    · subst hk
      by_cases h : p = k
      · simp [setRow, h]
      · have hb : (p == k) = false := by simpa using h
        simp [setRow, List.lookup_cons, h, hb]
    · by_cases h : p = k
      · subst h
        simp [setRow, hk]
      · have hb : (p == k) = false := by simpa using h
        simp [setRow, hk, List.lookup_cons, hb, ih]

theorem get?_set {t : FileTree} {place p : Location} {e : FileEntry} (h : place ≠ []) :
    (t.set place e).get? p = if p = place then some e else t.get? p := by
  by_cases hp : p = []
  · subst hp
    simp [get?, h.symm]
  · simp [get?, set, hp, lookup_setRow]

/-! ### Walking -/

/-- The longest name, in bytes. -/
def nameLimit : Nat := 255

/-- The place that a name leads to from a place. -/
def step (t : FileTree) (place : Location) (name : String) : Except AccessError Location :=
  match t.get? place with
  | none => .error .notFound
  | some (.file _) => .error .notDirectory
  | some .directory =>
    if name = "." then .ok place
    else if name = ".." then .ok place.dropLast
    else if nameLimit < name.utf8ByteSize then .error .nameTooLong
    else .ok (place ++ [name])

/-- Where a path starts. -/
def start (t : FileTree) (path : String) : Location :=
  if Path.isAbsolute path then [] else t.current

/-- The place that names lead to. -/
def walk (t : FileTree) (place : Location) : List String → Except AccessError Location
  | [] => .ok place
  | name :: names => do t.walk (← t.step place name) names

/-- The place of a path. -/
def locate (t : FileTree) (path : String) : Except AccessError Location :=
  if path = "" then .error .notFound
  else if path.toList.contains '\x00' then .error .zeroInPath
  else t.walk (t.start path) (Path.names path)

/-- What a path leads to. -/
def find (t : FileTree) (path : String) : Except AccessError FileEntry := do
  let place ← t.locate path
  match t.get? place with
  | none => throw .notFound
  | some (.file content) =>
    if Path.wantsDirectory path then throw .notDirectory else return .file content
  | some .directory => return .directory

/-- A path leads to something. -/
def exists? (t : FileTree) (path : String) : Bool := (t.find path).toOption.isSome

/-- A path leads to a directory. -/
def isDirectory (t : FileTree) (path : String) : Bool :=
  (t.find path).toOption = some .directory

/-! ### Reading -/

/-- The bytes of a file. -/
def read (t : FileTree) (path : String) : Except AccessError ByteArray := do
  match ← t.find path with
  | .file content => return content
  | .directory => throw .isDirectory

/-- The text of a file. -/
def readText (t : FileTree) (path : String) : Except AccessError String := do
  match String.fromUTF8? (← t.read path) with
  | some text => return text
  | none => throw .notText

/-! ### Writing

A change of a tree may stop half way; what it has made by then stays. -/

/-- The last name of a path is not `.` or `..`. -/
def endsInName (path : String) : Bool :=
  match (Path.names path).getLast? with
  | some name => name ≠ "." && name ≠ ".."
  | none => false

/-- The place of a directory that is to be made. -/
def vacant? (t : FileTree) (path : String) : Except AccessError Location := do
  let place ← t.locate path
  if !endsInName path then throw .exists
  match t.get? place with
  | some _ => throw .exists
  | none => return place

/-- A directory is made. -/
def makeDirectory (path : String) : EStateM AccessError FileTree Unit := do
  match (← get).vacant? path with
  | .ok place => modify (set place .directory)
  | .error e => throw e

/-- A directory that could not be made may be there all the same. -/
def unlessDirectory (path : String) (e : AccessError) : EStateM AccessError FileTree Unit := do
  if !(← get).isDirectory path then throw e

/-- The first of some paths is made a directory, each of them being in the next one; those that are
missing are made before it. -/
def makeMissing : List String → EStateM AccessError FileTree Unit
  | [] => pure ()
  | path :: above => do
    if path = "" then return
    try makeDirectory path
    catch
      | .notFound =>
        makeMissing above
        try makeDirectory path catch e => unlessDirectory path e
      | e => unlessDirectory path e

/-- A directory and all directories above it are made. -/
def makeDirectories (path : String) : EStateM AccessError FileTree Unit :=
  makeMissing (Path.ancestors path)

/-- The place of a file that is to be written, and its content so far. -/
def open? (t : FileTree) (path : String) : Except AccessError (Location × ByteArray) := do
  let place ← t.locate path
  if !endsInName path || Path.wantsDirectory path then throw .isDirectory
  match t.get? place with
  | some .directory => throw .isDirectory
  | some (.file content) => return (place, content)
  | none => return (place, ByteArray.empty)

/-- A file gets a content made of the one it has, which is empty if the file is new. -/
def edit (path : String) (content : ByteArray → ByteArray) : EStateM AccessError FileTree Unit := do
  match (← get).open? path with
  | .ok (place, old) => modify (set place (.file (content old)))
  | .error e => throw e

/-- A file gets some content in place of the one it has. -/
def write (path : String) (content : ByteArray) : EStateM AccessError FileTree Unit :=
  edit path fun _ => content

/-- A file gets some more content at its end. -/
def append (path : String) (content : ByteArray) : EStateM AccessError FileTree Unit :=
  edit path (· ++ content)

/-- The tree that a change leaves, whether it is done or stops half way. -/
def leftBy (t : FileTree) (change : EStateM ε FileTree α) : FileTree :=
  match change.run t with
  | .ok _ t => t
  | .error _ t => t

/-- The files below the current directory, by the names that lead to them from there. -/
def files (t : FileTree) : List (Location × ByteArray) :=
  t.rows.filterMap fun (place, e) =>
    match e with
    | .directory => none
    | .file content =>
      if t.current.isPrefixOf place then some (place.drop t.current.length, content) else none

end FileTree

end JobExpansion
