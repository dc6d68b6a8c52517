import JobExpansion.Command.Run

/-!
# The program

Looks up the files that a command may touch, runs the command on them, and writes back what the
run has changed.
-/

namespace JobExpansion

/-- What stands at a path. -/
def probe (path : String) : IO (Option FileEntry) := do
  try
    return some (.file (← IO.FS.readBinFile path))
  catch
    | .inappropriateType .. => return some .directory
    | _ => return none

/-- The files with what stands at a path. -/
def lookUp (files : FileTree) (path : String) : IO FileTree := do
  match files.locate path with
  | .error _ => return files
  | .ok place =>
    if (files.get? place).isSome then return files
    match ← probe path with
    | some e => return files.set place e
    | none => return files

/-- The files with what stands at a path and at all paths above it. -/
def lookUpAll (files : FileTree) (path : String) : IO FileTree :=
  (Path.ancestors path).reverse.foldlM lookUp files

/-- The files that a command may touch. -/
def survey (env : Environment) (current : String) (c : Command) : IO FileTree := do
  let workspace := Command.workspace current c
  let start : FileTree := { current := Path.names current }
  let files ← (current :: Log.Settings.path workspace :: Command.paths c).foldlM lookUpAll start
  match (Log.Settings.load files env (some workspace)).bind (·.logFile env (some workspace)) with
  | .ok path => lookUpAll files path
  | .error _ => return files

/-- Writes the entries of a tree that another one does not have. -/
def writeBack (old new : FileTree) : IO Unit :=
  new.rows.forM fun (place, e) => do
    if old.get? place ≠ some e then
      let path := "/" ++ "/".intercalate place
      match e with
      | .directory => IO.FS.createDirAll path
      | .file content => IO.FS.writeBinFile path content

/-- The time since the clock of the machine started, in seconds. -/
def uptime : IO String := do
  let nanos ← IO.monoNanosNow
  let fraction := toString (nanos % 1000000000)
  return s!"{nanos / 1000000000}." ++ "".pushn '0' (9 - fraction.length) ++ fraction

/-- The variables of the environment that a run asks for. -/
def environment : IO Environment :=
  Environment.names.filterMapM fun name => do
    return (← IO.getEnv name).map (name, ·)

end JobExpansion

open JobExpansion in
/-- Runs the command that the arguments name. -/
def main (args : List String) : IO UInt32 := do
  let env ← environment
  let current := toString (← IO.currentDir)
  let request := Command.Request.ofArguments args
  let files ← match request with
    | .run c => survey env current c
    | _ => pure {}
  let time ← uptime
  let outcome := (request.transcript files env current fun _ => ⟨time, time⟩).outcome
  writeBack files outcome.files
  IO.print outcome.stdout
  IO.eprint outcome.stderr
  return outcome.exitCode.toUInt32
