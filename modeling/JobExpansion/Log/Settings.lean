import JobExpansion.Environment
import JobExpansion.Files.Tree
import JobExpansion.Log.Console
import JobExpansion.Log.Directive
import JobExpansion.Toml.Document

/-!
# Settings of the log

What is logged and where: by default, then as a file in the workspace says, then as the environment
says. A directory for log files that is not absolute is in the workspace, or in the home directory
if there is no workspace.
-/

namespace JobExpansion.Log

/-- Why there is no log. -/
inductive Trouble where
  | settingsUnreadable (path : String) (error : AccessError)
  | settingsMalformed (path : String)
  | badDirective
  | badFilter
  | noHome
  | noParent (path : String)
  | directoryNotMade (path : String) (error : AccessError)
  | fileNotOpened (path : String) (error : AccessError)
  deriving DecidableEq, Repr

namespace Trouble

/-- The wording of a trouble. -/
def message : Trouble → String
  | .settingsUnreadable path _ => s!"failed to read logging config {path}"
  | .settingsMalformed path => s!"failed to parse logging config {path}"
  | .badDirective => "logging.default_level must be a valid tracing directive"
  | .badFilter => "failed to configure tracing level"
  | .noHome => "$HOME directory unavailable"
  | .noParent path => s!"log file path {path} has no parent directory"
  | .directoryNotMade path _ => s!"failed to create log directory {path}"
  | .fileNotOpened path _ => s!"failed to open log file {path}"

/-- What a trouble comes from. -/
def reason? : Trouble → Option String
  | .settingsUnreadable _ e | .directoryNotMade _ e | .fileNotOpened _ e => some e.message
  | .badFilter => some "invalid filter directive"
  | _ => none

/-- The wording of a trouble with what it comes from. -/
def fullMessage (t : Trouble) : String := ": ".intercalate (t.message :: t.reason?.toList)

end Trouble

/-- What is logged and where. -/
structure Settings where
  directory : Option String := none
  /-- The directive for what is let through. -/
  level : String := "warn"
  toFile : Bool := false
  console : Option Console := none
  deriving DecidableEq, Repr

namespace Settings

/-- The directory of a workspace with what belongs to this program. -/
def stateDirectory : String := ".raptor-taskgen"

/-- The name of the file with the settings. -/
def fileName : String := "logging.toml"

/-- The name of the log file. -/
def logName : String := "raptor-taskgen.log"

/-! ### The file -/

/-- A text that may be missing. -/
def text? : Option Toml.Value → Option (Option String)
  | none => some none
  | some (.string s) => some (some s)
  | some _ => none

/-- A boolean that may be missing. -/
def bool? : Option Toml.Value → Option (Option Bool)
  | none => some none
  | some (.boolean b) => some (some b)
  | some _ => none

/-- A console that may be missing: its word, or a table with an empty table under that word. -/
def console? : Option Toml.Value → Option (Option Console)
  | none => some none
  | some (.string s) => (Console.named? s).map some
  | some (.table [(s, .table [])]) => (Console.named? s).map some
  | some _ => none

/-- Settings with the values that there are. -/
def with? (s : Settings) (directory level toFile console : Option Toml.Value) :
    Option Settings := do
  let directory ← text? directory
  let level ← text? level
  let toFile ← bool? toFile
  let console ← console? console
  return {
    directory := directory <|> s.directory
    level := level.getD s.level
    toFile := toFile.getD s.toFile
    console := console <|> s.console }

/-- The settings as a document says. They are a table, or a list in the order of the fields, of
which the last one may be missing. -/
def inDocument? (s : Settings) (rows : Toml.Rows) : Option Settings :=
  match rows.lookup "logging" with
  | none => some s
  | some (.table t) =>
    s.with? (t.lookup "log_dir") (t.lookup "default_level") (t.lookup "enable_file")
      (t.lookup "console_output")
  | some (.array (directory :: level :: toFile :: more)) =>
    s.with? (some directory) (some level) (some toFile) more.head?
  | some _ => none

/-- The settings as the file at a path says, if there is one. -/
def inFile (s : Settings) (files : FileTree) (path : String) : Except Trouble Settings := do
  if !files.exists? path then return s
  let text ← (files.readText path).mapError (Trouble.settingsUnreadable path)
  match (Toml.read? text).bind s.inDocument? with
  | some s => return s
  | none => throw (.settingsMalformed path)

/-! ### The environment -/

/-- The settings as the environment says; a directory asks for a file. -/
def inEnvironment (s : Settings) (env : Environment) : Settings :=
  let s := match env.filled? Environment.logDirectory with
    | some directory => { s with directory := some directory, toFile := true }
    | none => s
  match env.filled? Environment.logLevel with
  | some level => { s with level := Text.trim level }
  | none => s

/-- The path of the file with the settings of a workspace. -/
def path (workspace : String) : String := Path.join (Path.join workspace stateDirectory) fileName

/-- The settings of a run in a workspace, if there is one. -/
def load (files : FileTree) (env : Environment) (workspace : Option String) :
    Except Trouble Settings := do
  let s : Settings ← match workspace with
    | some w => inFile {} files (path w)
    | none => pure {}
  let s := s.inEnvironment env
  if (Directive.read? s.level).isNone then throw .badDirective
  return s

/-! ### The log file -/

/-- The directory that the one for log files is in, if that is not absolute. -/
def anchor (env : Environment) (workspace : Option String) : Except Trouble String :=
  match workspace with
  | some w => .ok w
  | none =>
    match (env.lookup Environment.home).filter (· ≠ "") with
    | some home => .ok home
    | none => .error .noHome

/-- The path of the log file. -/
def logFile (s : Settings) (env : Environment) (workspace : Option String) :
    Except Trouble String := do
  let anchor ← anchor env workspace
  let directory := match s.directory with
    | some directory => Path.join anchor directory
    | none => Path.join (Path.join anchor stateDirectory) "logs"
  return Path.join directory logName

end Settings

/-- A log file is opened; the directories on its path are made before it. -/
def openFile (path : String) : EStateM Trouble FileTree Unit := do
  match Path.parent? path with
  | none => throw (.noParent path)
  | some directory =>
    (FileTree.makeDirectories directory).adaptExcept (Trouble.directoryNotMade directory)
    (FileTree.append path ByteArray.empty).adaptExcept (Trouble.fileNotOpened path)

end JobExpansion.Log
