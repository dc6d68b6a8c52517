import JobExpansion.Value.Format

/-!
# Arguments of the command line

The first argument names a command. The arguments after it are read in order: options with their
values, which follow in the same argument or in the next one, and paths. The first argument that
does not fit ends the reading. After `--` everything is a path.
-/

namespace JobExpansion

/-- What a run expands and how. -/
structure Command.ExpandArguments where
  kindFile : String
  parameters : Option String := none
  project : Option String := none
  tryMode : Option String := none
  format : OutputFormat := .json
  output : Option String := none
  deriving Repr, DecidableEq

/-- A command. -/
inductive Command where
  | expand (args : Command.ExpandArguments)
  | validate (kindFile : String)
  | stages
  deriving Repr, DecidableEq

namespace Command

/-- What the arguments ask for. -/
inductive Request where
  | run (command : Command)
  | help
  | version
  /-- The arguments do not fit. -/
  | misuse
  deriving Repr, DecidableEq

/-- The options that have a value. -/
inductive OptionName where
  | parameters | project | tryMode | format | output
  deriving Repr, DecidableEq

namespace OptionName

/-- The name of an option. -/
def name : OptionName → String
  | .parameters => "parameters"
  | .project => "project"
  | .tryMode => "try-mode"
  | .format => "format"
  | .output => "output"

/-- All options. -/
def all : List OptionName := [.parameters, .project, .tryMode, .format, .output]

/-- The option of a name. -/
def named? (s : String) : Option OptionName := all.find? fun o => o.name = s

end OptionName

/-! ### Single arguments -/

/-- What an argument is. -/
inductive Argument where
  | path (p : String)
  /-- An option with its value, unless that is the next argument. -/
  | option (o : OptionName) (value : Option String)
  | help
  | unknown
  deriving Repr, DecidableEq

/-- An argument that can be a path or a value. -/
def isPlain (arg : String) : Bool := arg = "-" || arg.toList.head? ≠ some '-'

/-- The option of a name of several letters, with the value behind an equals sign if there is
one. -/
def longOption (cs : List Char) : Argument :=
  let name := String.ofList (cs.takeWhile (· ≠ '='))
  let value := match cs.dropWhile (· ≠ '=') with
    | _ :: value => some (String.ofList value)
    | [] => none
  match OptionName.named? name with
  | some o => .option o value
  | none => if name = "help" && value.isNone then .help else .unknown

/-- The value behind an option of one letter. -/
def attachedValue : List Char → Option String
  | [] => none
  | '=' :: cs => some (String.ofList cs)
  | cs => some (String.ofList cs)

/-- What an argument is. -/
def Argument.read (arg : String) : Argument :=
  if isPlain arg then .path arg
  else
    match arg.toList with
    | '-' :: '-' :: cs => longOption cs
    | '-' :: 'h' :: _ => .help
    | '-' :: 'o' :: cs => .option .output (attachedValue cs)
    | _ => .unknown

/-! ### Commands -/

/-- What is known of a command while its arguments are read. -/
structure Draft where
  kindFile : Option String := none
  parameters : Option String := none
  project : Option String := none
  tryMode : Option String := none
  format : Option OutputFormat := none
  output : Option String := none

namespace Draft

/-- The draft with a path. -/
def addPath (d : Draft) (path : String) : Option Draft :=
  if d.kindFile.isSome || path = "" then none else some { d with kindFile := some path }

/-- The draft with an option, which may be given once. -/
def addOption (d : Draft) (o : OptionName) (value : String) : Option Draft :=
  match o with
  | .parameters =>
    if d.parameters.isSome || value = "" then none else some { d with parameters := some value }
  | .project => if d.project.isSome then none else some { d with project := some value }
  | .tryMode => if d.tryMode.isSome then none else some { d with tryMode := some value }
  | .format =>
    if d.format.isSome then none
    else (OutputFormat.read value).toOption.map fun f => { d with format := some f }
  | .output =>
    if d.output.isSome || value = "" then none else some { d with output := some value }

end Draft

/-- The names of the commands. -/
inductive Name where
  | expand | validate | stages
  deriving Repr, DecidableEq

namespace Name

/-- The command of a name. -/
def named? : String → Option Name
  | "expand" => some .expand
  | "validate" => some .validate
  | "stages" => some .stages
  | _ => none

/-- The command has a path. -/
def takesPath (c : Name) : Bool := c ≠ .stages

/-- The command has options. -/
def takesOptions (c : Name) : Bool := c = .expand

/-- What a complete draft asks for. -/
def finish (c : Name) (d : Draft) : Request :=
  match c, d.kindFile with
  | .expand, some kindFile =>
    .run (.expand ⟨kindFile, d.parameters, d.project, d.tryMode, d.format.getD .json, d.output⟩)
  | .validate, some kindFile => .run (.validate kindFile)
  | .stages, _ => .run .stages
  | _, none => .misuse

/-- What arguments that are all paths ask for. -/
def readPaths (c : Name) (d : Draft) : List String → Request
  | [] => c.finish d
  | path :: paths =>
    if !c.takesPath then .misuse
    else
      match d.addPath path with
      | some d => readPaths c d paths
      | none => .misuse

/-- What the arguments of a command ask for. -/
def readArguments (c : Name) (d : Draft) : List String → Request
  | [] => c.finish d
  | "--" :: paths => c.readPaths d paths
  | arg :: args =>
    match Argument.read arg with
    | .help => .help
    | .unknown => .misuse
    | .path path =>
      if !c.takesPath then .misuse
      else
        match d.addPath path with
        | some d => readArguments c d args
        | none => .misuse
    | .option o value =>
      if !c.takesOptions then .misuse
      else
        match value, args with
        | some value, args =>
          match d.addOption o value with
          | some d => readArguments c d args
          | none => .misuse
        | none, value :: args =>
          if !isPlain value then .misuse
          else
            match d.addOption o value with
            | some d => readArguments c d args
            | none => .misuse
        | none, [] => .misuse

end Name

/-- Help is asked for one of the commands, or for help itself. -/
def readHelp : List String → Request
  | [] => .help
  | "help" :: names => if names.all fun n => (Name.named? n).isSome then .help else .misuse
  | [name] => if (Name.named? name).isSome then .help else .misuse
  | _ => .misuse

/-- What the arguments of a run ask for. -/
def Request.ofArguments : List String → Request
  | [] => .misuse
  | name :: args =>
    match Name.named? name with
    | some c => c.readArguments {} args
    | none =>
      if name = "help" then readHelp args
      else if name = "--help" then .help
      else if name = "--version" then .version
      else
        match name.toList with
        | '-' :: 'h' :: _ => .help
        | '-' :: 'V' :: _ => .version
        | _ => .misuse

end Command

end JobExpansion
