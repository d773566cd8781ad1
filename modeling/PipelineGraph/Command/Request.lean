/-
**What the command line asks for.**

A request compiles, checks or converts the graph in a file. Options start with two hyphens; their values
follow as the next argument or after an equals sign. The file of options and the level of the log may be
named before the command or among its own arguments, where they count more; every other option belongs
to a command, and none may be given twice in one place. After two hyphens alone nothing is an option.
-/

namespace PipelineGraph

/-- What a graph can be converted to. -/
inductive ExportFormat
  | dot
  | viz
  deriving DecidableEq, Inhabited, Repr

/-- What is to be done with a graph. -/
inductive Task
  | compile (directory : Option String) (project : String) (json : Bool)
  | check (json : Bool)
  | convert (format : ExportFormat)
  deriving DecidableEq, Inhabited, Repr

/-- A request: the file of a graph and what is to be done with it. -/
structure Request where
  optionsPath : Option String := none
  graphPath : String
  task : Task
  deriving DecidableEq, Inhabited, Repr

/-- Why arguments are no request. -/
inductive NoRequest
  | misuse
  | help
  | version
  deriving DecidableEq, Inhabited, Repr

namespace Arguments

/-- The options that the arguments may have. -/
inductive Name
  | config
  | logLevel
  | out
  | project
  | json
  | format
  deriving DecidableEq, Inhabited, Repr

/-- How an option is written, after its hyphens. -/
def Name.text : Name → String
  | .config => "config"
  | .logLevel => "log-level"
  | .out => "out"
  | .project => "project"
  | .json => "json"
  | .format => "format"

/-- The options that may stand anywhere. -/
def globals : List Name := [.config, .logLevel]

/-- The commands. -/
inductive Command
  | compile
  | check
  | convert
  deriving DecidableEq, Inhabited, Repr

/-- The command with a name. -/
def Command.ofName? (name : String) : Option Command :=
  if name = "compile" then some .compile
  else if name = "check" then some .check
  else if name = "export" then some .convert
  else none

/-- The options of a command. -/
def Command.names : Command → List Name
  | .compile => [.out, .project, .json] ++ globals
  | .check => .json :: globals
  | .convert => .format :: globals

/-- What has been read in one place: options with their values, and the file of the graph. -/
structure Found where
  values : List (Name × String) := []
  graph : Option String := none
  deriving DecidableEq, Inhabited, Repr

/-- The format with a name. -/
def format? (name : String) : Option ExportFormat :=
  if name = "dot" then some .dot else if name = "viz" then some .viz else none

/-- An option can have a value. Only the names of directories must not be empty. -/
def allows (name : Name) (value : String) : Bool :=
  match name with
  | .out => !value.isEmpty
  | .format => (format? value).isSome
  | _ => true

/-- Adds an option with its value. -/
def Found.add (found : Found) (name : Name) (value : String) : Except NoRequest Found :=
  if (found.values.lookup name).isSome || !allows name value then .error .misuse
  else .ok { found with values := (name, value) :: found.values }

/-- Adds the file of the graph. -/
def Found.addGraph (found : Found) (path : String) : Except NoRequest Found :=
  if found.graph.isSome || path.isEmpty then .error .misuse
  else .ok { found with graph := some path }

/-- An argument as it looks. -/
inductive Shape
  /-- Two hyphens alone. -/
  | separator
  | long (name : String) (value : Option String)
  | short (letters : List Char)
  | word

/-- The look of an argument. A hyphen alone is a word. -/
def shape (argument : String) : Shape :=
  match argument.toList with
  | ['-', '-'] => .separator
  | '-' :: '-' :: rest =>
    let name := String.ofList (rest.takeWhile (· != '='))
    match rest.dropWhile (· != '=') with
    | _ :: value => .long name (some (String.ofList value))
    | [] => .long name none
  | '-' :: first :: rest => .short (first :: rest)
  | _ => .word

/-- Reads an option; gives the arguments after it. An option whose value is the next argument takes it
only if it is a word. -/
def readOption (names : List Name) (found : Found) (name : String) (value : Option String)
    (rest : List String) : Except NoRequest (Found × Nat) :=
  match names.find? (·.text = name), value, rest with
  | some .json, none, _ => (found.add .json "").map (·, 0)
  | some .json, some _, _ => .error .misuse
  | some name, some value, _ => (found.add name value).map (·, 0)
  | some name, none, value :: _ =>
    match shape value with
    | .word => (found.add name value).map (·, 1)
    | _ => .error .misuse
  | _, _, _ => .error .misuse

/-- What the options that ask for help or the version lead to. The version belongs to no command. -/
def inform (withVersion : Bool) : Shape → NoRequest
  | .long "help" none => .help
  | .short ('h' :: _) => .help
  | .long "version" none => if withVersion then .version else .misuse
  | .short ('V' :: _) => if withVersion then .version else .misuse
  | _ => .misuse

/-- Reads the words that follow two hyphens alone. -/
def readWords (found : Found) : List String → Except NoRequest Found
  | [] => .ok found
  | word :: rest => do readWords (← found.addGraph word) rest

/-- Reads the arguments of a command; `skip` counts those that have been read as values. -/
def readArguments (names : List Name) (found : Found) (skip : Nat) :
    List String → Except NoRequest Found
  | [] => .ok found
  | argument :: rest =>
    match skip with
    | skip + 1 => readArguments names found skip rest
    | 0 =>
      match shape argument with
      | .separator => readWords found rest
      | .word => do readArguments names (← found.addGraph argument) 0 rest
      | .short letters => .error (inform false (.short letters))
      | .long name value =>
        if names.any (·.text = name) then do
          let (found, skip) ← readOption names found name value rest
          readArguments names found skip rest
        else .error (inform false (.long name value))

/-- The request of a command and what has been read before it and after it. -/
def request (command : Command) (before found : Found) : Except NoRequest Request :=
  match found.graph with
  | none => .error .misuse
  | some graph =>
    let value? (name : Name) : Option String := found.values.lookup name
    let json := (value? .json).isSome
    .ok
      { optionsPath := (value? .config).or (before.values.lookup .config)
        graphPath := graph
        task :=
          match command with
          | .compile => .compile (value? .out) ((value? .project).getD "pipeline_project") json
          | .check => .check json
          | .convert => .convert (((value? .format).bind format?).getD .dot) }

/-- Reads the command, with the options before it. -/
def readCommand (before : Found) (skip : Nat) : List String → Except NoRequest Request
  | [] => .error .misuse
  | argument :: rest =>
    match skip with
    | skip + 1 => readCommand before skip rest
    | 0 =>
      match shape argument with
      | .separator => .error .misuse
      | .word =>
        match Command.ofName? argument with
        | some command => do request command before (← readArguments command.names {} 0 rest)
        | none => .error (if argument = "help" then .help else .misuse)
      | .short letters => .error (inform true (.short letters))
      | .long name value =>
        if globals.any (·.text = name) then do
          let (before, skip) ← readOption globals before name value rest
          readCommand before skip rest
        else .error (inform true (.long name value))

end Arguments

/-- The request that arguments make. -/
def Request.ofArguments (arguments : List String) : Except NoRequest Request :=
  Arguments.readCommand {} 0 arguments

end PipelineGraph
