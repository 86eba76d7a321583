/-!
# Arguments of the command line

Two commands: `explain` and `run`. Each takes the paths of the load options, the documents and the
configuration as options, `--data d.json` or `--data=d.json`; `run` needs the documents. A path that
is one hyphen stands for the standard input. Models `Command` as `Cli` reads it.

* `Command.ofArguments`: the command of a list of arguments, or why there is none.
* `Usage.exitCode`: zero when help or the version was asked for.
-/

namespace GridQuery

/-- What a command is given. -/
structure Paths where
  options : String := "-"
  data : Option String := none
  config : Option String := none
deriving DecidableEq

/-- What is to be done. -/
inductive Command where
  /-- Show the pipelines of a request and its response; without documents there are none. -/
  | explain (paths : Paths)
  /-- Show the response to a request on the documents at a path. -/
  | run (data : String) (paths : Paths)
deriving DecidableEq

/-- Why arguments are no command. -/
inductive Usage where
  | help
  | version
  /-- There is no argument at all. -/
  | noCommand
  | unknownCommand
  | unknownArgument
  | missingOption
  | repeatedOption
  /-- An option has no value, or an empty one. -/
  | emptyValue
  /-- A flag has a value. -/
  | unexpectedValue
deriving DecidableEq

namespace Usage

def exitCode : Usage → Nat
  | help | version => 0
  | _ => 2

end Usage

/-! ## Options of a command -/

namespace Command

/-- An option of a command. -/
inductive PathOption where
  | options
  | data
  | config
deriving DecidableEq

namespace PathOption

def all : List PathOption := [options, data, config]

def name : PathOption → String
  | options => "options"
  | data => "data"
  | config => "config"

def ofName? (name : String) : Option PathOption := all.find? fun option => option.name = name

end PathOption

/-- The options read so far. -/
structure Given where
  options : Option String := none
  data : Option String := none
  config : Option String := none

namespace Given

def get? (given : Given) : PathOption → Option String
  | .options => given.options
  | .data => given.data
  | .config => given.config

def set (given : Given) (option : PathOption) (value : String) : Given :=
  match option with
  | .options => { given with options := some value }
  | .data => { given with data := some value }
  | .config => { given with config := some value }

/-- Takes up the value of an option: it was not given before, and is not empty. -/
def take (given : Given) (option : PathOption) (value : String) : Except Usage Given :=
  if (given.get? option).isSome then .error .repeatedOption
  else if value.isEmpty then .error .emptyValue
  else .ok (given.set option value)

def paths (given : Given) : Paths :=
  { options := given.options.getD "-", data := given.data, config := given.config }

end Given

/-- An option that is not taken up yet: its value may still have to come. -/
abbrev Pending := Option (PathOption × Option String)

/-- Takes up the pending option, which needs a value by now. -/
def settle (given : Given) : Pending → Except Usage Given
  | none => .ok given
  | some (_, none) => .error .emptyValue
  | some (option, some value) => given.take option value

/-- The parts before and after the first equals sign. -/
def splitEquals (text : List Char) : String × Option String :=
  match text.dropWhile (· ≠ '=') with
  | [] => (String.ofList text, none)
  | _ :: value => (String.ofList (text.takeWhile (· ≠ '=')), some (String.ofList value))

/-- An argument as it is written. -/
inductive Argument where
  /-- Two hyphens: what follows is no option. -/
  | separator
  /-- Two hyphens and a name, and a value after an equals sign. -/
  | long (name : String) (value : Option String)
  /-- One hyphen and letters; the first letter decides. -/
  | short (letter : Char)
  | plain (text : String)

def Argument.ofText (text : String) : Argument :=
  match text.toList with
  | ['-', '-'] => .separator
  | '-' :: '-' :: rest => let (name, value) := splitEquals rest; .long name value
  | '-' :: letter :: _ => .short letter
  | _ => .plain text

/-- Reads the options of a command. An option whose value comes as the next argument is taken up
    when something else follows, and a mistake in what follows is reported first. -/
def readOptions (given : Given) (pending : Pending) : List String → Except Usage Given
  | [] => settle given pending
  | text :: rest =>
    match Argument.ofText text with
    | .separator => if rest.isEmpty then settle given pending else .error .unknownArgument
    | .long name value =>
      match PathOption.ofName? name, value with
      | some option, some value => do
        let given ← settle given pending
        let given ← given.take option value
        readOptions given none rest
      | some option, none => do
        let given ← settle given pending
        readOptions given (some (option, none)) rest
      | none, value =>
        if name = "help" then
          match value with
          | none => do let _ ← settle given pending; .error .help
          | some _ => .error .unexpectedValue
        else .error .unknownArgument
    | .short letter =>
      if letter = 'h' then do let _ ← settle given pending; .error .help
      else .error .unknownArgument
    | .plain text =>
      match pending with
      | some (option, none) => readOptions given (some (option, some text)) rest
      | _ => .error .unknownArgument

/-! ## Commands -/

/-- The names of commands; `help` shows what another command does. -/
def names : List String := ["explain", "run", "help"]

/-- Help on a command that exists; commands have none inside them. -/
def helpOn : List String → Usage
  | [] => .help
  | [name] => if name ∈ names then .help else .unknownCommand
  | _ => .unknownCommand

/-- The command of a list of arguments (`Cli::parse_args`). -/
def ofArguments : List String → Except Usage Command
  | [] => .error .noCommand
  | first :: rest =>
    match first with
    | "explain" => (readOptions {} none rest).map fun given => explain given.paths
    | "run" => do
      let given ← readOptions {} none rest
      match given.data with
      | some data => return run data given.paths
      | none => throw .missingOption
    | "help" => .error (helpOn rest)
    | first =>
      match Argument.ofText first with
      | .separator =>
        match rest with
        | [] => .error .noCommand
        | next :: _ => .error (if next ∈ names then .unknownArgument else .unknownCommand)
      | .long name value =>
        if name = "help" then .error (if value.isSome then .unexpectedValue else .help)
        else if name = "version" then .error (if value.isSome then .unexpectedValue else .version)
        else .error .unknownArgument
      | .short letter =>
        .error (if letter = 'h' then .help else if letter = 'V' then .version else .unknownArgument)
      | .plain _ => .error .unknownCommand

end Command

end GridQuery
