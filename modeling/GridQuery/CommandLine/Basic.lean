import GridQuery.CommandLine.Arguments
import GridQuery.Engine.Basic
import GridQuery.Engine.Recording
import GridQuery.Unicode.Word

/-!
# Commands

What a command does with the texts of its files: it loads the configuration, the load options and
the documents, in this order, and answers the request.

* `Command.perform`: the document that a command shows, and its log.
* `CommandError.text`: the error on one line, with a stable code in front.
-/

namespace GridQuery

/-! ## Errors -/

/-- Why a command shows no document (`CliError`). -/
inductive CommandError where
  | config (reason : ConfigError)
  /-- A file of load options is not there. -/
  | noOptionsFile (path : String)
  | emptyOptions
  | malformedOptions
  | options (reason : DecodeError)
  | data (reason : CollectionError)
  | queryFailed (reason : QueryError)
deriving DecidableEq

namespace CommandError

/-- The stable code of the kind of error (`CliErrorCode::code`). -/
def code : CommandError → String
  | config _ => "GRID_CLI_CONFIG_ERROR"
  | noOptionsFile _ | emptyOptions | malformedOptions => "GRID_CLI_IO_ERROR"
  | options _ => "GRID_CLI_OPTIONS_ERROR"
  | data _ => "GRID_CLI_DATA_ERROR"
  | queryFailed _ => "GRID_CLI_QUERY_FAILED"

def message : CommandError → String
  | config reason => reason.message
  | noOptionsFile path => path ++ ": " ++ LoadFault.noSuchFile.message
  | emptyOptions => "Empty input"
  | malformedOptions => "JSON error: " ++ LoadFault.malformed.message
  | options reason => reason.message
  | data reason => reason.code ++ ": " ++ reason.message
  | queryFailed reason => reason.code ++ ": " ++ reason.message

/-- The error on one line. -/
def text (e : CommandError) : String := e.code ++ ": " ++ e.message

/-- Errors of the configuration and of the load options are those of the command. -/
def ofQuery : QueryError → CommandError
  | .invalidConfig reason => config reason
  | .invalidOptions reason => options reason
  | reason => queryFailed reason

end CommandError

/-! ## Input -/

/-- The texts at the paths of a command; a file that is not there has none. -/
structure Inputs where
  options : Option String
  data : Option String := none
  config : Option String := none

namespace Command

def paths : Command → Paths
  | explain paths | run _ paths => paths

/-- The path of the documents. -/
def dataPath? : Command → Option String
  | explain paths => paths.data
  | run data _ => some data

/-- The load options are read from the standard input. -/
def readsInput (c : Command) : Bool := c.paths.options = "-"

/-- The configuration, and the log with a record of it and the least severity it asks for
    (`load_config`). -/
def loadConfig (c : Command) (inputs : Inputs) (log : Log) : Except CommandError (Config × Log) :=
  match c.paths.config with
  | none => .ok ({}, Config.applyLogging {} log)
  | some path =>
    match inputs.config with
    | none => .error (.config (.unreadable LoadFault.noSuchFile.message))
    | some text =>
      match Config.ofText text with
      | .error reason => .error (.config reason)
      | .ok config => .ok (config, config.applyLogging (log.write (config.loadedRecord path)))

/-- The load options; a text of blanks is empty (`load_options`, `read_json`). -/
def loadOptions (c : Command) (inputs : Inputs) : Except CommandError LoadOptions :=
  match inputs.options with
  | none => .error (.noOptionsFile c.paths.options)
  | some text =>
    if text.toList.all Unicode.isWhitespace then .error .emptyOptions
    else
      match Json.read? text with
      | none => .error .malformedOptions
      | some value => (LoadOptions.ofValue value).mapError .options

/-- The documents; without a path there are none. -/
def loadData (c : Command) (inputs : Inputs) : Except CommandError Collection :=
  match c.dataPath? with
  | none => .ok ⟨[]⟩
  | some path => (Collection.ofText path inputs.data).mapError .data

/-! ## Output -/

/-- How a command ends. -/
inductive Outcome where
  | shows (document : Json)
  | fails (e : CommandError)
  /-- The request was given up without an answer. -/
  | aborts

/-- How a command ends with its request, given what it shows of a response. -/
def Outcome.ofRequest (document : Response → Json) : Except Failure Response → Outcome
  | .ok r => shows (document r)
  | .error (.error reason) => fails (.ofQuery reason)
  | .error .aborted => aborts

/-- What `explain` shows: the pipelines that have been recorded, and the response. -/
def explained (recorder : RecordingRunner) (r : Response) : Json :=
  .object
    [ ("pipelines", .array (recorder.pipelines.map Json.array)),
      ("response", r.toJson) ]

/-- Answers the request once everything is loaded: `run` on the documents as they are (`execute`),
    `explain` with a recorder in front of them (`explain`). -/
def answer (c : Command) (config : Config) (options : LoadOptions) (data : Collection) (log : Log) :
    Outcome × Log :=
  match c with
  | run _ _ =>
    let engine : Engine := { runner := .ofCollection data, config := config }
    let (outcome, s) := engine.query options { log := log }
    (.ofRequest Response.toJson outcome, s.log)
  | explain _ =>
    let recorder := RecordingRunner.new (.ofCollection data)
    let engine : Engine := { runner := recorder.runner, config := config }
    let (outcome, s) := engine.query options { log := log }
    (.ofRequest (explained (recorder.afterAll s.pipelines)) outcome, s.log)

/-- What a command does: the first thing that cannot be loaded decides (`run_command`). -/
def perform (c : Command) (inputs : Inputs) (log : Log) : Outcome × Log :=
  match c.loadConfig inputs log with
  | .error e => (.fails e, log)
  | .ok (config, log) =>
    match c.loadOptions inputs, c.loadData inputs with
    | .error e, _ => (.fails e, log)
    | .ok _, .error e => (.fails e, log)
    | .ok options, .ok data => c.answer config options data log

end Command

end GridQuery
