import GridQuery.CommandLine.Basic

/-!
# The program

Reads the files that the arguments name, performs the command, and writes the document to the
standard output and everything else to the standard error.
-/

open GridQuery

namespace GridQuery.Program

def version : String := "gridquery 1.0"

def helpText : String := String.intercalate "\n"
  [ "Answers the load options of a data grid by aggregation pipelines.",
    "",
    "gridquery explain [--options PATH] [--data PATH] [--config PATH]",
    "gridquery run [--options PATH] --data PATH [--config PATH]",
    "",
    "Load options are read from the standard input unless a path is given." ]

/-- What is told about arguments that are no command. -/
def usageText : Usage → String
  | .help | .noCommand => helpText
  | .version => version
  | .unknownCommand => "error: unknown command"
  | .unknownArgument => "error: unexpected argument"
  | .missingOption => "error: --data is required"
  | .repeatedOption => "error: an option is given twice"
  | .emptyValue => "error: an option needs a value"
  | .unexpectedValue => "error: a flag takes no value"

/-- The text of a file, unless it cannot be read. -/
def textOf (path : String) : IO (Option String) := do
  try return some (← IO.FS.readFile path)
  catch _ => return none

def textOf? (path : Option String) : IO (Option String) :=
  match path with
  | some path => textOf path
  | none => return none

/-- Everything up to the end of the standard input. -/
def inputText : IO (Option String) := do
  let input ← IO.getStdin
  return String.fromUTF8? (← input.readBinToEnd)

def inputsOf (c : Command) : IO Inputs := do
  let config ← textOf? c.paths.config
  let options ← if c.readsInput then inputText else textOf c.paths.options
  let data ← textOf? c.dataPath?
  return { options := options, data := data, config := config }

def perform (c : Command) : IO UInt32 := do
  let inputs ← inputsOf c
  let started ← IO.monoMsNow
  let (outcome, log) := c.perform inputs {}
  let elapsed := toString ((← IO.monoMsNow) - started)
  for record in log.records do
    IO.eprint (record.written elapsed)
  match outcome with
  | .shows document =>
    IO.println document.indentedText
    return 0
  | .fails e =>
    IO.eprintln e.text
    return 1
  | .aborts =>
    IO.eprintln "error: a date lies beyond the years that are supported"
    return 101

end GridQuery.Program

def main (args : List String) : IO UInt32 :=
  match Command.ofArguments args with
  | .ok c => Program.perform c
  | .error usage => do
    let text := Program.usageText usage
    if usage.exitCode = 0 then IO.println text else IO.eprintln text
    return UInt32.ofNat usage.exitCode
