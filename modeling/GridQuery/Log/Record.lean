import GridQuery.Json.Printer

/-!
# Log records

A record is an event with a severity and fields of text. It is written as one line of JSON: event
and severity first, then the fields by ascending key. Models `Severity` and `Logger`.

* `Severity`: from trace to error, in this order.
* `LogRecord.line`: the line of a record; `LogRecord.written` adds the line break.
* `Log.write`: adds a record to a log unless its severity is below the log's minimum.
-/

namespace GridQuery

/-! ## Severities -/

/-- How much a record matters. -/
inductive Severity where
  | trace
  | info
  | warn
  | error
deriving DecidableEq

namespace Severity

def all : List Severity := [trace, info, warn, error]

/-- The place in the order. -/
def rank : Severity → Nat
  | trace => 0
  | info => 1
  | warn => 2
  | error => 3

def name : Severity → String
  | trace => "TRACE"
  | info => "INFO"
  | warn => "WARN"
  | error => "ERROR"

/-- The severity of a name, in any case of ASCII letters; `warning` is `warn`
    (`Severity::parse`). -/
def ofName? (name : String) : Option Severity :=
  match name.map Char.toLower with
  | "trace" => some trace
  | "info" => some info
  | "warn" => some warn
  | "warning" => some warn
  | "error" => some error
  | _ => none

end Severity

/-! ## Records -/

/-- One record; a timed one also says how long the work took. -/
structure LogRecord where
  severity : Severity
  event : String
  fields : List (String × String)
  timed : Bool := false
deriving DecidableEq

namespace LogRecord

/-- The fields by ascending key; fields of one key keep their order. -/
def sorted (fields : List (String × String)) : List (String × String) :=
  fields.mergeSort fun a b => decide (a.1 ≤ b.1)

/-- The entries of the line; a repeated key keeps its first place and its last text. -/
def entries (elapsed : String) (r : LogRecord) : Entries :=
  Entries.ofList <|
    ([("event", r.event), ("severity", r.severity.name)] ++
      sorted (r.fields ++ if r.timed then [("elapsed_ms", elapsed)] else [])).map
      fun field => (field.1, Json.string field.2)

/-- The record on one line, with the milliseconds that a timed record gives (`log_to_writer`). -/
def line (elapsed : String) (r : LogRecord) : String :=
  (Json.object (r.entries elapsed)).text

/-- What is written of the record: its line and the line break behind it. -/
def written (elapsed : String) (r : LogRecord) : String := r.line elapsed ++ "\n"

end LogRecord

/-! ## Logs -/

/-- The records written so far, oldest first, and the least severity that is written (`Logger`). -/
structure Log where
  least : Severity := .info
  records : List LogRecord := []
deriving DecidableEq

namespace Log

def isEnabled (log : Log) (severity : Severity) : Bool := log.least.rank ≤ severity.rank

/-- Adds a record if its severity is enabled (`Logger::log`). -/
def write (log : Log) (record : LogRecord) : Log :=
  if log.isEnabled record.severity then { log with records := log.records ++ [record] } else log

end Log

end GridQuery
