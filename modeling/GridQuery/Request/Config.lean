import GridQuery.Decode.Basic
import GridQuery.Log.Event

/-!
# Configuration

How the engine runs, read from a JSON text in which every field may be left out.

* `Config.ofText`: decodes and validates.
* `Config.validate`: the log level has a name, the time zone lies within a day.
* `ConfigError.message`: what is wrong with a configuration.
-/

namespace GridQuery

/-- The configuration of an engine (`QueryConfig`). -/
structure Config where
  /-- Object identifiers in rows become plain strings. -/
  normalizeIdentifiers : Bool := true
  /-- The summary queries allowed for each grouped request; zero allows any number. -/
  summaryQueryLimit : UInt32 := 100
  /-- Minutes taken from a date before its calendar parts are read. -/
  timezoneOffset : Int64 := 0
  /-- The groups inside a collapsed group are read, and not only counted. -/
  materializeCollapsedGroups : Bool := true
  /-- The least severity that is logged. -/
  logLevel : String := "info"
deriving DecidableEq

/-- Why there is no configuration. -/
inductive ConfigError where
  | unreadable (reason : String)
  | malformed (reason : DecodeError)
  | unknownLogLevel (name : String)
  | timezoneOutOfRange (offset : Int64)
deriving DecidableEq

namespace ConfigError

def message : ConfigError → String
  | unreadable reason => "Failed to read config: " ++ reason
  | malformed reason => "Invalid config JSON: " ++ reason.message
  | unknownLogLevel name =>
    "Invalid log_level: '" ++ name ++ "'. Must be trace, info, warn or error."
  | timezoneOutOfRange offset =>
    "timezone_offset must be within +/-1440 minutes, got " ++ toString offset.toInt

end ConfigError

namespace Config

def decoder : Decoder Config :=
  .record "QueryConfig"
    [ .optional "normalize_identifiers" .bool fun v c => { c with normalizeIdentifiers := v },
      .optional "summary_query_limit" .uint32 fun v c => { c with summaryQueryLimit := v },
      .optional "timezone_offset" .int64 fun v c => { c with timezoneOffset := v },
      .optional "materialize_collapsed_groups" .bool
        fun v c => { c with materializeCollapsedGroups := v },
      .optional "log_level" .string fun v c => { c with logLevel := v } ]
    {}

def toJson (c : Config) : Json :=
  .object
    [ ("normalize_identifiers", .bool c.normalizeIdentifiers),
      ("summary_query_limit", .ofUInt64 c.summaryQueryLimit.toUInt64),
      ("timezone_offset", .ofInt64 c.timezoneOffset),
      ("materialize_collapsed_groups", .bool c.materializeCollapsedGroups),
      ("log_level", .string c.logLevel) ]

/-- The magnitude of an offset as a 64-bit word; the least word is its own magnitude. -/
def magnitude (offset : Int64) : Int64 := if offset < 0 then -offset else offset

/-- The log level is looked at first (`QueryConfig::validate`). -/
def validate (c : Config) : Except ConfigError Unit :=
  if (Severity.ofName? c.logLevel).isNone then .error (.unknownLogLevel c.logLevel)
  else if 1440 < magnitude c.timezoneOffset then .error (.timezoneOutOfRange c.timezoneOffset)
  else .ok ()

/-- The valid configuration that a text holds (`QueryConfig::load`). -/
def ofText (text : String) : Except ConfigError Config :=
  match decodeText decoder text with
  | .error e => .error (.malformed e)
  | .ok config => config.validate.map fun _ => config

/-- The ceiling of summary queries, if there is one (`summary_limit`). -/
def summaryLimit (c : Config) : Option UInt32 :=
  if c.summaryQueryLimit = 0 then none else some c.summaryQueryLimit

/-- The least severity that is logged; an unknown level is that of information
    (`QueryConfig::severity`). -/
def severity (c : Config) : Severity := (Severity.ofName? c.logLevel).getD .info

/-- The log with the least severity that the configuration asks for (`apply_logging`). -/
def applyLogging (c : Config) (log : Log) : Log := { log with least := c.severity }

/-- The record of a configuration read from a path. -/
def loadedRecord (c : Config) (path : String) : LogRecord :=
  Event.configLoaded.record
    [("path", path), ("summary_query_limit", toString c.summaryQueryLimit.toNat)]

end Config

end GridQuery
