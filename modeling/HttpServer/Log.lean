import HttpServer.Text.Quoted

/-!
# Log entries

An entry has a level, a source, a message and fields in a fixed order. `LogEntry.render` writes it
as one line; texts that stand for themselves are shown as they are, others in quotes. A line ending
in a text that is shown as it is divides the entry.
-/

namespace HttpServer

inductive LogLevel where
  | error
  | warning
  | info
  | debug
  | trace
deriving DecidableEq, Repr

namespace LogLevel

/-- The place of a level: the more important, the lower. -/
def rank : LogLevel → Nat
  | .error => 1
  | .warning => 2
  | .info => 3
  | .debug => 4
  | .trace => 5

def name : LogLevel → String
  | .error => "ERROR"
  | .warning => "WARN"
  | .info => "INFO"
  | .debug => "DEBUG"
  | .trace => "TRACE"

end LogLevel

inductive LogSource where
  | program
  | server
  | connection
deriving DecidableEq, Repr

/-- The name of a source, by which filters know it. -/
def LogSource.target : LogSource → String
  | .program => "conveyor"
  | .server => "conveyor::http::server"
  | .connection => "conveyor::http::handler"

structure LogField where
  name : String
  text : String
  /-- Whether the text is shown in quotes. -/
  inQuotes : Bool := false
deriving DecidableEq, Repr

def LogField.render (field : LogField) : String :=
  field.name ++ "=" ++ if field.inQuotes then Text.quoted field.text else field.text

structure LogEntry where
  level : LogLevel
  source : LogSource
  message : String
  fields : List LogField := []
deriving DecidableEq, Repr

namespace LogEntry

/-- The names of the fields of an entry, of which the message is one. -/
def fieldNames (entry : LogEntry) : List String := "message" :: entry.fields.map LogField.name

/-- An entry as it is written, without a time. -/
def render (entry : LogEntry) : String :=
  entry.level.name ++ " " ++ entry.source.target ++ ": " ++ entry.message
    ++ String.join (entry.fields.map fun field => " " ++ field.render)

def lines (entry : LogEntry) : List String := entry.render.splitOn "\n"

end LogEntry

end HttpServer
