import HttpServer.Config.OfDocument
import HttpServer.Config.Toml
import HttpServer.Config.Validation
import HttpServer.Files

/-!
# Loading a configuration

A configuration is loaded in three steps, each of which may fail: the file is read, its text is
read as a configuration, and the configuration is judged.
-/

namespace HttpServer

inductive ConfigFileError where
  | system (failure : SystemFailure)
  /-- The octets are not those of a text. -/
  | notText
deriving DecidableEq, Repr

def ConfigFileError.message : ConfigFileError → String
  | .system failure => failure.message
  | .notText => "stream did not contain valid UTF-8"

inductive ConfigError where
  | file (error : ConfigFileError)
  /-- The text is not a document, or the document is not a configuration. -/
  | form
  | invalid (problems : List ConfigProblem)
deriving DecidableEq, Repr

def ConfigError.message : ConfigError → String
  | .file error => "IO error: " ++ error.message
  | .form => "Parse error"
  | .invalid problems =>
    "Validation failed: " ++ String.intercalate ", " (problems.map ConfigProblem.message)

namespace Config

/-- Accepts a configuration that breaks no rule. -/
def judge (config : Config) : Except ConfigError Config :=
  if config.isValid then .ok config else .error (.invalid config.problems)

/-- The configuration that a text describes, valid or not. -/
def read (text : String) : Except ConfigError Config :=
  match (Toml.parse text).bind (ofDocument? true) with
  | some config => .ok config
  | none => .error .form

/-- The valid configuration that a text describes. -/
def parse (text : String) : Except ConfigError Config := do judge (← read text)

def readFile (files : FileSystem) (path : Path) : Except ConfigError String :=
  match files.read path with
  | .error failure => .error (.file (.system failure))
  | .ok content =>
    match Utf8.decode content with
    | some text => .ok text
    | none => .error (.file .notText)

def load (files : FileSystem) (path : Path) : Except ConfigError Config := do
  parse (← readFile files path)

end Config

end HttpServer
