import HttpServer.CommandLine
import HttpServer.Config.Load

/-!
# The configuration that options lead to

A configuration comes from the file that the options name, or else has all its defaults. Options
override single settings of it, and the result is judged once more.
-/

namespace HttpServer.Options

/-- The configuration in which given options take the place of settings. -/
def override (options : Options) (config : Config) : Config :=
  let listener := config.listener
  let credentials :=
    match options.certificate, options.key with
    | some certificate, some key => some { certificate, key }
    | _, _ => listener.credentials
  { config with
    listener := { listener with
      bindAddress :=
        (options.port.map fun port => ":" ++ toString port.toNat).getD listener.bindAddress
      inherited := options.descriptor <|> listener.inherited
      credentials } }

def baseConfig (options : Options) (files : FileSystem) : Except ConfigError Config :=
  match options.config with
  | some path => Config.load files path
  | none => .ok {}

def loadConfig (options : Options) (files : FileSystem) : Except ConfigError Config := do
  (options.override (← options.baseConfig files)).judge

end HttpServer.Options
