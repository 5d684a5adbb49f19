import HttpServer.CommandLine
import HttpServer.StatusPage

/-!
# Help and refusals

A command line that does not lead to options ends the process at once: with what it asks for, or
with what is wrong with it and where to find help.
-/

namespace HttpServer

namespace CommandLine

def usage : String := "Usage: conveyor [OPTIONS]"

def help : String :=
  String.intercalate "\n"
    ["HTTP/1.x connection-serving engine", "", usage, "", "Options:",
      "  -c, --config <CONFIG>  Path to the TOML configuration file [env: CONVEYOR_CONFIG=]",
      "  -p, --port <PORT>      Listen on this port on all interfaces",
      "      --fd <FD>          Adopt this already-listening descriptor instead of binding "
        ++ "[env: CONVEYOR_LISTEN_FD=]",
      "      --cert <CERT>      TLS certificate chain (PEM)",
      "      --key <KEY>        TLS private key (PEM)",
      "  -h, --help             Print help",
      "  -V, --version          Print version"]

def versionLine : String := "conveyor " ++ StatusPage.version

end CommandLine

/-- How a process ends whose command line does not lead to options. -/
def CommandLineExit.ending : CommandLineExit → Ending
  | .help => { code := 0, output := CommandLine.help }
  | .version => { code := 0, output := CommandLine.versionLine }
  | .refused error =>
    { code := 2
      complaint := "error: " ++ error.message ++ "\n\n" ++ CommandLine.usage
        ++ "\n\nFor more information, try '--help'." }

end HttpServer
