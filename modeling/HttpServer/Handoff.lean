import HttpServer.Bytes.Utf8
import HttpServer.Config
import HttpServer.Invocation

/-!
# Handing the listener to a successor

A running server can start a copy of itself that takes over its listening socket. The copy gets the
arguments of the running process without any descriptor option, and the number of the descriptor in
its environment; an option would win over the environment.
-/

namespace HttpServer

namespace Handoff

/-- The variable that carries the number of the handed-over descriptor. -/
def descriptorVariable : String := "CONVEYOR_LISTEN_FD"

/-- The option that gives a descriptor, whose value is the next argument. -/
def descriptorOption : Bytes := Bytes.ascii "--fd"

def joinedOption : Bytes := Bytes.ascii "--fd="

/-- Whether an argument is a text that begins with the option and its value. -/
def isJoined (argument : Bytes) : Bool :=
  joinedOption.isPrefixOf argument && Utf8.isWellFormed argument

def successorArguments : List Bytes → List Bytes
  | [] => []
  | argument :: rest =>
    if argument = descriptorOption then
      match rest with
      | [] => []
      | _ :: rest => successorArguments rest
    else if isJoined argument then successorArguments rest
    else argument :: successorArguments rest

/-- How a successor is started: the same program with these arguments, and these settings of
variables besides those of the running process. -/
structure Command where
  arguments : List Bytes
  settings : List (String × String)
deriving DecidableEq

/-- The command that starts a successor which takes over a descriptor. -/
def command (arguments : List Bytes) (descriptor : DescriptorNumber) : Command where
  arguments := successorArguments arguments
  settings := [(descriptorVariable, toString descriptor.toInt)]

def Command.environment (command : Command) (environment : Environment) : Environment :=
  command.settings.foldl (fun environment (name, value) => environment.set name (Utf8.encode value))
    environment

end Handoff

end HttpServer
