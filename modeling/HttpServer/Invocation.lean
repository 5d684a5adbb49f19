import HttpServer.Bytes

/-!
# Invocations

A program is invoked with arguments and an environment, as a process with a number, and ends with a
code. Arguments and values of variables are octets, which need not be text.
-/

namespace HttpServer

abbrev Environment := String → Option Bytes

def Environment.set (environment : Environment) (name : String) (value : Bytes) : Environment :=
  fun other => if other = name then some value else environment other

structure Invocation where
  number : Nat
  arguments : List Bytes
  environment : Environment

structure Ending where
  code : Nat
  /-- What it has printed. -/
  output : String := ""
  /-- What it has complained of. -/
  complaint : String := ""
deriving DecidableEq, Repr

end HttpServer
