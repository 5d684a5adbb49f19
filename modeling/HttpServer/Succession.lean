import HttpServer.Program

/-!
# A process and its successor

A process that is told to hand over starts a successor on the same socket and ends. From then on the
successor serves. Whoever watches waits only so long for a process to end: the accept loop notices
that it should stop when its current wait is over, which can take as long as that wait may.
-/

namespace HttpServer

/-- A process and the one that took over from it. -/
structure Succession where
  first : Program
  /-- Whether the first process has ended while it was waited for, once it has been told to. -/
  ended : Option Bool := none
  successor : Option Program := none

namespace Succession

def serving (succession : Succession) : Program := succession.successor.getD succession.first

def withServing (succession : Succession) (program : Program) : Succession :=
  match succession.successor with
  | some _ => { succession with successor := some program }
  | none => { succession with first := program }

/-- Lets a peer connect to the process that serves, send octets, and read to the end. -/
def exchange (succession : Succession) (octets : Bytes) (headOnly : Bool) :
    List Bytes × Succession :=
  let (responses, program) := succession.serving.exchange octets headOnly
  (responses, succession.withServing program)

/-- Waits for a process that has been told to stop: whether it has ended in time. -/
def await (patience : Nat) (program : Program) : Bool × Program :=
  if program.rehearsal.listener.acceptTimeout.toNat ≤ patience then (true, program.drain)
  else (false, program)

def launch (program : Program) (started : Invocation × Host) : Option Program :=
  match Program.start started.1 started.2 program.rehearsal.reachable with
  | .running successor => some successor
  | .ended _ _ => none

/-- Sends a signal to the process that serves, and waits for it to end: whether it has ended in
time. A successor has no successor of its own. -/
def signal (succession : Succession) (patience : Nat) (signal : Program.Signal) :
    Bool × Succession :=
  let program := succession.serving
  let (told, started) := program.receive (program.invocation.number + 1) signal
  let (ended, program) := await patience told
  match succession.successor with
  | some _ => (ended, { succession with successor := some program })
  | none =>
    (ended, { first := program, ended := some ended, successor := started.bind (launch told) })

def close (succession : Succession) (patience : Nat) : Succession :=
  let succession :=
    if succession.ended.isNone then (succession.signal patience .terminate).2 else succession
  if succession.successor.isSome then (succession.signal patience .terminate).2 else succession

end Succession

end HttpServer
