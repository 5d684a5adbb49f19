/-!
# Asking for shutdown

A request for shutdown is a latch: once triggered it stays triggered, whoever looks and whenever,
and triggering it again changes nothing. A latch is shared by handles, which can be cloned and
dropped. Whoever waits for a latch is told at the next look after it has been triggered.
-/

namespace HttpServer

/-- Someone who waits for a latch, or for nothing when the handle was gone already. -/
structure LatchWaiter where
  latch : Option Nat
  returned : Bool := false
deriving DecidableEq, Repr

/-- Latches with the handles on them and those who wait for them. The first latch is there from
the start, with a handle on it. -/
structure Latches where
  triggered : List Bool := [false]
  /-- The latch of each handle that has not been dropped. -/
  handles : List (Option Nat) := [some 0]
  waiters : List LatchWaiter := []
deriving DecidableEq, Repr

namespace Latches

def behind? (latches : Latches) (handle : Nat) : Option Nat := latches.handles.getD handle none

def isTriggered (latches : Latches) (latch : Nat) : Bool := latches.triggered.getD latch false

def new (latches : Latches) : Latches :=
  { latches with
    triggered := latches.triggered ++ [false]
    handles := latches.handles ++ [some latches.triggered.length] }

def clone (latches : Latches) (handle : Nat) : Latches :=
  { latches with handles := latches.handles ++ [latches.behind? handle] }

def drop (latches : Latches) (handle : Nat) : Latches :=
  { latches with handles := latches.handles.set handle none }

def trigger (latches : Latches) (handle : Nat) : Latches :=
  match latches.behind? handle with
  | some latch => { latches with triggered := latches.triggered.set latch true }
  | none => latches

/-- Whether a waiter may return. -/
def mayReturn (latches : Latches) (waiter : LatchWaiter) : Bool :=
  waiter.returned || waiter.latch.any latches.isTriggered

def poll (latches : Latches) (waiter : Nat) : Latches :=
  { latches with
    waiters := latches.waiters.modify waiter fun found =>
      { found with returned := latches.mayReturn found } }

/-- Begins to wait for the latch behind a handle, with a first look. -/
def wait (latches : Latches) (handle : Nat) : Latches :=
  let waiter := { latch := latches.behind? handle }
  ({ latches with waiters := latches.waiters ++ [waiter] } : Latches).poll latches.waiters.length

/-- What each handle that has not been dropped sees. -/
def seen (latches : Latches) : List (Option Bool) :=
  latches.handles.map fun handle => handle.map latches.isTriggered

end Latches

inductive LatchStep where
  | new
  | clone (handle : Nat)
  | drop (handle : Nat)
  | trigger (handle : Nat)
  | wait (handle : Nat)
  | poll (waiter : Nat)
deriving DecidableEq, Repr

def Latches.step (latches : Latches) : LatchStep → Latches
  | .new => latches.new
  | .clone handle => latches.clone handle
  | .drop handle => latches.drop handle
  | .trigger handle => latches.trigger handle
  | .wait handle => latches.wait handle
  | .poll waiter => latches.poll waiter

end HttpServer
