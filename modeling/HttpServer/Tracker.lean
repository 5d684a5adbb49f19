import HttpServer.Context
import HttpServer.Metrics

/-!
# Counting running connections

A tracker counts the connections whose handlers run. Every accepted connection holds a guard, and
the guard gives the count back when it is released. Whoever waits for the count to reach zero
registers for a notification first and reads the count afterwards, so that a notification between
the two is not lost.

The steps here are those that nothing can come between: `Tracker.step` takes one of them where it
is possible. What callers do is built from them.
-/

namespace HttpServer

/-- The share of one connection in the count. -/
structure Guard where
  id : ConnectionId
  released : Bool := false
deriving DecidableEq, Repr

/-- How far a waiter has come. A notification reaches it once it has registered. -/
inductive WaiterPhase where
  /-- It has not registered for the next notification. -/
  | calling
  /-- It has registered and not read the count. -/
  | registered (notified : Bool)
  /-- It has read a count above zero and waits for a notification. -/
  | parked (notified : Bool)
  /-- It has read a count of zero. -/
  | returned
deriving DecidableEq, Repr

def WaiterPhase.notify : WaiterPhase → WaiterPhase
  | .registered _ => .registered true
  | .parked _ => .parked true
  | other => other

/-- The count, with everyone who changes it or waits for it. -/
structure Tracker where
  /-- All guards ever given out, in order. -/
  guards : List Guard := []
  active : Nat := 0
  /-- The releases that took the count from one to zero and have not notified anyone yet. -/
  notifying : Nat := 0
  waiters : List WaiterPhase := []
deriving DecidableEq, Repr

inductive TrackerStep where
  /-- A connection is counted and gets its guard. -/
  | track
  /-- The count of a guard is given back. -/
  | release (guard : Nat)
  /-- A release that took the count to zero notifies all who have registered. -/
  | notify
  | wait
  /-- A waiter registers for the next notification. -/
  | register (waiter : Nat)
  /-- A waiter reads the count. -/
  | read (waiter : Nat)
  /-- A waiter that has been notified begins anew. -/
  | wake (waiter : Nat)
deriving DecidableEq, Repr

namespace Tracker

def step (tracker : Tracker) : TrackerStep → Option Tracker
  | .track =>
    let guard : Guard := { id := ⟨tracker.guards.length + 1⟩ }
    some { tracker with guards := tracker.guards ++ [guard], active := tracker.active + 1 }
  | .release index =>
    match tracker.guards[index]? with
    | some ⟨id, false⟩ =>
      some { tracker with
        guards := tracker.guards.set index ⟨id, true⟩
        active := tracker.active - 1
        notifying := if tracker.active = 1 then tracker.notifying + 1 else tracker.notifying }
    | _ => none
  | .notify =>
    if tracker.notifying = 0 then none
    else
      some { tracker with
        notifying := tracker.notifying - 1
        waiters := tracker.waiters.map WaiterPhase.notify }
  | .wait => some { tracker with waiters := tracker.waiters ++ [.calling] }
  | .register index =>
    match tracker.waiters[index]? with
    | some .calling =>
      some { tracker with waiters := tracker.waiters.set index (.registered false) }
    | _ => none
  | .read index =>
    match tracker.waiters[index]? with
    | some (.registered notified) =>
      let phase := if tracker.active = 0 then .returned else .parked notified
      some { tracker with waiters := tracker.waiters.set index phase }
    | _ => none
  | .wake index =>
    match tracker.waiters[index]? with
    | some (.parked true) =>
      some { tracker with waiters := tracker.waiters.set index .calling }
    | _ => none

/-- Takes those of a list of steps that are possible when it is their turn. -/
def steps (tracker : Tracker) (list : List TrackerStep) : Tracker :=
  list.foldl (fun tracker next => (tracker.step next).getD tracker) tracker

/-! ## What callers do -/

def track (tracker : Tracker) : Tracker := tracker.steps [.track]

/-- The latest guard given out. -/
def latest? (tracker : Tracker) : Option Guard := tracker.guards.getLast?

/-- Releases a guard, unless it has been released. -/
def release (tracker : Tracker) (guard : Nat) : Tracker :=
  tracker.steps [.release guard, .notify]

/-- Lets a waiter go on as far as it can. -/
def poll (tracker : Tracker) (waiter : Nat) : Tracker :=
  tracker.steps [.wake waiter, .register waiter, .read waiter]

/-- Begins to wait until nothing is counted. -/
def wait (tracker : Tracker) : Tracker :=
  (tracker.steps [.wait]).poll tracker.waiters.length

def returned (tracker : Tracker) : List Bool := tracker.waiters.map (· = .returned)

def metrics (tracker : Tracker) : List Metric :=
  tracker.guards.flatMap fun guard => if guard.released then [.opened, .closed] else [.opened]

end Tracker

end HttpServer
