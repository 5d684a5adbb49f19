/-!
# When the stages of a request ran

Serving a request passes through stages, one at a time. A timeline records each with the instants
at which it started and ended, in the order they ended. It reads a clock that never goes back, so
no stage ends before it starts; a stage measured elsewhere whose end is earlier is recorded as one
that took no time. Records are only ever added, and the instant at which a request was complete is
set once.
-/

namespace HttpServer

/-- A point in time. -/
abbrev Instant := Nat

/-- A clock that never goes back: the time of the last reading, and how much passes before each
reading to come. -/
structure Clock where
  time : Instant := 0
  readings : Nat := 0
  passing : Nat → Nat := fun _ => 1

namespace Clock

/-- The clock at its next reading, where `time` is what it shows. -/
def tick (clock : Clock) : Clock :=
  { clock with time := clock.time + clock.passing clock.readings, readings := clock.readings + 1 }

theorem time_le_tick (clock : Clock) : clock.time ≤ clock.tick.time := Nat.le_add_right _ _

/-- The clock when it stops at a time, or at its own if that is later. -/
def stopAt (clock : Clock) (time : Instant) : Clock :=
  { clock with time := max clock.time time, passing := fun _ => 0 }

end Clock

structure StageRecord where
  name : String
  start : Instant
  finish : Instant
deriving DecidableEq, Repr

def StageRecord.duration (stage : StageRecord) : Nat := stage.finish - stage.start

structure OpenStage where
  name : String
  start : Instant
deriving DecidableEq, Repr

structure Timeline where
  startedAt : Instant
  clock : Clock
  records : List StageRecord := []
  current : Option OpenStage := none
  finishedAt : Option Instant := none

namespace Timeline

/-- The stage from the first octet of a request, or for a first request from the start of its
connection, to the last. -/
def initStage : String := "server.init"

def writeStage : String := "server.response_write"

/-- Ends the current stage, if there is one. -/
def finishStage (timeline : Timeline) : Timeline :=
  match timeline.current with
  | none => timeline
  | some stage =>
    let clock := timeline.clock.tick
    { timeline with
      clock
      current := none
      records := timeline.records ++ [⟨stage.name, stage.start, max clock.time stage.start⟩] }

/-- Records a stage that has been measured. The current stage is ended first. -/
def append (timeline : Timeline) (name : String) (start finish : Instant) : Timeline :=
  let timeline := timeline.finishStage
  { timeline with records := timeline.records ++ [⟨name, start, max finish start⟩] }

/-- Starts a stage. The current stage is ended first. -/
def start (timeline : Timeline) (name : String) : Timeline :=
  let timeline := timeline.finishStage
  let clock := timeline.clock.tick
  { timeline with clock, current := some ⟨name, clock.time⟩ }

/-- Ends the current stage and marks the request as complete, unless it is already. -/
def finish (timeline : Timeline) : Timeline :=
  let timeline := timeline.finishStage
  match timeline.finishedAt with
  | some _ => timeline
  | none =>
    let clock := timeline.clock.tick
    { timeline with clock, finishedAt := some clock.time }

/-- Whether the request is complete. -/
def isFinished (timeline : Timeline) : Bool := timeline.finishedAt.isSome

/-- The time from the start of the request to its completion, or to now. -/
def elapsed (timeline : Timeline) : Nat :=
  (timeline.finishedAt.getD timeline.clock.tick.time) - timeline.startedAt

def stageNames (timeline : Timeline) : List String := timeline.records.map StageRecord.name

/-- Whether no stage ends before it starts or after the next one starts. -/
def isOrdered (timeline : Timeline) : Bool :=
  timeline.records.all (fun stage => decide (stage.start ≤ stage.finish))
    && (timeline.records.zip timeline.records.tail).all fun (stage, next) =>
      decide (stage.finish ≤ next.start)

end Timeline

end HttpServer
