/-!
# Counting what happens

A registry holds what has been counted so far. Every series appears with its first update, and a
series that nothing has touched is absent from the rendered text.
-/

namespace HttpServer

inductive Metric where
  | accepted
  /-- An accept failed on grounds that do not pass by themselves. -/
  | acceptFailed
  | opened
  | closed
  /-- A response with this status was handed to the wire. -/
  | responded (status : Nat)
  | stageTimed (stage : String)
  | requestTimed
deriving DecidableEq, Repr

namespace Metric

def escapeLabel (value : String) : String :=
  String.ofList (value.toList.flatMap fun character =>
    match character with
    | '\\' => ['\\', '\\']
    | '"' => ['\\', '"']
    | '\n' => ['\\', 'n']
    | other => [other])

def labelled (name label value : String) : String :=
  name ++ "\x7b" ++ label ++ "=\"" ++ escapeLabel value ++ "\"\x7d"

/-- The series that a change belongs to, and by how much it changes it. -/
def change : Metric → String × Int
  | .accepted => ("conveyor_connections_accepted_total", 1)
  | .acceptFailed => ("conveyor_accept_errors_total", 1)
  | .opened => ("conveyor_active_connections", 1)
  | .closed => ("conveyor_active_connections", -1)
  | .responded status => (labelled "conveyor_requests_total" "status" (toString status), 1)
  | .stageTimed stage => (labelled "conveyor_stage_duration_seconds_count" "stage" stage, 1)
  | .requestTimed => ("conveyor_request_duration_seconds_count", 1)

end Metric

abbrev Registry := List (String × Int)

namespace Registry

/-- Adds to a series, which starts at zero. -/
def add (series : String) (amount : Int) : Registry → Registry
  | [] => [(series, amount)]
  | entry :: rest =>
    if entry.1 = series then (series, entry.2 + amount) :: rest
    else entry :: add series amount rest

def record (registry : Registry) (metric : Metric) : Registry :=
  registry.add metric.change.1 metric.change.2

def ofMetrics (metrics : List Metric) : Registry := metrics.foldl record []

/-- The value of a series, when something has touched it. -/
def value? (registry : Registry) (series : String) : Option Int :=
  (registry.find? fun entry => entry.1 = series).map Prod.snd

def render (registry : Registry) : List String :=
  (registry.map fun entry => entry.1 ++ " " ++ toString entry.2).mergeSort fun left right =>
    left ≤ right

end Registry

end HttpServer
