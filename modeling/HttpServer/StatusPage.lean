import HttpServer.Bytes.Utf8
import HttpServer.Pipeline

/-!
# The pipeline of the program

The program answers requests for one path with a report on itself, and puts its name on what it
answers. Everything else is not found.
-/

namespace HttpServer.StatusPage

def version : String := "0.1.0"
def path : Bytes := Bytes.ascii "/status"

def kind : FieldValue := ⟨Bytes.ascii "application/json", by decide⟩

def serverValue : FieldValue := ⟨Bytes.ascii "conveyor/0.1.0", by decide⟩

def part (name value : String) : String := "\"" ++ name ++ "\":" ++ value

/-- The report: how many requests the connection has carried, the number of the process, which
request this is, and for how many seconds the process has been running. -/
def report (process : Nat) (startedAt : Instant) (context : Context) : String :=
  "\x7b" ++ String.intercalate ","
    [part "connection_requests" (toString context.sequence), part "pid" (toString process),
      part "request_id" ("\"" ++ context.id ++ "\""), part "status" "\"ok\"",
      part "uptime_secs" (toString ((context.timeline.clock.time - startedAt) / 1000))] ++ "\x7d"

def answer (process : Nat) (startedAt : Instant) : RequestFilter where
  name := "status"
  run context :=
    if context.request.target.path == path then
      let response := Response.text .ok (Utf8.encode (report process startedAt context))
      let fields := response.fields.insert .contentType kind
      .ok (some { response with fields }, context)
    else .ok (none, context)

def signature : ResponseFilter where
  name := "server-header"
  run context response :=
    .ok ({ response with fields := response.fields.insert .server serverValue }, context)

/-- The pipeline of the process with a number, which was started at an instant. -/
def pipeline (process : Nat) (startedAt : Instant) : StagePipeline where
  requestFilters := [answer process startedAt]
  responseFilters := [signature]
  observer := some .stageMetrics

end HttpServer.StatusPage
