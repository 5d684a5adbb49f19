import HttpServer.Context
import HttpServer.Metrics
import HttpServer.Request.DecodeError
import HttpServer.Response
import HttpServer.Text.Quoted

/-!
# Pipelines

A pipeline answers requests. `Pipeline` is all that a connection needs of one: a function from
contexts, which may find no answer or fail by a fault of its own, and perhaps an observer of
completed requests. `StagePipeline` builds one from stages: request filters run in order until one
answers, then every response filter runs on the answer.
-/

namespace HttpServer

abbrev Answered := Except Fault (Option Response × Context)

/-- Is told of every request whose response has been written, and may count something. A fault of
the observer touches nobody else. -/
structure Observer where
  observe : Context → Except Fault (List Metric)

def Observer.stageMetrics : Observer where
  observe context :=
    .ok (context.timeline.stageNames.map Metric.stageTimed ++ [Metric.requestTimed])

/-- What requests are submitted to. -/
structure Pipeline where
  execute : Context → Answered
  observer : Option Observer := none

/-! ## Stages -/

structure RequestFilter where
  name : String
  run : Context → Answered

structure ResponseFilter where
  name : String
  run : Context → Response → Except Fault (Response × Context)

structure StagePipeline where
  requestFilters : List RequestFilter := []
  responseFilters : List ResponseFilter := []
  observer : Option Observer := none

namespace StagePipeline

/-- Runs request filters, each as a stage of its own, up to the first that answers. -/
def runRequestFilters : List RequestFilter → Context → Answered
  | [], context => .ok (none, context)
  | filter :: rest, context => do
    let (answer, context) ← filter.run (context.startStage filter.name)
    let context := context.finishStage
    match answer with
    | some response => .ok (some response, context)
    | none => runRequestFilters rest context

def runResponseFilters :
    List ResponseFilter → Response → Context → Except Fault (Response × Context)
  | [], response, context => .ok (response, context)
  | filter :: rest, response, context => do
    let (response, context) ← filter.run (context.startStage filter.name) response
    runResponseFilters rest response context.finishStage

/-- Runs the request filters and, if one of them answered, the response filters. -/
def execute (pipeline : StagePipeline) (context : Context) : Answered := do
  let (answer, context) ← runRequestFilters pipeline.requestFilters context
  match answer with
  | none => .ok (none, context)
  | some response =>
    let (response, context) ← runResponseFilters pipeline.responseFilters response context
    .ok (some response, context)

def toPipeline (pipeline : StagePipeline) : Pipeline where
  execute := pipeline.execute
  observer := pipeline.observer

def describe (pipeline : StagePipeline) : String :=
  let names := fun (stages : List String) => Text.bracketed (stages.map Text.quoted)
  Text.record "StagePipeline"
    [("upstream", names (pipeline.requestFilters.map RequestFilter.name)),
      ("downstream", names (pipeline.responseFilters.map ResponseFilter.name)),
      ("request_done", toString pipeline.observer.isSome)]

end StagePipeline

end HttpServer
