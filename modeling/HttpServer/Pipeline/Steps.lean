import HttpServer.Pipeline

/-!
# Stages described by data

A stage can be any function. The ones here are described by data, so that a pipeline can be written
down: fixed answers, answers that show a part of the request, and small changes to the request, to
the response or to the timeline.
-/

namespace HttpServer

/-! ## Request steps -/

inductive RequestStep where
  | pass
  | answer (response : Response)
  | path
  | body
  | length
  /-- Shows the place of the request, its method, its target and its version. -/
  | info
  | echoField (name : FieldName)
  | ifPath (path : Bytes) (step : RequestStep)
  | setField (name : FieldName) (value : FieldValue)
  | stage (name : String)
  | discard
  | finish
  | fault
  /-- Answers a request whose client is cut off while the answer is made. -/
  | cutOff (client : Nat)

namespace RequestStep

def infoText (context : Context) : Bytes :=
  Bytes.ascii ("seq=" ++ toString context.sequence)
    ++ Bytes.ascii (" secure=" ++ toString context.connection.secure)
    ++ Bytes.ascii " method=" ++ context.request.method
    ++ Bytes.ascii " uri=" ++ context.request.target.render
    ++ Bytes.ascii " version=" ++ context.request.version.wireText

def fieldText (context : Context) (name : FieldName) : Bytes :=
  let values := (context.request.fields.getAll name).map FieldValue.text
  (values.intersperse [0x7C]).flatten

def run : RequestStep → Context → Answered
  | .pass, context => .ok (none, context)
  | .answer given, context => .ok (some given, context)
  | .path, context => .ok (some (.text .ok context.request.target.path), context)
  | .body, context => .ok (some (.text .ok context.request.body), context)
  | .length, context =>
    .ok (some (.text .ok (Numeral.decimal context.request.body.length)), context)
  | .info, context => .ok (some (.text .ok (infoText context)), context)
  | .echoField name, context => .ok (some (.text .ok (fieldText context name)), context)
  | .ifPath wanted step, context =>
    if context.request.target.path == wanted then step.run context else .ok (none, context)
  | .setField name value, context =>
    let request := { context.request with fields := context.request.fields.insert name value }
    .ok (none, { context with request })
  | .stage title, context => .ok (none, context.startStage title)
  | .discard, context => .ok (none, context.discardBody)
  | .finish, context => .ok (none, context.finish)
  | .fault, _ => .error .stage
  | .cutOff _, context => .ok (some (.text .ok (Bytes.ascii "gone")), context)

def toFilter (step : RequestStep) (name : String) : RequestFilter where
  name := name
  run := step.run

/-- The clients that are cut off while a step is taken. -/
def cutsOff : RequestStep → Context → List Nat
  | .cutOff client, _ => [client]
  | .ifPath wanted step, context =>
    if context.request.target.path == wanted then step.cutsOff context else []
  | _, _ => []

/-- The clients that are cut off while steps are taken up to the first that answers. -/
def allCutOff : List RequestStep → Context → List Nat
  | [], _ => []
  | step :: rest, context =>
    step.cutsOff context ++
      match step.run context with
      | .ok (none, context) => allCutOff rest context
      | _ => []

end RequestStep

/-! ## Response steps -/

inductive ResponseStep where
  | pass
  | insert (name : FieldName) (value : FieldValue)
  | append (name : FieldName) (value : FieldValue)
  | remove (name : FieldName)
  | status (status : Status)
  | body (body : Bytes)
  | version (version : Version)
  | keepAlive (keep : Bool)
  | stage (name : String)
  | fault

namespace ResponseStep

/-- What a step does to the response alone. -/
def edit (step : ResponseStep) (response : Response) : Response :=
  match step with
  | .insert name value => { response with fields := response.fields.insert name value }
  | .append name value => { response with fields := response.fields.append name value }
  | .remove name => { response with fields := response.fields.remove name }
  | .status given => { response with status := given }
  | .body given => { response with body := given }
  | .version given => { response with version := given }
  | .keepAlive keep => response.withKeepAlive keep
  | .pass | .stage _ | .fault => response

def run (step : ResponseStep) (context : Context) (response : Response) :
    Except Fault (Response × Context) :=
  match step with
  | .fault => .error .stage
  | .stage name => .ok (response, context.startStage name)
  | other => .ok (other.edit response, context)

def toFilter (step : ResponseStep) (name : String) : ResponseFilter where
  name := name
  run := step.run

end ResponseStep

end HttpServer
