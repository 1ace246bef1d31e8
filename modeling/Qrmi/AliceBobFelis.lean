import Qrmi.RestClient

/-!
# The Felis resource

Submitting, polling and cancelling a job of `AliceBobFelis`, with the job endpoints
of its generated client.  A job is described by its events, the last of which
is its state.
-/

open Interaction

/-- `EventType`: the type of an event recorded for a job. -/
inductive EventType
  | created
  | fetchingInput
  | inputReady
  | compiling
  | compiled
  | compilationFailed
  | transpiling
  | transpiled
  | transpilationFailed
  | executing
  | succeeded
  | executionFailed
  | cancelled
  | timedOut
  deriving DecidableEq

/-- The configuration fields that build a request of the Felis client. -/
structure FelisConfiguration where
  basePath : Text
  userAgent : Option Text
  basicAuth : Option (Text × Option Text)

structure AliceBobFelis where
  config : FelisConfiguration

/-- The deserialiser of the job document, down to its events. -/
structure FelisCodec where
  readJob : Text → Except String (List EventType)

abbrev FelisMethod (α : Type) : Type :=
  Method WebAction WebAction.Answer AliceBobFelis QrmiError α

namespace AliceBobFelis

open Method

def jobUrl (config : FelisConfiguration) (taskId : Text) : Text :=
  config.basePath ++ "/v1/jobs/".toList ++ Text.urlencode taskId

def authorized (config : FelisConfiguration) (method : HttpMethod) (url : Text) :
    HttpRequest where
  method := method
  url := url
  query := []
  headers := (config.userAgent.map fun agent => ("User-Agent", agent)).toList
  authorization := match config.basicAuth with
    | some (user, password) => .basic user password
    | none => .absent
  body := none

section Operations

variable (codec : FelisCodec)

/-- Both job endpoints answer with the job document. -/
def readJobReply : HttpReply → Except ApiError (List EventType) :=
  HttpReply.readJson "application/octet-stream" "models::ExternalJob" codec.readJob

/-- `get_job`. -/
def getJob (config : FelisConfiguration) (taskId : Text) :
    WebProgram (Except ApiError (List EventType)) :=
  fetch (authorized config .get (jobUrl config taskId)) (readJobReply codec)

/-- `cancel_job`. -/
def cancelJob (config : FelisConfiguration) (taskId : Text) :
    WebProgram (Except ApiError (List EventType)) :=
  fetch (authorized config .delete (jobUrl config taskId)) (readJobReply codec)

/-- `alice_bob::error::classify`.  Felis asks for backends and jobs only. -/
def classify (kind : ResourceKind) (error : ApiError) : QrmiError :=
  match error with
  | .response status content =>
      classifyRefusal [400, 422] kind.notFound (responseContext status content)
        status content
  | _ => .other error.display

/-- `most_recent_event`.  A job without events is a panic, which never returns. -/
def mostRecentEvent (taskId : Text) : FelisMethod EventType := do
  let events ← request fun felis : AliceBobFelis =>
    classified (classify .job) (getJob codec felis.config taskId)
  match events.getLast? with
  | some event => return event
  | none => fun _ => .pending

/-- The events after which `task_stop` sends a cancellation. -/
def cancels (event : EventType) : Bool :=
  event ≠ .succeeded && event ≠ .cancelled

/-- `task_stop`. -/
def taskStop (taskId : Text) : FelisMethod Unit := do
  let event ← mostRecentEvent codec taskId
  if cancels event then
    let _ ← request fun felis : AliceBobFelis =>
      classified (classify .job) (cancelJob codec felis.config taskId)
  else
    return ()

def readTaskStatus : EventType → TaskStatus
  | .created | .fetchingInput | .inputReady => .queued
  | .compiling | .compiled | .transpiling | .transpiled | .executing => .running
  | .succeeded => .completed
  | .cancelled => .cancelled
  | .timedOut | .compilationFailed | .executionFailed | .transpilationFailed =>
      .failed

/-- `task_status`. -/
def taskStatus (taskId : Text) : FelisMethod TaskStatus := do
  let event ← mostRecentEvent codec taskId
  return readTaskStatus event

end Operations

end AliceBobFelis

/-- An `AliceBobFelis` with the target of its jobs. -/
structure FelisBackend extends AliceBobFelis where
  felisTarget : Text

/-- The deserialisers of a submission: any JSON, and the job document down to its
identifier. -/
structure FelisSubmissionCodec where
  parse : Text → Except String Json
  readJobId : Text → Except String Text

namespace FelisBackend

open Method

section Operations

variable (codec : FelisSubmissionCodec)

/-- The address of `create_job`. -/
def createUrl (config : FelisConfiguration) : Text :=
  config.basePath ++ "/v1/jobs/".toList

/-- `create_job`. -/
def createJob (config : FelisConfiguration) (job : Json) :
    WebProgram (Except ApiError Text) :=
  fetch { AliceBobFelis.authorized config .post (createUrl config) with body := some job }
    (HttpReply.readJson "application/octet-stream" "models::ExternalJob" codec.readJobId)

/-- `upload_input`.  The multipart form has one part, written here as an object with
one member. -/
def uploadInput (config : FelisConfiguration) (jobId input : Text) :
    WebProgram (Except ApiError Json) :=
  let url := AliceBobFelis.jobUrl config jobId ++ "/input".toList
  fetch { AliceBobFelis.authorized config .post url with
      body := some (.object [("input".toList, .string input)]) }
    (HttpReply.readJson "application/octet-stream" "serde_json::Value" codec.parse)

/-- `CreateExternalJob`. -/
def externalJob (felis : FelisBackend) (inputParams : Json) : Json :=
  .object [("inputDataFormat".toList, .string "HUMAN_QIR".toList),
    ("outputDataFormat".toList, .string "HISTOGRAM".toList),
    ("target".toList, .string felis.felisTarget),
    ("inputParams".toList, inputParams)]

/-- The error of an upload, after which the job exists. -/
def uploadError (jobId : Text) (_ : ApiError) : QrmiError :=
  .other s!"input upload failed for created job {String.ofList jobId}"

/-- `task_start`. -/
def taskStart (payload : Payload) :
    Method WebAction WebAction.Answer FelisBackend QrmiError Text := do
  match payload with
  | .aliceBobFelis humanQir inputParams =>
      let inputParams ← ofExcept ((codec.parse inputParams).mapError .invalidJson)
      let jobId ← request fun felis : FelisBackend =>
        classified (AliceBobFelis.classify .backend)
          (createJob codec felis.config (externalJob felis inputParams))
      let _ ← request fun felis : FelisBackend =>
        classified (uploadError jobId) (uploadInput codec felis.config jobId humanQir)
      return jobId
  | other => throw (.unsupportedPayload other.debug)

end Operations

end FelisBackend
