import Qrmi.RestClient

/-!
# The IQM server resource

Submitting, polling and cancelling a job of `IQMServer`, with the job endpoints of
its generated client.
-/

open Interaction

/-- `IqmServerJobStatus`. -/
inductive IqmServerJobStatus
  | waiting
  | processing
  | completed
  | failed
  | cancelled
  deriving DecidableEq

/-- The configuration fields that build a request of the IQM client. -/
structure IqmConfiguration where
  basePath : Text
  userAgent : Option Text
  bearerAccessToken : Option Text

structure IQMServer where
  config : IqmConfiguration

/-- The deserialiser of the job document, down to its status. -/
structure IqmCodec where
  readJob : Text → Except String IqmServerJobStatus

abbrev IqmMethod (α : Type) : Type :=
  Method WebAction WebAction.Answer IQMServer QrmiError α

namespace IQMServer

open Method

def jobUrl (config : IqmConfiguration) (taskId : Text) : Text :=
  config.basePath ++ "/api/v1/jobs/".toList ++ Text.urlencode taskId

def authorized (config : IqmConfiguration) (method : HttpMethod) (url : Text)
    (query : List (String × Text)) : HttpRequest where
  method := method
  url := url
  query := query
  headers := (config.userAgent.map fun agent => ("User-Agent", agent)).toList
  authorization := match config.bearerAccessToken with
    | some token => .bearer token
    | none => .absent
  body := none

section Operations

variable (codec : IqmCodec)

/-- Both job endpoints answer with the job document. -/
def readJobReply : HttpReply → Except ApiError IqmServerJobStatus :=
  HttpReply.readJson "application/octet-stream" "models::IqmServerJob" codec.readJob

/-- `get_job_v1`, which waits for a terminal status for at most 30 seconds. -/
def getJobV1 (config : IqmConfiguration) (taskId : Text) :
    WebProgram (Except ApiError IqmServerJobStatus) :=
  fetch
    (authorized config .get (jobUrl config taskId)
      [("wait_until_terminal", "true".toList), ("timeout_seconds", "30".toList)])
    (readJobReply codec)

/-- `cancel_job_v1`. -/
def cancelJobV1 (config : IqmConfiguration) (taskId : Text) :
    WebProgram (Except ApiError IqmServerJobStatus) :=
  fetch (authorized config .post (jobUrl config taskId ++ "/cancel".toList) [])
    (readJobReply codec)

/-- `iqm::error::classify`.  The IQM resource asks for backends and jobs only. -/
def classify (kind : ResourceKind) (error : ApiError) : QrmiError :=
  match error with
  | .response status content =>
      classifyRefusal [400] kind.notFound (.other error.display) status content
  | _ => .other error.display

def getJob (taskId : Text) : IqmMethod IqmServerJobStatus :=
  request fun server => classified (classify .job) (getJobV1 codec server.config taskId)

/-- The statuses in which `task_stop` sends a cancellation. -/
def cancels (status : IqmServerJobStatus) : Bool :=
  status = .waiting || status = .processing

/-- `task_stop`. -/
def taskStop (taskId : Text) : IqmMethod Unit := do
  let status ← getJob codec taskId
  if cancels status then
    let _ ← request fun server : IQMServer =>
      classified (classify .job) (cancelJobV1 codec server.config taskId)
  else
    return ()

def readTaskStatus : IqmServerJobStatus → TaskStatus
  | .waiting => .queued
  | .processing => .running
  | .completed => .completed
  | .failed => .failed
  | .cancelled => .cancelled

/-- `task_status`. -/
def taskStatus (taskId : Text) : IqmMethod TaskStatus := do
  let status ← getJob codec taskId
  return readTaskStatus status

end Operations

end IQMServer

/-- An `IQMServer` with the name of its backend. -/
structure IQMBackend extends IQMServer where
  backendName : Text

/-- The deserialisers of a submission: the payload, and the job document down to its
identifier. -/
structure IqmSubmissionCodec where
  parse : Text → Except String Json
  readJobId : Text → Except String Text

namespace IQMBackend

open Method

/-- `job_submit`. -/
def jobSubmit (codec : IqmSubmissionCodec) (config : IqmConfiguration) (qc jobType : Text)
    (useTimeslot : Option Bool) (tag : Option Text) (body : Json) :
    WebProgram (Except ApiError Text) :=
  let timeslot := useTimeslot.map fun value => ("use_timeslot", (toString value).toList)
  let url := config.basePath ++ "/api/v1/jobs/".toList ++ qc ++ "/".toList ++
    Text.urlencode jobType
  let request := IQMServer.authorized config .post url
    (timeslot.toList ++ (tag.map fun value => ("tag", value)).toList)
  fetch { request with body := some body }
    (HttpReply.readJson "application/octet-stream" "models::IqmServerJob" codec.readJobId)

/-- `task_start`. -/
def taskStart (codec : IqmSubmissionCodec) (payload : Payload) :
    Method WebAction WebAction.Answer IQMBackend QrmiError Text := do
  match payload with
  | .iqmServer iqmjson jobType useTimeslot tag =>
      let job ← ofExcept ((codec.parse iqmjson).mapError .invalidJson)
      request fun server => classified (IQMServer.classify .backend)
        (jobSubmit codec server.config server.backendName jobType useTimeslot tag job)
  | other => throw (.unsupportedPayload other.debug)

end IQMBackend
