import Qrmi.InteractionHistory
import Qrmi.InteractionPanic
import Qrmi.QuantumResource
import Qrmi.QuantumSystemMiddleware
import Qrmi.ResourceSettings

/-!
# Pasqal QPUs on the premises

Every request to the middleware but one carries a credential of munge that was made for it,
and jobs are created in the session that the resource holds.
-/

open Interaction

namespace PasqalLocalApi

inductive JobStatus
  | pending
  | running
  | done
  | canceled
  | error
  deriving DecidableEq

def JobStatus.debug : JobStatus → String
  | pending => "Pending"
  | running => "Running"
  | done => "Done"
  | canceled => "Canceled"
  | error => "Error"

structure JobResponse where
  id : Int
  status : JobStatus
  results : Option Text

inductive MungeError
  | encodeFailed (message : String)
  | unavailable (message : String)

def MungeError.display : MungeError → String
  | encodeFailed message => s!"munge encode failed: {message}"
  | unavailable message => s!"munge unavailable: {message}"

/-- A request, with the headers `x-munge-cred` and `X-Warden-Session`. -/
structure LocalRequest where
  method : HttpMethod
  url : Text
  mungeCred : Option Text
  wardenSession : Option Text
  body : Option Json

inductive LocalAction
  | readVariable (name : Text)
  | encode
  | send (request : LocalRequest)

abbrev LocalAction.Answer : LocalAction → Type
  | readVariable _ => Option Text
  | encode => Except MungeError Text
  | send _ => HttpReply

abbrev LocalEvent : Type :=
  Event LocalAction.Answer

/-- The resource does not change, so there is no state. -/
abbrev LocalMethod (α : Type) : Type :=
  Method LocalAction LocalAction.Answer Unit (Halt QrmiError) α

/-- The deserialisers of the replies, and the error of a value that no header may have. -/
structure Library where
  json : JsonLibrary
  readJob : Text → Except String JobResponse
  readAccessible : Text → Except String Bool
  readSession : Text → Except String Text
  readSpecs : Text → Except String Text
  readName : Text → Except String Text
  readLogs : Text → Except String Text
  headerError : String

/-- An error of the client. -/
def ofClient {α : Type} (outcome : Except String α) : LocalMethod α :=
  Method.ofExcept (outcome.mapError fun message => .failed (.other message))

/-- `handle_request`. -/
def handleRequest {α : Type} (read : Text → Except String α) (response : HttpResponse) :
    Except String α :=
  if response.status.isSuccess then response.text.bind read
  else response.text.bind fun body =>
    .error s!"Status: {response.status.display}, Fail {String.ofList body}"

def send {α : Type} (read : Text → Except String α) (request : LocalRequest) :
    LocalMethod α := do
  let reply ← Method.lift (Program.question (LocalAction.send request))
  ofClient (reply.bind (handleRequest read))

/-- `create_headers`, which panics where the credential cannot be a header. -/
def createHeaders : LocalMethod Text := do
  let encoded ← Method.lift (Program.question LocalAction.encode)
  let token ← ofClient (encoded.mapError MungeError.display)
  if QuantumSystem.isHeaderValue token then return token else Method.throw .panic

/-- A request with a new credential. -/
def sendWithHeaders {α : Type} (read : Text → Except String α) (method : HttpMethod) (url : Text)
    (body : Option Json) : LocalMethod α := do
  let headers ← createHeaders
  send read ⟨method, url, some headers, none, body⟩

def number (value : Int) : Json :=
  .number (if 0 ≤ value then .unsigned value.toNat else .negative (-value).toNat)

section Client

variable (library : Library) (baseUrl : Text)

def getJob (jobId : Text) : LocalMethod JobResponse :=
  sendWithHeaders library.readJob .get (baseUrl ++ "/jobs/".toList ++ jobId) none

def jobRequest (sequence : Text) (shots : Int) (headers sessionId : Text) : LocalRequest where
  method := .post
  url := baseUrl ++ "/jobs".toList
  mungeCred := some headers
  wardenSession := some sessionId
  body := some (.object [("sequence".toList, .string sequence), ("shots".toList, number shots)])

/-- `create_job`.  A session that cannot be a header fails the request before it is sent. -/
def createJob (sequence : Text) (shots : Int) (sessionId : Text) : LocalMethod JobResponse := do
  let headers ← createHeaders
  if QuantumSystem.isHeaderValue sessionId then
    send library.readJob (jobRequest baseUrl sequence shots headers sessionId)
  else ofClient (.error library.headerError)

def cancelJob (jobId : Text) : LocalMethod JobResponse :=
  sendWithHeaders library.readJob .post (baseUrl ++ "/jobs/".toList ++ jobId ++ "/cancel".toList)
    none

/-- The request whether the QPU is accessible. -/
def accessibleRequest : LocalRequest :=
  ⟨.get, baseUrl ++ "/accessible".toList, none, none, none⟩

def getAccessible : LocalMethod Bool :=
  send library.readAccessible (accessibleRequest baseUrl)

def createSession (userId : Int) (slurmJobId : Text) : LocalMethod Text :=
  sendWithHeaders library.readSession .post (baseUrl ++ "/sessions".toList)
    (some (.object [("user_id".toList, .string (Text.showInt userId)),
      ("slurm_job_id".toList, .string slurmJobId)]))

def revokeSession (sessionId : Text) : LocalMethod Text :=
  sendWithHeaders library.readSession .delete (baseUrl ++ "/sessions/".toList ++ sessionId) none

def getDeviceSpecs : LocalMethod Text := do
  let specs ← sendWithHeaders library.readSpecs .get (baseUrl ++ "/qpu/specs".toList) none
  let name ← ofClient (library.readName specs)
  return library.json.dump (.array
    [.object [("device_type".toList, .string name), ("specs".toList, .string specs)]])

def getTaskLogs (taskId : Text) : LocalMethod Text :=
  sendWithHeaders library.readLogs .get
    (baseUrl ++ "/jobs/".toList ++ taskId ++ "/logs".toList) none

end Client

end PasqalLocalApi

open PasqalLocalApi

structure PasqalLocal where
  baseUrl : Text
  backendName : Text
  jobUid : Int
  jobId : Text
  acquisitionToken : Option Text

namespace PasqalLocal

open Method

/-- `from_opt`. -/
def fromOpt (source : SettingsSource) (backendName : Text) : Except QrmiError PasqalLocal := do
  let settingsPrefix := source.prefixOf backendName
  let url ← match source.resolveOptRequired (settingsPrefix ++ "QRMI_WARDEN_URL".toList) with
    | .ok url => .ok url
    | .error error =>
        match source.resolveOpt (settingsPrefix ++ "QRMI_URL".toList) with
        | some url => .ok url
        | none => .error error
  let jobUidStr ← source.resolveOptRequired "QRMI_JOB_UID".toList
  let jobUid ← match Text.parseI32 jobUidStr with
    | some jobUid => .ok jobUid
    | none => .error (.parseError "QRMI_JOB_UID" (String.ofList jobUidStr))
  let jobId ← source.resolveOptRequired "QRMI_JOB_ID".toList
  return {
    baseUrl := url
    backendName := backendName
    jobUid := jobUid
    jobId := jobId
    acquisitionToken :=
      source.resolveOpt (settingsPrefix ++ "QRMI_JOB_ACQUISITION_TOKEN".toList) }

section Operations

variable (library : Library) (resource : PasqalLocal)

/-- The variable that holds the session once the resource has been acquired. -/
def tokenVariable : Text :=
  resource.backendName ++ "_QRMI_JOB_ACQUISITION_TOKEN".toList

/-- `acquisition_token`. -/
def heldToken : LocalMethod Text :=
  match resource.acquisitionToken with
  | some token => return token
  | none => do
      let value ← lift (Program.question (LocalAction.readVariable resource.tokenVariable))
      match value with
      | some token => return token
      | none => Method.throw (.failed (.envVarNotSet (String.ofList resource.tokenVariable)))

def isAccessible : LocalMethod Bool :=
  getAccessible library resource.baseUrl

def acquire : LocalMethod Text :=
  createSession library resource.baseUrl resource.jobUid resource.jobId

def release (id : Text) : LocalMethod Unit := do
  let sessionId ← (if id = [] then resource.heldToken else pure id)
  let _ ← revokeSession library resource.baseUrl sessionId

def taskStart (payload : Payload) : LocalMethod Text := do
  let sessionId ← resource.heldToken
  match payload with
  | .pasqalCloud sequence jobRuns => do
      let job ← createJob library resource.baseUrl sequence jobRuns sessionId
      return Text.showInt job.id
  | payload => Method.throw (.failed (.unsupportedPayload payload.debug))

def taskStop (taskId : Text) : LocalMethod Unit := do
  let _ ← cancelJob library resource.baseUrl taskId

def taskStatus (taskId : Text) : LocalMethod TaskStatus := do
  let job ← getJob library resource.baseUrl taskId
  return match job.status with
    | .pending => .queued
    | .running => .running
    | .done => .completed
    | .canceled => .cancelled
    | .error => .failed

def taskResult (taskId : Text) : LocalMethod Text := do
  let job ← getJob library resource.baseUrl taskId
  match job.results with
  | some results => return results
  | none => Method.throw (.failed (.taskNotReady (String.ofList taskId)
      s!"results not available (current status: {job.status.debug})"))

def taskLogs (taskId : Text) : LocalMethod Text :=
  getTaskLogs library resource.baseUrl taskId

def target : LocalMethod Text :=
  getDeviceSpecs library resource.baseUrl

end Operations

end PasqalLocal
