import Qrmi.InteractionEmbedding
import Qrmi.InteractionJoin
import Qrmi.QuantumSystemProvider
import Qrmi.Utf8

/-!
# The tasks of the quantum system resource

The service stores what a job returns in the bucket of the resource.  The resource reads it
there with a client of its own, under keys that it derives from the identifier of the
task.
-/

open Interaction

namespace QuantumSystem

/-- Read an object of a bucket. -/
structure ObjectRead where
  config : S3Config
  bucket : Text
  key : Text

/-- The pieces of a body as they arrive. -/
abbrev ObjectRead.Answer (_ : ObjectRead) : Type :=
  Except String (List (Except String (List UInt8)))

/-- What the resource asks for. -/
abbrev TaskQuery : Type :=
  SystemAction ⊕ ObjectRead

abbrev TaskQuery.Answer : TaskQuery → Type :=
  EitherAnswer SystemAction.Answer ObjectRead.Answer

/-- Append the pieces of a body.  The first failure ends the reading. -/
def collectBody (data : List UInt8) :
    List (Except String (List UInt8)) → Except String (List UInt8)
  | [] => .ok data
  | .ok bytes :: rest => collectBody (data ++ bytes) rest
  | .error message :: _ => .error message

/-- The pieces that were read are those of the body. -/
theorem collectBody_eq_ok {pieces : List (Except String (List UInt8))} {data bytes : List UInt8}
    (collected : collectBody data pieces = .ok bytes) :
    ∃ parts : List (List UInt8), pieces = parts.map Except.ok ∧
      bytes = data ++ parts.flatten := by
  induction pieces generalizing data with
  | nil =>
      cases collected
      exact ⟨[], rfl, by simp⟩
  | cons piece pieces ih =>
      cases piece with
      | error message => cases collected
      | ok part =>
          obtain ⟨parts, rfl, rfl⟩ := ih collected
          exact ⟨part :: parts, rfl, by simp⟩

/-- `S3Client::get_object`. -/
def getObject {State : Type} (config : S3Config) (bucket key : Text) :
    Method TaskQuery TaskQuery.Answer State QuantumSystemError (List UInt8) := do
  let answer ← Method.lift (Program.question (Sum.inr ⟨config, bucket, key⟩))
  let pieces ← Method.ofExcept (answer.mapError
    (Client.otherError "An error occurred while retrieving an object from S3 bucket"))
  Method.ofExcept ((collectBody [] pieces).mapError
    (Client.otherError "failed to read object body from S3"))

/-- Whether another branch of a join goes first, or has ended the join. -/
def scheduler : SystemProgram Bool :=
  Program.question SystemAction.overtake

/-- `AuthMiddleware::handle` in a branch of a join that may end while the branch waits. -/
def AuthMiddleware.handleDroppable (codec : Codec) (fuel : Nat)
    (next : HttpRequest → SystemProgram Outcome) (request : HttpRequest) :
    Method SystemAction SystemAction.Answer TokenManager (Option MiddlewareError)
      HttpResponse := do
  let token ← (TokenManager.getToken codec fuel).droppable scheduler
  let response ← (sendWith next request token).droppable scheduler
  if isUnauthorized response then
    (TokenManager.getAccessToken codec fuel).droppable scheduler
    let token ← (TokenManager.getToken codec fuel).droppable scheduler
    let response ← (sendWith next request token).droppable scheduler
    Method.ofExcept (response.mapError some)
  else Method.ofExcept (response.mapError some)

namespace Client

open Method

variable (codec : Codec) (fuel : Nat)

/-- Send a request in a branch of a join.  `AuthMiddleware` holds the lock of the token
manager meanwhile.  A request that is dropped fails with the error that ends the join. -/
def sendJoined (request : HttpRequest) : Option QuantumSystemError → ClientMethod Outcome
  | none => send codec fuel request
  | some waiting => do
      let client ← self
      let outcome ← (zoom tokenManager withTokenManager
        (AuthMiddleware.handleDroppable codec fuel (client.sendThroughRetries codec fuel)
          request)).attempt
      match outcome with
      | .ok response => return .ok response
      | .error (some error) => return .error error
      | .error none => throw waiting

/-- A branch that reads a document. -/
def branch {α : Type} (client : Client) (fetch : Fetch α) :
    Branch SystemAction SystemAction.Answer Client QuantumSystemError Outcome α where
  exchange := sendJoined codec fuel (client.getRequest fetch.url)
  read := fetch.read codec

end Client

inductive JobStatus
  | running
  | completed
  | failed
  | cancelled
  deriving DecidableEq

/-- The fields of a job that the resource reads. -/
structure Job where
  backend : Text
  status : JobStatus
  reasonCode : Option Int
  reasonMessage : Option Text
  reasonSolution : Option Text

/-- A backend with the flag that only its details carry. -/
structure BackendDetails where
  status : BackendStatus
  locked : Option Bool

/-- The deserialisers of the resource, and the text of a decoding error.  `readLanes` gives
the lanes of the workload manager. -/
structure TaskCodec extends Codec where
  readJob : Text → Except String Job
  readJobs : Text → Except String (List Job)
  readBackend : Text → Except String BackendDetails
  readLanes : Text → Except String Nat
  utf8Error : List UInt8 → String

namespace Client

open Method

variable (codec : TaskCodec) (fuel : Nat)

def jobUrl (client : Client) (jobId : Text) : Text :=
  client.jobsUrl ++ '/' :: jobId

/-- `get_job`. -/
def getJob (jobId : Text) : ClientMethod Job := do
  let client ← self
  get codec.toCodec fuel ⟨codec.readJob, client.jobUrl jobId, .job⟩

/-- `get_job_status`. -/
def getJobStatus (jobId : Text) : ClientMethod JobStatus := do
  let job ← getJob codec fuel jobId
  return job.status

/-- What `list_jobs` reads. -/
def jobs (client : Client) : Fetch (List Job) :=
  ⟨codec.readJobs, client.jobsUrl, .other⟩

/-- What `get_backend` reads. -/
def backend (client : Client) (backendName : Text) : Fetch BackendDetails :=
  ⟨codec.readBackend, client.backendUrl backendName, .backend⟩

/-- `get_backend`. -/
def getBackend (backendName : Text) : ClientMethod BackendDetails := do
  let client ← self
  get codec.toCodec fuel (client.backend codec backendName)

/-- What `get_backend_lanes_configuration` reads. -/
def backendLanesConfiguration (client : Client) (backendName : Text) : Fetch Nat :=
  ⟨codec.readLanes, client.backendUrl backendName ++ "/lanes".toList, .backend⟩

/-- What `get_backend_properties` reads. -/
def backendProperties (client : Client) (backendName : Text) : Fetch Json :=
  ⟨codec.json.parse, client.backendUrl backendName ++ "/properties".toList, .backend⟩

/-- A request about a job that has no body. -/
def jobRequest (client : Client) (method : HttpMethod) (url : Text) : HttpRequest where
  method := method
  url := url
  query := []
  headers := [("Accept", "application/json".toList), ("Service-CRN", client.serviceCrn)]
  authorization := .absent
  body := none

/-- Send a request that is answered without content. -/
def sendJobRequest (method : HttpMethod) (url : Text) : ClientMethod Unit := do
  let client ← self
  let outcome ← send codec.toCodec fuel (client.jobRequest method url)
  match outcome with
  | .ok response =>
      if response.status.code = 204 then return ()
      else throw (.fromResponse codec.toCodec response url .job)
  | .error error => throw (.fromMiddlewareError error)

/-- `delete_job`. -/
def deleteJob (jobId : Text) : ClientMethod Unit := do
  let client ← self
  sendJobRequest codec fuel .delete (client.jobUrl jobId)

/-- `cancel_job`. -/
def cancelJob (jobId : Text) (delete : Bool) : ClientMethod Unit := do
  let client ← self
  sendJobRequest codec fuel .post (client.jobUrl jobId ++ "/cancel".toList)
  if delete then deleteJob codec fuel jobId

end Client

end QuantumSystem

open QuantumSystem

/-- A method of the resource that may read objects. -/
abbrev TaskMethod (α : Type) : Type :=
  Method TaskQuery TaskQuery.Answer IBMQuantumSystem QrmiError α

namespace IBMQuantumSystem

open Method

variable (codec : TaskCodec) (fuel : Nat)

/-- `is_accessible`. -/
def isAccessible : SystemMethod Bool := do
  let system ← self
  let backend ← callClient (Client.getBackend codec fuel system.backendName)
  return backend.status = .online

def statusCode : BackendStatus → ResourceStatusCode
  | .online => .online
  | .offline => .offline
  | .paused => .paused

/-- `status`. -/
def status : SystemMethod ResourceStatus := do
  let system ← self
  let client := system.apiClient
  let (backend, lanes, jobs) ← callClient (tryJoinThree scheduler
    (client.branch codec.toCodec fuel (client.backend codec system.backendName))
    (client.branch codec.toCodec fuel
      (client.backendLanesConfiguration codec system.backendName))
    (client.branch codec.toCodec fuel (client.jobs codec)))
  let count := ((jobs.filter fun job => job.backend = system.backendName).filter
    fun job => job.status = .running).length
  return {
    status := statusCode backend.status
    statusReason := none
    healthy := none
    busy := backend.locked
    capacity := some ⟨lanes - count, lanes⟩
    pendingJobCount := none }

/-- `target`. -/
def target : SystemMethod Text := do
  let system ← self
  let client := system.apiClient
  let (config, props) ← callClient (tryJoinTwo scheduler
    (client.branch codec.toCodec fuel
      (client.backendConfiguration codec.toCodec system.backendName))
    (client.branch codec.toCodec fuel (client.backendProperties codec system.backendName)))
  return codec.json.dump
    (.object [("configuration".toList, config), ("properties".toList, props)])

/-- `task_stop`.  What becomes of the cancellation is ignored. -/
def taskStop (taskId : Text) : SystemMethod Unit := do
  let status ← callClient (Client.getJobStatus codec fuel taskId)
  if status = .running then
    let _ ← (callClient (Client.cancelJob codec fuel taskId false)).attempt
  callClient (Client.deleteJob codec fuel taskId)

/-- `task_status`. -/
def taskStatus (taskId : Text) : SystemMethod TaskStatus := do
  let status ← callClient (Client.getJobStatus codec fuel taskId)
  match status with
  | .running => return .running
  | .completed => return .completed
  | .cancelled => return .cancelled
  | .failed => return .failed

/-- `s3_store`.  The store is built from the settings that the client has its bucket
from. -/
def s3Store (system : IBMQuantumSystem) : Except QrmiError (S3Config × Text) :=
  match system.apiClient.s3Config, system.apiClient.s3Bucket with
  | some config, some bucket => .ok (config, bucket)
  | _, _ =>
      match s3Env system.settings system.backendName with
      | .error error => .error error
      | .ok _ => .error (.invalidConfig
          ("S3 bucket was not configured when '" ++ String.ofList system.backendName ++
            "' was created"))

/-- The error for a job that has no result, if it has none. -/
def notReady (taskId : Text) (job : Job) : Option QrmiError :=
  let because := fun (reason : String) =>
    some (QrmiError.taskNotReady (String.ofList taskId) reason)
  match job.status with
  | .failed => because
      ("task failed. code: " ++ (job.reasonCode.map toString).getD "" ++ ", message: " ++
        String.ofList (job.reasonMessage.getD []) ++ ", solution: " ++
        String.ofList (job.reasonSolution.getD []))
  | .cancelled => because "task was cancelled"
  | .running => because "task is running"
  | .completed => none

/-- The text of an object. -/
def readObject (config : S3Config) (bucket key : Text) : TaskMethod Text := do
  let outcome ← (getObject config bucket key).attempt
  let object ← ofExcept (outcome.mapError QuantumSystemError.toQrmiError)
  match Text.ofUtf8 object with
  | some text => return text
  | none => throw (.invalidUtf8 (codec.utf8Error object))

/-- `task_result`. -/
def taskResult (taskId : Text) : TaskMethod Text := do
  let system ← self
  let (config, bucket) ← ofExcept system.s3Store
  let job ← (callClient (Client.getJob codec fuel taskId)).inl
  match notReady taskId job with
  | some error => throw error
  | none => readObject codec config bucket ("results_".toList ++ taskId ++ ".json".toList)

/-- `task_logs`. -/
def taskLogs (taskId : Text) : TaskMethod Text := do
  let system ← self
  let (config, bucket) ← ofExcept system.s3Store
  readObject codec config bucket ("logs_".toList ++ taskId ++ ".json".toList)

end IBMQuantumSystem
