import Qrmi.QuantumComputeApi
import Qrmi.ResourceSettings

/-!
# The quantum compute service resource

`IBMQuantumComputeService` keeps one bearer token with its expiration and
lifetime.  Its operations renew the token by hand before they talk to the
service; a failed renewal is logged and the operation goes on with what it has.
-/

open Interaction
open QuantumCompute

structure IBMQuantumComputeService where
  config : Configuration
  backendName : Text
  sessionId : Option Text
  calibrationId : Option Text
  timeoutSecs : Option Int
  sessionMode : Text
  sessionMaxTtl : Int
  apiKey : Text
  iamEndpoint : Text
  tokenExpiration : Nat
  tokenLifetime : Nat

/-- A method of the resource. -/
abbrev ComputeMethod (α : Type) : Type :=
  Method WebAction WebAction.Answer IBMQuantumComputeService QrmiError α

namespace IBMQuantumComputeService

open Method

/-- `from_opt`. -/
def fromOpt (backendName : Text) (settings : SettingsSource) :
    Except QrmiError IBMQuantumComputeService := do
  let key := fun (name : String) => settings.prefixOf backendName ++ name.toList
  let endpoint ← settings.resolveOptRequired (key "QRMI_IBM_QCS_ENDPOINT")
  let iamEndpoint ← settings.resolveOptRequired (key "QRMI_IBM_QCS_IAM_ENDPOINT")
  let apiKey ← settings.resolveOptRequired (key "QRMI_IBM_QCS_IAM_APIKEY")
  let serviceCrn ← settings.resolveOptRequired (key "QRMI_IBM_QCS_SERVICE_CRN")
  let sessionMode := (settings.resolveOpt (key "QRMI_IBM_QCS_SESSION_MODE")).getD
    "dedicated".toList
  let sessionMaxTtl :=
    ((settings.resolveOpt (key "QRMI_IBM_QCS_SESSION_MAX_TTL")).bind
      Text.parseI32).getD 28800
  let timeoutSecs :=
    ((settings.resolveOpt (key "QRMI_IBM_QCS_TIMEOUT_SECONDS")).or
      (settings.resolveOpt (key "QRMI_JOB_TIMEOUT_SECONDS"))).bind Text.parseI32
  let sessionId := (settings.resolveOpt (key "QRMI_IBM_QCS_SESSION_ID")).or
    (settings.resolveOpt (key "QRMI_JOB_ACQUISITION_TOKEN"))
  return {
    config := { Configuration.new with
      basePath := endpoint
      bearerAccessToken := none
      crn := some serviceCrn }
    backendName := backendName
    sessionId := sessionId
    calibrationId := none
    timeoutSecs := timeoutSecs
    sessionMode := sessionMode
    sessionMaxTtl := sessionMaxTtl
    apiKey := apiKey
    iamEndpoint := iamEndpoint
    tokenExpiration := 0
    tokenLifetime := 0 }

theorem backendName_of_fromOpt {name : Text} {settings : SettingsSource}
    {service : IBMQuantumComputeService}
    (constructed : fromOpt name settings = .ok service) :
    service.backendName = name := by
  simp only [fromOpt, Except.bind_eq_ok_iff] at constructed
  obtain ⟨_, -, _, -, _, -, _, -, built⟩ := constructed
  cases built
  rfl

/-- The token that the instance holds. -/
def token (service : IBMQuantumComputeService) : Option Text :=
  service.config.bearerAccessToken

/-- The remaining time below which a token is renewed. -/
def margin (service : IBMQuantumComputeService) : Nat :=
  max 360 (service.tokenLifetime / 10)

/-- The validity that `check_token` asks for at a time. -/
def TokenValidAt (service : IBMQuantumComputeService) (now : Nat) : Prop :=
  now + service.margin ≤ service.tokenExpiration

instance (service : IBMQuantumComputeService) (now : Nat) :
    Decidable (service.TokenValidAt now) :=
  inferInstanceAs (Decidable (_ ≤ _))

def withToken (granted : TokenResponse) (service : IBMQuantumComputeService) :
    IBMQuantumComputeService :=
  { service with
    config := { service.config with bearerAccessToken := some granted.accessToken }
    tokenExpiration := granted.expiration
    tokenLifetime := granted.expiresIn }

@[simp]
theorem withToken_token (granted : TokenResponse)
    (service : IBMQuantumComputeService) :
    (service.withToken granted).token = some granted.accessToken :=
  rfl

def withSession (id : Option Text) (service : IBMQuantumComputeService) :
    IBMQuantumComputeService :=
  { service with sessionId := id }

@[simp]
theorem withSession_token (id : Option Text) (service : IBMQuantumComputeService) :
    (service.withSession id).token = service.token :=
  rfl

section Operations

variable (codec : Codec)

/-- `auth::check_token`, with the error of a failed renewal only logged. -/
def checkToken : ComputeMethod Unit := do
  let service ← self
  let now ← lift (Program.question .now)
  if service.tokenExpiration < now + max 360 (service.tokenLifetime / 10) then
    let reply ← lift (Program.question
      (.postForm (tokenUrl service.iamEndpoint) (tokenForm service.apiKey)))
    match readTokenReply codec reply with
    | some granted => modify (withToken granted)
    | none => return ()

/-- The instance after the identity service answered. -/
def renewed (service : IBMQuantumComputeService) (reply : HttpReply) :
    IBMQuantumComputeService :=
  match readTokenReply codec reply with
  | some granted => service.withToken granted
  | none => service

/-- Renewal succeeds.  It reads the clock, and it asks for a token unless the held
one is still valid. -/
theorem checkToken_cases {before after : IBMQuantumComputeService}
    {trace : List WebEvent} {result : Except QrmiError Unit}
    (executes : (checkToken codec).Executes before trace result after) :
    result = .ok () ∧ ∃ now rest, trace = ⟨.now, now⟩ :: rest ∧
      ((before.TokenValidAt now ∧ rest = [] ∧ after = before) ∨
        ∃ url form reply, rest = [⟨.postForm url form, reply⟩] ∧
          after = before.renewed codec reply) := by
  rw [checkToken, executes_self_bind_iff, executes_bind_iff] at executes
  simp only [executes_lift_iff, Program.runs_question_iff] at executes
  rcases executes with ⟨error, -, _, -, equal, -⟩ |
    ⟨_, rest, now, middle, rfl, ⟨_, rfl, equal, unchanged⟩, checked⟩
  · cases equal
  cases equal
  rw [unchanged] at checked
  by_cases expiring : before.tokenExpiration <
      now + max 360 (before.tokenLifetime / 10)
  · rw [if_pos expiring, executes_bind_iff] at checked
    simp only [executes_lift_iff, Program.runs_question_iff] at checked
    rcases checked with ⟨error, -, _, -, equal, -⟩ |
      ⟨_, rest, reply, middle, rfl, ⟨_, rfl, equal, unchanged⟩, stored⟩
    · cases equal
    cases equal
    rw [unchanged] at stored
    have outcome : rest = [] ∧ result = .ok () ∧
        after = before.renewed codec reply := by
      rw [renewed]
      cases read : readTokenReply codec reply with
      | some granted =>
          rw [read] at stored
          exact executes_modify_iff.mp stored
      | none =>
          rw [read] at stored
          exact executes_pure_iff.mp stored
    obtain ⟨rfl, rfl, rfl⟩ := outcome
    exact ⟨rfl, now, _, rfl, .inr ⟨_, _, reply, rfl, rfl⟩⟩
  · rw [if_neg expiring] at checked
    obtain ⟨rfl, rfl, rfl⟩ := executes_pure_iff.mp checked
    exact ⟨rfl, now, [], rfl, .inl ⟨Nat.le_of_not_lt expiring, rfl, rfl⟩⟩

/-- `ibm::error::classify`. -/
def classify (kind : ResourceKind) (error : ApiError) : QrmiError :=
  match error with
  | .response status content =>
      classifyRefusal [400] kind.notFound (responseContext status content)
        status content
  | _ => .other error.display

/-- Send a request with the current configuration. -/
def call {α : Type} (kind : ResourceKind)
    (endpoint : Configuration → WebProgram (Except ApiError α)) :
    ComputeMethod α :=
  request fun service => classified (classify kind) (endpoint service.config)

def MAX_OFFSET : Nat := 2147483647

def PAGE_SIZE : Nat := 200

/-- A session that keeps the device for itself. -/
def isDedicatedActive (session : SessionResponse) : Bool :=
  session.state = some .active && session.mode = .dedicated

/-- Look for a running job of a dedicated active session on one page. -/
def scanJobs (config : Configuration) :
    List JobResponse → WebProgram (Except QrmiError Bool)
  | [] => return .ok false
  | job :: jobs =>
      if job.status ≠ .running then scanJobs config jobs
      else
        match job.sessionId with
        | none => scanJobs config jobs
        | some id =>
            (classified (classify .session)
              (getSession codec config (some "2025-01-01") id)).tryThen
                fun session =>
                  if isDedicatedActive session then return .ok true
                  else scanJobs config jobs

/-- The scan of a page asks for sessions alone. -/
theorem asks_scanJobs {codec : Codec} {config : Configuration} {allowed : WebEvent → Prop}
    (lookups : ∀ id, (getSession codec config (some "2025-01-01") id).Asks allowed)
    (jobs : List JobResponse) : (scanJobs codec config jobs).Asks allowed := by
  induction jobs with
  | nil => exact Program.asks_pure _
  | cons job jobs ih =>
      rw [scanJobs]
      split
      · exact ih
      · split
        · exact ih
        · refine Program.Asks.tryThen ((lookups _).bind fun _ => Program.asks_pure _)
            fun session => ?_
          split
          · exact Program.asks_pure _
          · exact ih

/-- `has_dedicated_active_session`, from the given offset on. -/
def hasDedicatedActiveSession (config : Configuration) (backendName : Text)
    (offset : Nat) : WebProgram (Except QrmiError Bool) :=
  (classified (classify .job) (listJobs codec config (some "2025-01-01")
    { limit := some PAGE_SIZE
      offset := some offset
      pending := some true
      backend := some backendName
      sort := some "DESC".toList
      sessionId := none
      excludeParams := some true })).tryThen fun page =>
    let jobs := page.jobs.getD []
    (scanJobs codec config jobs).tryThen fun found =>
      if found then return .ok true
      else if jobs.length < PAGE_SIZE then return .ok false
      else if _ : MAX_OFFSET - PAGE_SIZE < offset then return .ok false
      else hasDedicatedActiveSession config backendName (offset + PAGE_SIZE)
termination_by MAX_OFFSET + 1 - offset
decreasing_by
  simp only [MAX_OFFSET, PAGE_SIZE] at *
  omega

def deviceStatus : DeviceStatusName → ResourceStatusCode
  | .online => .online
  | .offline => .offline
  | .paused => .paused

/-- The status of the resource on the device list. -/
def readStatus (backendName : Text) (backends : BackendsResponse) (busy : Bool) :
    Except QrmiError ResourceStatus :=
  match backends.devices with
  | none => .error (.resourceNotFound
      ("backend list response is missing `devices` for " ++
        String.ofList backendName))
  | some devices =>
      match devices.find? fun device => device.name = backendName with
      | none => .error (.resourceNotFound
          s!"backend `{String.ofList backendName}` not found in device list")
      | some device =>
          let status := deviceStatus device.status
          .ok
            { status := status
              statusReason := device.reason
              healthy := none
              busy := some (status = .online && busy)
              capacity := none
              pendingJobCount :=
                if 0 ≤ device.queueLength then some device.queueLength.toNat
                else none }

def status : ComputeMethod ResourceStatus := do
  checkToken codec
  let service ← self
  let outcome ← lift (tryJoin
    (listBackendsRequest service.config (some "2025-01-01"))
    (fun reply => (readBackendsReply codec reply).mapError (classify .backend))
    (hasDedicatedActiveSession codec service.config service.backendName 0))
  let joined ← ofExcept outcome
  ofExcept (readStatus service.backendName joined.1 joined.2)

def isAccessible : ComputeMethod Bool := do
  checkToken codec
  let service ← self
  let response ← call .backend fun config =>
    getBackendStatus codec config service.backendName
  let status := codec.toLowercase (response.status.getD "unknown".toList)
  return status = "active".toList || status = "online".toList

/-- The end of `release`: a session with pending jobs is cancelled, any other one
is closed. -/
def closeSession (acquisitionToken : Text) : ComputeMethod Unit := do
  let pending ← call .session fun config => listJobs codec config none
    { limit := none
      offset := none
      pending := some true
      backend := none
      sort := none
      sessionId := some acquisitionToken
      excludeParams := none }
  if pending.jobs.getD [] ≠ [] then
    call .session fun config => deleteSessionClose config acquisitionToken
  else
    call .session fun config => updateSession config acquisitionToken false
  modify (withSession none)

/-- `release`. -/
def release (acquisitionToken : Text) : ComputeMethod Unit := do
  checkToken codec
  closeSession codec acquisitionToken

def sessionModeName : SessionMode → String
  | .batch => "batch"
  | .dedicated => "dedicated"

/-- The mode of a new session. -/
def readSessionMode (mode : Text) : Except QrmiError SessionMode :=
  let mode := codec.toLowercase mode
  if mode = "batch".toList then .ok .batch
  else if mode = "dedicated".toList then .ok .dedicated
  else .error (.ibm (.invalidSessionMode (String.ofList mode)))

/-- `CreateSessionRequestOneOf`. -/
def sessionRequest (service : IBMQuantumComputeService) (mode : SessionMode) :
    Json :=
  .object
    [("max_ttl".toList, .number (jsonInt service.sessionMaxTtl)),
      ("mode".toList, .string (sessionModeName mode).toList),
      ("backend".toList, .string service.backendName),
      ("backend_name".toList, .string service.backendName)]
where
  jsonInt : Int → JsonNumber
    | .ofNat value => .unsigned value
    | .negSucc value => .negative (value + 1)

/-- The end of `acquire`: create a session and keep its id. -/
def acquireNew : ComputeMethod Text := do
  let service ← self
  let mode ← ofExcept (readSessionMode codec service.sessionMode)
  let session ← call .session fun config =>
    createSession codec config (sessionRequest service mode)
  modify (withSession (some session.id))
  return session.id

/-- `acquire`. -/
def acquire : ComputeMethod Text := do
  checkToken codec
  let service ← self
  match service.sessionId with
  | none => acquireNew codec
  | some existing =>
      let session ← call .session fun config =>
        getSession codec config none existing
      if (session.maxTtl.getD 1).tdiv 100 < session.activeTtl.getD 1 then
        return existing
      else
        release codec existing
        acquireNew codec

/-- The typed parameters of a program, as they are sent on. -/
def readParams (program input : Text) : Except QrmiError Json := do
  let typed := fun (check : Json → Except String Json) => do
    let value ← (codec.json.parse input).mapError .invalidJson
    (check value).mapError .invalidJson
  if program = "sampler".toList then typed codec.samplerInput
  else if program = "estimator".toList then typed codec.estimatorInput
  else if program = "noiselearner".toList then typed codec.noiseLearnerInput
  else if program = "executor".toList then typed .ok
  else .error (.ibm (.unknownProgramId (Text.debug program)))

def optionalMember (key : String) (value : Option Text) : List (Text × Json) :=
  (value.map fun text => (key.toList, .string text)).toList

/-- `CreateJobRequestOneOf`. -/
def jobRequest (service : IBMQuantumComputeService) (program : Text)
    (params : Json) : Json :=
  .object
    ([("program_id".toList, .string program),
        ("backend".toList, .string service.backendName),
        ("log_level".toList, .string "debug".toList)] ++
      (service.timeoutSecs.map fun cost =>
        ("cost".toList, .number (sessionRequest.jsonInt cost))).toList ++
      optionalMember "session_id" service.sessionId ++
      optionalMember "calibration_id" service.calibrationId ++
      [("params".toList, params), ("private".toList, .bool false)])

/-- `task_start`. -/
def taskStart (payload : Payload) : ComputeMethod Text := do
  checkToken codec
  match payload with
  | .qiskitPrimitive input programId =>
      let params ← ofExcept (readParams codec programId input)
      let service ← self
      call .backend fun config =>
        createJob codec config (jobRequest service programId params)
  | other => throw (.unsupportedPayload other.debug)

/-- The states in which `task_stop` sends a cancellation. -/
def cancels (status : JobStatus) : Bool :=
  status = .running || status = .queued

/-- `task_stop`. -/
def taskStop (taskId : Text) : ComputeMethod Unit := do
  checkToken codec
  let job ← call .job fun config => getJob codec config taskId
  if cancels job.status then
    let _ ← call .job fun config => cancelJobJid config taskId
  else
    return ()

def readTaskStatus : JobStatus → TaskStatus
  | .running => .running
  | .queued => .queued
  | .completed => .completed
  | .cancelled | .cancelledRanTooLong => .cancelled
  | .failed => .failed

/-- `task_status`. -/
def taskStatus (taskId : Text) : ComputeMethod TaskStatus := do
  checkToken codec
  let job ← call .job fun config => getJob codec config taskId
  return readTaskStatus job.status

/-- `task_result`. -/
def taskResult (taskId : Text) : ComputeMethod Text := do
  checkToken codec
  let job ← call .job fun config => getJob codec config taskId
  if job.status ≠ .completed then
    throw (.taskNotReady (String.ofList taskId)
      s!"task is not completed (current status: {job.status.debug})")
  else
    call .job fun config => getJobResultsJid codec config taskId

/-- `task_logs`.  It is the one operation that does not renew the token. -/
def taskLogs (taskId : Text) : ComputeMethod Text :=
  call .job fun config => getJobLogsJid codec config taskId

/-- A failed lookup of device details is reported as null. -/
def orNull (outcome : Except ApiError Json) : Json :=
  match outcome with
  | .ok value => value
  | .error _ => .null

/-- `target`. -/
def target : ComputeMethod Text := do
  checkToken codec
  let service ← self
  let configuration ← lift
    (getBackendConfiguration codec service.config none service.backendName)
  let properties ← lift (getBackendProperties codec service.config
    service.backendName service.calibrationId)
  return codec.json.dump (.object
    [("configuration".toList, orNull configuration),
      ("properties".toList, orNull properties)])

end Operations

end IBMQuantumComputeService
