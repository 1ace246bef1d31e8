import Qrmi.KeyedStore
import Qrmi.MaestroRequest
import Qrmi.MaestroSession
import Qrmi.QuantumResource

/-!
# The Maestro Local resource

A resource instance holds at most one session and remembers the terminal
statuses it has observed, because Maestro removes a task when its results are
retrieved or its cancellation succeeds.  The blocking workers that carry the
socket exchanges are transparent here: an exchange either yields a reply or a
transport error.
-/

namespace Maestro

open Interaction

/-- The two JSON libraries of the resource: `json` inside the socket client and
`serde_json` outside. -/
structure Codecs where
  json : JsonLibrary
  serde : JsonLibrary

/-- The remembered terminal statuses, by session and task. -/
abbrev TerminalTasks : Type :=
  KeyedStore (UInt32 × UInt32) TaskStatus

/-- A Maestro Local resource instance. -/
structure MaestroLocal where
  backendName : Text
  sessionId : Option UInt32
  requestClient : RequestClient
  terminalTasks : TerminalTasks

/-- A method of a Maestro Local instance. -/
abbrev LocalMethod (α : Type) : Type :=
  Method Command (fun _ => Reply) MaestroLocal QrmiError α

/-- The fields of a legacy submission. -/
structure LegacySubmission where
  sessionId : UInt32
  taskType : TaskType
  input : Text
  observables : Text
  config : Text
  qubits : UInt32
  simulatorType : UInt32
  simulationMethod : UInt32

/-- The key under which the status of a task is remembered. -/
def Task.key (task : Task) : UInt32 × UInt32 :=
  (task.sessionId, task.id)

namespace MaestroLocal

/-- A fresh instance without remembered statuses. -/
def fresh (backendName : Text) (sessionId : Option UInt32) (socket : String) :
    MaestroLocal where
  backendName := backendName
  sessionId := sessionId
  requestClient := .new socket
  terminalTasks := .empty

/-- What the process environment holds for a variable.  A value that is not Unicode is
given as a path of it is displayed. -/
inductive EnvVar
  | value (text : Text)
  | notPresent
  | notUnicode (displayed : String)

/-- `MaestroLocal::new`. -/
def new (backendName : Text) (env : Text → EnvVar) :
    Except QrmiError MaestroLocal :=
  let name := backendName ++ "_QRMI_JOB_ACQUISITION_TOKEN".toList
  let socket := match env "QRMI_MAESTRO_SOCKET".toList with
    | .value path => String.ofList path
    | .notPresent => "/run/maestro.sock"
    | .notUnicode path => path
  match env name with
  | .value value =>
      match Text.parseU32 value with
      | some id => .ok (fresh backendName (some id) socket)
      | none => .error
          (.parseError (String.ofList name) (String.ofList value))
  | .notPresent => .ok (fresh backendName none socket)
  | .notUnicode _ => .error
      (.invalidConfig s!"{String.ofList name} is not valid UTF-8")

/-- `MaestroLocal::from_config`, over the lookups of an explicit map. -/
def fromConfig (backendName : Text) (config : Text → Option Text) :
    Except QrmiError MaestroLocal :=
  let name := "QRMI_JOB_ACQUISITION_TOKEN"
  let socket := match config "QRMI_MAESTRO_SOCKET".toList with
    | some path => String.ofList path
    | none => "/run/maestro.sock"
  match config name.toList with
  | none => .ok (fresh backendName none socket)
  | some value =>
      match Text.parseU32 value with
      | some id => .ok (fresh backendName (some id) socket)
      | none => .error (.parseError name (String.ofList value))

def forget (key : UInt32 × UInt32) (resource : MaestroLocal) : MaestroLocal :=
  { resource with terminalTasks := resource.terminalTasks.remove key }

def remember (key : UInt32 × UInt32) (status : TaskStatus)
    (resource : MaestroLocal) : MaestroLocal :=
  { resource with terminalTasks := resource.terminalTasks.insert key status }

def withClient (resource : MaestroLocal) (client : RequestClient) :
    MaestroLocal :=
  { resource with requestClient := client }

/-- Drop the held session together with everything remembered. -/
def dropSession (resource : MaestroLocal) : MaestroLocal :=
  { resource with sessionId := none, terminalTasks := .empty }

def holdSession (id : UInt32) (resource : MaestroLocal) : MaestroLocal :=
  { resource with sessionId := some id }

/-- The state change of a successful release. -/
def releaseSession (id : UInt32) (resource : MaestroLocal) : MaestroLocal :=
  { resource with
    sessionId := if resource.sessionId = some id then none
      else resource.sessionId
    terminalTasks := resource.terminalTasks.retain fun key => key.1 ≠ id }

/-- The error kinds of native refusals. -/
def nativeError (error : RequestError) : QrmiError :=
  if error.code = "invalid_input".toList then .invalidInput error.message
  else if error.code ∈ ["unsupported_api".toList,
      "unsupported_version".toList, "unsupported_capability".toList,
      "unsupported_operation".toList] then
    .unsupportedFunction error.display
  else if error.code ∈ ["invalid_config".toList,
      "session_not_found".toList] then
    .invalidConfig error.display
  else if error.code = "task_not_found".toList then
    .taskNotFound error.message
  else .other s!"Maestro API: {error.display}"

/-- Run a method of the native client, reporting its errors as resource
errors. -/
def nativeApi {α : Type} (operation : ClientMethod α) : LocalMethod α := do
  let outcome ← Method.attempt
    (Method.zoom requestClient withClient operation)
  Method.ofExcept (outcome.mapError nativeError)

/-- Run one legacy exchange on the resource's socket. -/
def taskCall {α : Type} (call : String → Dialogue α) : LocalMethod α := do
  let resource ← Method.self
  Method.lift (call resource.requestClient.socket)

def getSessionId (resource : MaestroLocal) : Except QrmiError UInt32 :=
  match resource.sessionId with
  | some id => .ok id
  | none =>
      let name := String.ofList resource.backendName
      .error (.invalidConfig
        (s!"No session for {name}. Call acquire() or set {name}" ++
          "_QRMI_JOB_ACQUISITION_TOKEN before constructing the resource"))

def task (resource : MaestroLocal) (taskId : Text) : Except QrmiError Task :=
  match Text.parseU32 taskId with
  | none => .error (.invalidInput s!"Invalid task ID: {String.ofList taskId}")
  | some id => resource.getSessionId.map fun session => ⟨id, session⟩

def taskExists (task : Task) : LocalMethod (Except String Bool) :=
  taskCall task.existsAt

def ensureTaskExists (task : Task) : LocalMethod Unit := do
  match ← taskExists task with
  | .error error =>
      Method.throw (.other s!"Failed to check task {task.id}: {error}")
  | .ok true => return ()
  | .ok false => Method.throw (.taskNotFound (toString task.id))

/-- Preserve the original failure unless the server confirms that the task
disappeared. -/
def taskResponse {α : Type} (task : Task) (operation : String)
    (response : Except String α) : LocalMethod α :=
  match response with
  | .ok value => return value
  | .error error => do
      match ← taskExists task with
      | .ok false => Method.throw (.taskNotFound (toString task.id))
      | _ => Method.throw (.other s!"{operation} for task {task.id}: {error}")

section Codec

variable (codecs : Codecs)

/-- Whether a diagnostics document ends with a confirmed cancellation. -/
def endsCancelled (logs : Text) : Bool :=
  match codecs.serde.parse logs with
  | .error _ => false
  | .ok value =>
      match (value.get "events").asArray.bind List.getLast? with
      | none => false
      | some last => (last.get "state").asString == some "cancelled".toList

def cancellationRecorded (task : Task) : LocalMethod Bool := do
  match ← Method.attempt (nativeApi
      (RequestClient.logs codecs.json task.sessionId task.id)) with
  | .error _ => return false
  | .ok logs => return endsCancelled codecs logs

/-- The server's view of a task that this instance has not seen finish. -/
def serverTaskStatus (task : Task) : LocalMethod TaskStatus := do
  ensureTaskExists task
  let failed ← taskCall task.failedAt
  let hasFailed ← taskResponse task "Failed to get failure status" failed
  if hasFailed then return .failed
  else do
    let finished ← taskCall task.finishedAt
    let hasFinished ← taskResponse task "Failed to get completion status"
      finished
    if hasFinished then do
      -- Failure can become visible between FAILED and FINISHED.
      let failed ← taskCall task.failedAt
      let hasFailed ← taskResponse task "Failed to get final failure status"
        failed
      return if hasFailed then .failed else .completed
    else do
      let running ← taskCall task.runningAt
      let isRunning ← taskResponse task "Failed to get running status" running
      return if isRunning then .running else .queued

/-- A configuration step of a legacy submission must be acknowledged. -/
def accepted (operation : String) (response : Except String Bool) :
    Except QrmiError Unit :=
  match response with
  | .ok true => .ok ()
  | .ok false => .error (.invalidInput s!"Maestro rejected {operation}")
  | .error error => .error (.other s!"Failed to {operation}: {error}")

/-- The exchange of one configuration step. -/
def configure (operation : String) (exchange : Dialogue (Except String Bool)) :
    Method Command (fun _ => Reply) Unit QrmiError Unit := do
  let response ← Method.lift exchange
  Method.ofExcept (accepted operation response)

/-- The configuration of a created task, up to its execution. -/
def configureTask (job : LegacySubmission) (task : Task) (socket : String) :
    Method Command (fun _ => Reply) Unit QrmiError Unit := do
  configure "set task type" (task.setTypeAt job.taskType socket)
  if job.taskType = .estimate then
    configure "set observables"
      (task.setObservablesAsStringAt job.observables socket)
  configure "set qubits" (task.setQubitsAt job.qubits socket)
  configure "set simulator type"
    (task.setSimulatorTypeAt job.simulatorType socket)
  configure "set simulation method"
    (task.setSimulationMethodAt job.simulationMethod socket)
  configure "set QASM" (task.setQasmAt job.input socket)
  configure "set options JSON" (task.setOptionsJsonAt job.config socket)
  configure "execute task" (task.executeAt socket)

/-- Creates, configures and executes a legacy task.  A task whose configuration
fails is cancelled, whatever the server answers to that. -/
def submitLegacy (job : LegacySubmission) (socket : String) :
    Method Command (fun _ => Reply) Unit QrmiError Task := do
  match ← Method.lift ((Session.mk job.sessionId).createTaskAt socket) with
  | .error error => Method.throw (.other s!"Failed to create task: {error}")
  | .ok task =>
      match ← Method.attempt (configureTask job task socket) with
      | .ok () => return task
      | .error (error : QrmiError) => do
          let _ ← Method.lift (task.cancelAt socket)
          Method.throw (.other
            (s!"Maestro task {task.id} was created but submission failed: " ++
              error.display))

/-- The local validation of a legacy payload. -/
def legacyTaskType (jobType observables : Text) : Except QrmiError TaskType :=
  if Text.eqIgnoreAsciiCase jobType "execute".toList then .ok .execute
  else if Text.eqIgnoreAsciiCase jobType "estimate".toList then
    if Text.trim observables = [] then
      .error (.invalidInput "Observables must be provided for ESTIMATE job type")
    else .ok .estimate
  else .error (.invalidInput s!"Invalid job_type: {String.ofList jobType}")

def checkLegacyPayload (input config : Text) (qubits : UInt32) :
    Except QrmiError Unit :=
  if Text.trim input = [] ∨ qubits = 0 then
    .error (.invalidInput
      "A nonempty QASM circuit and a positive qubit count are required")
  else
    match codecs.serde.parse config with
    | .error error => .error (.invalidJson error)
    | .ok options =>
        if !options.isObject then
          .error (.invalidInput "Maestro config must be a JSON object")
        else .ok ()

def checkNativePayload (input : Text) : Except QrmiError Unit :=
  match codecs.serde.parse input with
  | .error error => .error (.invalidJson error)
  | .ok request =>
      if !request.isObject || (request.get "schema_version").asU64 ≠ some 2 then
        .error (.invalidInput
          "Maestro request requires a JSON object with schema_version=2")
      else .ok ()

/-- `MaestroLocal::status`. -/
def status : LocalMethod ResourceStatus := do
  let status ← nativeApi (RequestClient.status codecs.json)
  return {
    status := if status.acceptingJobs then .online else .offline
    statusReason := status.reason
    healthy := status.healthy
    busy := status.busy
    capacity := none
    pendingJobCount := status.pendingJobCount }

/-- `MaestroLocal::is_accessible`. -/
def isAccessible : LocalMethod Bool := do
  match ← taskCall (sendCommandAt · .ping) with
  | .ok accessible => return accessible
  | .error error => Method.throw (.other s!"Error pinging Maestro Local: {error}")
  | .okResponse value => Method.throw (.other
      ("Unexpected Maestro Local ping response: OkResponse(" ++
        Text.debug value ++ ")"))

/-- The second half of `acquire`: create a session and hold it. -/
def acquireNew : LocalMethod Text := do
  match ← taskCall Session.newAt with
  | .error error =>
      Method.throw (.other s!"Failed to acquire a new session: {error}")
  | .ok session => do
      Method.modify (holdSession session.id)
      return Text.showU32 session.id

/-- `MaestroLocal::acquire`. -/
def acquire : LocalMethod Text := do
  let resource ← Method.self
  match resource.sessionId with
  | none => acquireNew
  | some id =>
      match ← taskCall (Session.sessionExistsAt id) with
      | .error error =>
          Method.throw (.other s!"Failed to check session {id}: {error}")
      | .ok true => return Text.showU32 id
      | .ok false => do
          Method.modify dropSession
          acquireNew

/-- `MaestroLocal::release`. -/
def release (id : Text) : LocalMethod Unit :=
  match Text.parseU32 id with
  | none => Method.throw
      (.invalidInput s!"Invalid session ID: {String.ofList id}")
  | some session => do
      match ← taskCall (Session.mk session).deleteAt with
      | .ok true => Method.modify (releaseSession session)
      | .ok false =>
          Method.throw
            (.other s!"Maestro refused to delete session {String.ofList id}")
      | .error error =>
          Method.throw
            (.other s!"Error deleting session {String.ofList id}: {error}")

/-- The native half of `task_start`. -/
def startNative (input : Text) : LocalMethod Text := do
  Method.ofExcept (checkNativePayload codecs input)
  let resource ← Method.self
  let session ← Method.ofExcept resource.getSessionId
  let id ← nativeApi (RequestClient.submit codecs.json session input)
  Method.modify (forget (session, id))
  return Text.showU32 id

/-- The legacy half of `task_start`. -/
def startLegacy (input jobType : Text)
    (qubits simulatorType simulationMethod : UInt32)
    (observables config : Text) : LocalMethod Text := do
  let taskType ← Method.ofExcept (legacyTaskType jobType observables)
  Method.ofExcept (checkLegacyPayload codecs input config qubits)
  let resource ← Method.self
  let session ← Method.ofExcept resource.getSessionId
  let task ← Method.zoom (fun _ => ()) (fun resource _ => resource)
    (submitLegacy
      { sessionId := session, taskType, input, observables, config, qubits,
        simulatorType, simulationMethod }
      resource.requestClient.socket)
  Method.modify (forget task.key)
  return Text.showU32 task.id

/-- `MaestroLocal::task_start`. -/
def taskStart (payload : Payload) : LocalMethod Text :=
  match payload with
  | .maestroLocal input jobType qubits simulatorType simulationMethod
      observables config =>
      if Text.eqIgnoreAsciiCase jobType "request".toList then
        startNative codecs input
      else
        startLegacy codecs input jobType qubits simulatorType
          simulationMethod observables config
  | other => Method.throw (.unsupportedPayload other.debug)

/-- The first half of `task_status`: what the server says, with a missing task
resolved by the retained diagnostics. -/
def observedTaskStatus (task : Task) : LocalMethod TaskStatus := do
  match ← Method.attempt (serverTaskStatus task) with
  | .error (QrmiError.taskNotFound id) =>
      if ← cancellationRecorded codecs task then return .cancelled
      else Method.throw (.taskNotFound id)
  | outcome => Method.ofExcept outcome

/-- `MaestroLocal::task_status`. -/
def taskStatus (taskId : Text) : LocalMethod TaskStatus := do
  let resource ← Method.self
  let task ← Method.ofExcept (resource.task taskId)
  match resource.terminalTasks.get task.key with
  | some status => return status
  | none =>
      let status ← observedTaskStatus codecs task
      if status.isTerminal then
        Method.modify (remember task.key status)
      return status

/-- What `task_stop` reports when the cancellation was not acknowledged.  The
last branch is the source's `unreachable!()`, a panic, which never returns. -/
def stopOutcome (taskId : Text) (response : Except String Bool)
    (followUp : Except QrmiError TaskStatus) : LocalMethod Unit :=
  match followUp with
  | .ok .completed | .ok .failed | .ok .cancelled => return ()
  | .error (.taskNotFound id) => Method.throw (.taskNotFound id)
  | _ =>
      match response with
      | .ok false => Method.throw (.other
          s!"Maestro refused to cancel active task {String.ofList taskId}")
      | .error error => Method.throw (.other
          s!"Failed to cancel task {String.ofList taskId}: {error}")
      | .ok true => fun _ => .pending

/-- `MaestroLocal::task_stop`. -/
def taskStop (taskId : Text) : LocalMethod Unit := do
  let resource ← Method.self
  let task ← Method.ofExcept (resource.task taskId)
  let status ← taskStatus codecs taskId
  if status.isTerminal then return ()
  else do
    let response ← taskCall task.cancelAt
    match response with
    | .ok true => Method.modify (remember task.key .cancelled)
    | _ => do
        let followUp ← Method.attempt (taskStatus codecs taskId)
        stopOutcome taskId response followUp

/-- `MaestroLocal::task_result`. -/
def taskResult (taskId : Text) : LocalMethod Text := do
  let resource ← Method.self
  let task ← Method.ofExcept (resource.task taskId)
  let status ← taskStatus codecs taskId
  if status ≠ .completed then
    Method.throw (.taskNotReady (String.ofList taskId)
      s!"Task is not completed (current status: {status.debug})")
  else do
    ensureTaskExists task
    let results ← taskCall task.getResultsAsStringAt
    taskResponse task "Failed to get results" results

/-- `MaestroLocal::task_logs`. -/
def taskLogs (taskId : Text) : LocalMethod Text := do
  let resource ← Method.self
  let task ← Method.ofExcept (resource.task taskId)
  nativeApi (RequestClient.logs codecs.json task.sessionId task.id)

/-- `MaestroLocal::target`. -/
def target : LocalMethod Text :=
  nativeApi (RequestClient.capabilities codecs.json)

/-- The operations of the resource interface that exchange anything. -/
inductive Operation
  | status
  | isAccessible
  | acquire
  | release (id : Text)
  | taskStart (payload : Payload)
  | taskStop (taskId : Text)
  | taskStatus (taskId : Text)
  | taskResult (taskId : Text)
  | taskLogs (taskId : Text)
  | target

/-- The value that a successful operation returns. -/
def Operation.Value : Operation → Type
  | .status => ResourceStatus
  | .isAccessible => Bool
  | .acquire | .taskStart _ | .taskResult _ | .taskLogs _ | .target => Text
  | .release _ | .taskStop _ => Unit
  | .taskStatus _ => TaskStatus

/-- Perform an operation of the resource interface. -/
def perform : (operation : Operation) → LocalMethod operation.Value
  | .status => status codecs
  | .isAccessible => isAccessible
  | .acquire => acquire
  | .release id => release id
  | .taskStart payload => taskStart codecs payload
  | .taskStop taskId => taskStop codecs taskId
  | .taskStatus taskId => taskStatus codecs taskId
  | .taskResult taskId => taskResult codecs taskId
  | .taskLogs taskId => taskLogs codecs taskId
  | .target => target codecs

/-- One returned operation with everything it exchanged. -/
structure Call where
  operation : Operation
  trace : List Exchange
  result : Except QrmiError operation.Value

/-- An instance performs one operation to its end. -/
def Step (before : MaestroLocal) (call : Call) (after : MaestroLocal) : Prop :=
  (perform codecs call.operation).Executes before call.trace call.result after

/-- The instances that the constructors return. -/
def Constructed (resource : MaestroLocal) : Prop :=
  (∃ backendName env, new backendName env = .ok resource) ∨
    ∃ backendName config, fromConfig backendName config = .ok resource

theorem terminalTasks_of_constructed {resource : MaestroLocal}
    (constructed : Constructed resource) :
    resource.terminalTasks = .empty := by
  rcases constructed with ⟨backendName, env, built⟩ |
    ⟨backendName, config, built⟩
  · simp only [new] at built
    split at built
    · split at built
      · cases built
        rfl
      · cases built
    · cases built
      rfl
    · cases built
  · simp only [fromConfig] at built
    split at built
    · cases built
      rfl
    · split at built
      · cases built
        rfl
      · cases built

end Codec

end MaestroLocal

end Maestro
