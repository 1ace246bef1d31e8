import Mathlib.Algebra.Order.Field.Rat
import Qrmi.InteractionMethod
import Qrmi.Json
import Qrmi.QuantumResource

/-!
# The jobs of the primitives

The job of the runtime primitives and the job of the Pasqal sampler wait for a task,
remember its last status, and read its result.  The one remembers the status of the
task, the other the status of the job that it stands for.
-/

open Interaction

namespace PrimitiveJobs

/-- `JobStatus` of the provider interface. -/
inductive JobStatus
  | initializing
  | queued
  | validating
  | running
  | cancelled
  | done
  | error
  deriving DecidableEq

/-- A member as an f-string prints it. -/
def JobStatus.display : JobStatus → String
  | initializing => "JobStatus.INITIALIZING"
  | queued => "JobStatus.QUEUED"
  | validating => "JobStatus.VALIDATING"
  | running => "JobStatus.RUNNING"
  | cancelled => "JobStatus.CANCELLED"
  | done => "JobStatus.DONE"
  | error => "JobStatus.ERROR"

/-- A member of one of the two enumerations.  Members of different ones are never
equal. -/
inductive StatusValue
  | task (status : TaskStatus)
  | job (status : JobStatus)
  deriving DecidableEq

/-- `JOB_FINAL_STATES`. -/
def jobFinalStates : List StatusValue :=
  [.job .done, .job .cancelled, .job .error]

/-- `STATUS_MAP` of both modules. -/
def statusMap : TaskStatus → JobStatus
  | .queued => .queued
  | .running => .running
  | .completed => .done
  | .failed => .error
  | .cancelled => .cancelled

/-- A raised exception. -/
inductive JobError
  | runtimeError (message : String)
  | typeError (message : String)
  | valueError (message : String)
  | timeoutError (jobId : Text) (timeoutSeconds : Rat)
  | attributeError (message : String)
  | other (message : String)

/-- What a job asks. -/
inductive JobQuery
  | taskStatus (jobId : Text)
  | taskResult (jobId : Text)
  | time
  | sleep (seconds : Rat)

namespace JobQuery

abbrev Answer : JobQuery → Type
  | taskStatus _ => Except JobError TaskStatus
  | taskResult _ => Except JobError Text
  | time => Rat
  | sleep _ => Unit

end JobQuery

abbrev JobEvent : Type :=
  Event JobQuery.Answer

abbrev JobMethod (Job α : Type) : Type :=
  Method JobQuery JobQuery.Answer Job JobError α

section Accessors

variable {Job : Type}

def ask (query : JobQuery) : JobMethod Job query.Answer :=
  Method.lift (Program.question query)

/-- The methods that compare the status with one member. -/
def statusIs (status : JobMethod Job (Option StatusValue)) (expected : JobStatus) :
    JobMethod Job Bool := do
  let current ← status
  return current = some (.job expected)

/-- `self.status() in JOB_FINAL_STATES`. -/
def statusIsFinal (status : JobMethod Job (Option StatusValue)) : JobMethod Job Bool := do
  let current ← status
  return current.any (· ∈ jobFinalStates)

/-- `self._last_status is None or self._last_status not in JOB_FINAL_STATES`. -/
def isUnsettled (lastStatus : Option StatusValue) : Bool :=
  lastStatus.all (· ∉ jobFinalStates)

end Accessors

structure RuntimeJobV2 (Result : Type) where
  jobId : Text
  lastStatus : Option StatusValue
  result : Option Result

namespace RuntimeJobV2

variable {Result : Type}

/-- `__init__`. -/
def new (jobId : Text) : RuntimeJobV2 Result where
  jobId := jobId
  lastStatus := none
  result := none

/-- `STATUS_MAP.get`. -/
def statusMapGet : Option StatusValue → Option StatusValue
  | some (.task status) => some (.job (statusMap status))
  | _ => none

def status : JobMethod (RuntimeJobV2 Result) (Option StatusValue) := do
  let job ← Method.self
  if isUnsettled job.lastStatus then
    let answer ← ask (.taskStatus job.jobId)
    let status ← Method.ofExcept answer
    Method.modify fun job => { job with lastStatus := some (.task status) }
    return statusMapGet (some (.task status))
  else
    return statusMapGet job.lastStatus

def done : JobMethod (RuntimeJobV2 Result) Bool :=
  statusIs status .done

def running : JobMethod (RuntimeJobV2 Result) Bool :=
  statusIs status .running

def cancelled : JobMethod (RuntimeJobV2 Result) Bool :=
  statusIs status .cancelled

def errored : JobMethod (RuntimeJobV2 Result) Bool :=
  statusIs status .error

def inFinalState : JobMethod (RuntimeJobV2 Result) Bool :=
  statusIsFinal status

/-- The loop of `result`, cut off after the given number of passes. -/
def waitFinal : Nat → JobMethod (RuntimeJobV2 Result) Unit
  | 0 => fun _ => .pending
  | fuel + 1 => do
      let isFinal ← inFinalState
      if isFinal then return ()
      else
        let () ← ask (.sleep 1)
        waitFinal fuel

/-- The part of `result` behind its first test, with the decoder of the runtime. -/
def fetchResult (decode : Text → Except JobError Result) (fuel : Nat) :
    JobMethod (RuntimeJobV2 Result) Result := do
  waitFinal fuel
  let job ← Method.self
  let answer ← ask (.taskResult job.jobId)
  let value ← Method.ofExcept answer
  let result ← Method.ofExcept (decode value)
  Method.modify fun job => { job with result := some result }
  return result

/-- The result that is returned without looking at the task. -/
def heldResult (job : RuntimeJobV2 Result) : Option Result :=
  if job.lastStatus = none then none else job.result

/-- `result`. -/
def getResult (decode : Text → Except JobError Result) (fuel : Nat) :
    JobMethod (RuntimeJobV2 Result) Result := do
  let job ← Method.self
  match job.heldResult with
  | some result => return result
  | none => fetchResult decode fuel

end RuntimeJobV2

/-- What the sampler uses of Python's JSON module, and `int` of a number. -/
structure PythonJson where
  loads : Text → Except String Json
  repr : Json → String
  int : JsonNumber → Except JobError Int

/-- The counts in the result of the sampler, with its metadata. -/
structure PasqalResult where
  counts : List (Text × Int)
  backendName : Text
  jobId : Text

structure QRMIPasqalJob where
  jobId : Text
  backendName : Text
  pollIntervalSeconds : Rat
  timeoutSeconds : Option Rat
  lastStatus : Option StatusValue
  result : Option PasqalResult

namespace QRMIPasqalJob

/-- `__init__`. -/
def new (jobId backendName : Text) (pollIntervalSeconds : Rat)
    (timeoutSeconds : Option Rat) : QRMIPasqalJob where
  jobId := jobId
  backendName := backendName
  pollIntervalSeconds := pollIntervalSeconds
  timeoutSeconds := timeoutSeconds
  lastStatus := none
  result := none

def status : JobMethod QRMIPasqalJob (Option StatusValue) := do
  let job ← Method.self
  if isUnsettled job.lastStatus then
    let answer ← ask (.taskStatus job.jobId)
    let status ← Method.ofExcept answer
    Method.modify fun job => { job with lastStatus := some (.job (statusMap status)) }
    return some (.job (statusMap status))
  else
    return job.lastStatus

def done : JobMethod QRMIPasqalJob Bool :=
  statusIs status .done

def running : JobMethod QRMIPasqalJob Bool :=
  statusIs status .running

def cancelled : JobMethod QRMIPasqalJob Bool :=
  statusIs status .cancelled

def inFinalState : JobMethod QRMIPasqalJob Bool :=
  statusIsFinal status

/-- The class has no such method, and neither has its base class. -/
def errored : JobMethod QRMIPasqalJob Bool :=
  Method.throw (.attributeError "'QRMIPasqalJob' object has no attribute 'errored'")

section Result

variable (json : PythonJson)

/-- `_normalize_pasqal_payload` of the text of a result. -/
def normalizePasqalPayload (payload : Text) : Except JobError Json :=
  match json.loads payload with
  | .error message => .error (.valueError message)
  | .ok parsed =>
      if parsed.isObject then .ok parsed
      else .error (.typeError "Invalid payload. Expected a JSON object.")

/-- The loop over the counter.  Members that hold no number are left out. -/
def readCounts : List (Text × Json) → Except JobError (List (Text × Int))
  | [] => .ok []
  | (bitstring, count) :: members =>
      match count with
      | .number value => do
          let count ← json.int value
          let counts ← readCounts members
          return (bitstring, count) :: counts
      | .bool value => do
          let counts ← readCounts members
          return (bitstring, if value then 1 else 0) :: counts
      | _ => readCounts members

/-- `_extract_counts`. -/
def extractCounts (payload : Json) : Except JobError (List (Text × Int)) :=
  match payload.get "counter" with
  | .object members => do
      let counts ← readCounts json members
      if counts.isEmpty then
        .error (.runtimeError s!"No valid counts found in payload: {json.repr payload}.")
      else return counts
  | counterPayload => .error
      (.runtimeError s!"Unsupported counter payload: {json.repr counterPayload}.")

/-- The test for a timeout in the loop of `result`. -/
def checkTimeout (startTime : Rat) : JobMethod QRMIPasqalJob Unit := do
  let job ← Method.self
  match job.timeoutSeconds with
  | none => return ()
  | some timeoutSeconds =>
      let now ← ask .time
      if timeoutSeconds < now - startTime then
        Method.throw (.timeoutError job.jobId timeoutSeconds)
      else return ()

/-- The loop of `result`, cut off after the given number of passes. -/
def waitFinal (startTime : Rat) : Nat → JobMethod QRMIPasqalJob Unit
  | 0 => fun _ => .pending
  | fuel + 1 => do
      let isFinal ← inFinalState
      if isFinal then return ()
      else
        checkTimeout startTime
        let job ← Method.self
        let () ← ask (.sleep job.pollIntervalSeconds)
        waitFinal startTime fuel

/-- A status in the text of an error. -/
def displayStatus : Option StatusValue → String
  | some (.job status) => status.display
  | _ => "None"

/-- The part of `result` behind its loop. -/
def readResult : JobMethod QRMIPasqalJob PasqalResult := do
  let job ← Method.self
  if job.lastStatus ≠ some (.job .done) then
    Method.throw (.runtimeError
      (s!"QRMI task {String.ofList job.jobId} ended with status " ++
        s!"{displayStatus job.lastStatus}."))
  else
    let answer ← ask (.taskResult job.jobId)
    let rawResult ← Method.ofExcept answer
    let parsedResult ← Method.ofExcept (normalizePasqalPayload json rawResult)
    let counts ← Method.ofExcept (extractCounts json parsedResult)
    let result : PasqalResult :=
      { counts := counts, backendName := job.backendName, jobId := job.jobId }
    Method.modify fun job => { job with result := some result }
    return result

/-- The result that is returned without looking at the task. -/
def heldResult (job : QRMIPasqalJob) : Option PasqalResult :=
  if job.lastStatus = some (.job .done) then job.result else none

/-- `result`. -/
def getResult (fuel : Nat) : JobMethod QRMIPasqalJob PasqalResult := do
  let job ← Method.self
  match job.heldResult with
  | some result => return result
  | none =>
      let startTime ← ask .time
      waitFinal startTime fuel
      readResult json

end Result

end QRMIPasqalJob

/-- The methods that look at the task. -/
inductive Accessor
  | status
  | done
  | running
  | cancelled
  | errored
  | inFinalState
  | result

/-- What they return. -/
inductive Returned (Result : Type)
  | status (value : Option StatusValue)
  | flag (value : Bool)
  | result (value : Result)

section Calls

variable {Job Result : Type}

/-- Return the value of a method as one of the values of a call. -/
def returning {α : Type} (wrap : α → Returned Result) (method : JobMethod Job α) :
    JobMethod Job (Returned Result) := do
  let value ← method
  return wrap value

def RuntimeJobV2.call (decode : Text → Except JobError Result) (fuel : Nat) :
    Accessor → JobMethod (RuntimeJobV2 Result) (Returned Result)
  | .status => returning .status status
  | .done => returning .flag done
  | .running => returning .flag running
  | .cancelled => returning .flag cancelled
  | .errored => returning .flag errored
  | .inFinalState => returning .flag inFinalState
  | .result => returning .result (getResult decode fuel)

def QRMIPasqalJob.call (json : PythonJson) (fuel : Nat) :
    Accessor → JobMethod QRMIPasqalJob (Returned PasqalResult)
  | .status => returning .status status
  | .done => returning .flag done
  | .running => returning .flag running
  | .cancelled => returning .flag cancelled
  | .errored => returning .flag errored
  | .inFinalState => returning .flag inFinalState
  | .result => returning .result (getResult json fuel)

end Calls

end PrimitiveJobs
