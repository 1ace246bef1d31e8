import Qrmi.InteractionMethod
import Qrmi.KeyedStore
import Qrmi.QuantumResource

/-!
# Batches of the Pulser connection

The connection submits a sequence once for each of its job parameters.  The tasks
that were started make up a batch, whose identifier joins theirs, and the connection
remembers the identifier of its last batch.  Calls on the quantum resource and builds
of the sequence are questions; what else Pulser does is a parameter.
-/

open Interaction

/-- A raised exception. -/
inductive PythonError
  | runtimeError (message : String)
  | notImplementedError (message : String)
  | valueError (message : String)
  | assertionError
  | attributeError (message : String)
  | other (message : String)

/-- `except RuntimeError`, which also catches the subclasses. -/
def PythonError.isRuntimeError : PythonError → Bool
  | runtimeError _ | notImplementedError _ => true
  | valueError _ | assertionError | attributeError _ | other _ => false

/-- What the connection uses of Pulser. -/
structure PulserLibrary (Sequence Params Variables Device : Type) where
  addMeasurement : Sequence → Except PythonError Sequence
  makeJsonCompatible : List Params → Except PythonError (List Params)
  /-- The devices that the text of a target describes. -/
  readDevices : Text → Except PythonError (List Device)
  sequenceDevice : Sequence → Text
  deviceName : Device → Text
  validateJobParams : List Params → Device → Except PythonError Unit
  isParametrized : Sequence → Bool
  isRegisterMappable : Sequence → Bool
  toAbstractRepr : Sequence → Except PythonError Text
  variablesOf : Params → Variables
  runs : Params → Except PythonError Int

/-- What the connection asks. -/
inductive PulserQuery (Sequence Variables : Type)
  | target
  | build (sequence : Sequence) (values : Variables)
  | taskStart (payload : Payload)
  | taskStatus (taskId : Text)
  | taskStop (taskId : Text)
  | taskLogs (taskId : Text)
  | sleep

namespace PulserQuery

abbrev Answer {Sequence Variables : Type} : PulserQuery Sequence Variables → Type
  | target => Except PythonError Text
  | build .. => Except PythonError Sequence
  | taskStart _ => Except PythonError Text
  | taskStatus _ => Except PythonError TaskStatus
  | taskStop _ => Except PythonError Unit
  | taskLogs _ => Except PythonError Text
  | sleep => Unit

end PulserQuery

/-- A connection. -/
structure PulserQRMIConnection (Sequence : Type) where
  taskSequences : KeyedStore Text Sequence
  currentBatchId : Option Text

/-- `RemoteResults`. -/
structure RemoteResults where
  batchId : Text
  jobIds : List Text

namespace PulserQRMIConnection

variable {Sequence Params Variables Device : Type}

abbrev PulserEvent (Sequence Variables : Type) : Type :=
  Event (@PulserQuery.Answer Sequence Variables)

abbrev PulserMethod (Sequence Variables α : Type) : Type :=
  Method (PulserQuery Sequence Variables) PulserQuery.Answer
    (PulserQRMIConnection Sequence) PythonError α

/-- Ask a question. -/
def ask (query : PulserQuery Sequence Variables) :
    PulserMethod Sequence Variables query.Answer :=
  Method.lift (Program.question query)

/-- `_batch_id_from_job_ids`. -/
def batchIdFromJobIds (jobIds : List Text) : Text :=
  List.intercalate ['|'] jobIds

/-- `_get_job_ids`.  A missing identifier has no attribute `split`. -/
def getJobIds : Option Text → Except PythonError (List Text)
  | some batchId => .ok (batchId.splitOn '|')
  | none => .error (.attributeError "'NoneType' object has no attribute 'split'")

/-- The batch that a call is about. -/
def selectBatch (batchId : Option Text) : PulserMethod Sequence Variables (Option Text) := do
  match batchId with
  | some batchId => return some batchId
  | none => do
      let connection ← Method.self
      return connection.currentBatchId

/-- The loop of `cancel_batch_jobs`. -/
def stopJobs : List Text → PulserMethod Sequence Variables Unit
  | [] => return ()
  | jobId :: jobIds => do
      match ← ask (.taskStop jobId) with
      | .ok () => stopJobs jobIds
      | .error error =>
          if error.isRuntimeError then stopJobs jobIds else Method.throw error

def cancelBatchJobs (batchId : Option Text) : PulserMethod Sequence Variables Unit := do
  let batchId ← selectBatch batchId
  let jobIds ← Method.ofExcept (getJobIds batchId)
  stopJobs jobIds

/-- The loop of `get_batch_logs`. -/
def collectLogs : List Text → PulserMethod Sequence Variables (List Text)
  | [] => return []
  | jobId :: jobIds => do
      match ← ask (.taskLogs jobId) with
      | .ok jobLogs => do
          let logs ← collectLogs jobIds
          return jobLogs :: logs
      | .error error =>
          if error.isRuntimeError then collectLogs jobIds else Method.throw error

def getBatchLogs (batchId : Option Text) : PulserMethod Sequence Variables (List Text) := do
  let batchId ← selectBatch batchId
  let jobIds ← Method.ofExcept (getJobIds batchId)
  collectLogs jobIds

variable (library : PulserLibrary Sequence Params Variables Device)

/-- The devices are compared with the one of the sequence, if there are any. -/
def checkDevice (sequence : Sequence) (jobParams : List Params) (devices : List Device) :
    Except PythonError Unit :=
  if devices.isEmpty then .ok ()
  else
    match devices.find? fun device =>
        library.sequenceDevice sequence == library.deviceName device with
    | none => .error (.valueError
        ("The Sequence's device " ++ String.ofList (library.sequenceDevice sequence) ++
          " doesn't match the name of a device of any available QPU. Select your device " ++
          "among fetch_available_devices() and change your Sequence's device using its " ++
          "switch_device method."))
    | some device => library.validateJobParams jobParams device

/-- The part of `submit` in front of its loop: the sequence and the parameters to
submit. -/
def prepare (sequence : Sequence) (isOpen : Bool) (batchId : Option Text)
    (jobParams : List Params) :
    PulserMethod Sequence Variables (Sequence × List Params) := do
  if isOpen || (batchId.getD []) ≠ [] then
    Method.throw (.notImplementedError "Open batches are not implemented in QRMI.")
  else
    let sequence ← Method.ofExcept (library.addMeasurement sequence)
    let jobParams ← Method.ofExcept (library.makeJsonCompatible jobParams)
    let target ← ask .target
    let text ← Method.ofExcept target
    let devices ← Method.ofExcept (library.readDevices text)
    let () ← Method.ofExcept (checkDevice library sequence jobParams devices)
    return (sequence, jobParams)

/-- A sequence that is still to be built. -/
def isOpenSequence (sequence : Sequence) : Bool :=
  library.isParametrized sequence || library.isRegisterMappable sequence

/-- Build the sequence for one set of parameters. -/
def buildSequence (sequence : Sequence) (params : Params) :
    PulserMethod Sequence Variables Sequence := do
  if isOpenSequence library sequence then
    let built ← ask (.build sequence (library.variablesOf params))
    Method.ofExcept built
  else
    return sequence

/-- One pass through the loop of `submit`: the identifier of the started task. -/
def startJob (sequence : Sequence) (params : Params) :
    PulserMethod Sequence Variables Text := do
  let seqToSubmit ← buildSequence library sequence params
  if isOpenSequence library seqToSubmit then
    Method.throw .assertionError
  else
    let text ← Method.ofExcept (library.toAbstractRepr seqToSubmit)
    let runs ← Method.ofExcept (library.runs params)
    let started ← ask (.taskStart (.pasqalCloud text runs))
    let taskId ← Method.ofExcept started
    Method.modify fun connection =>
      { connection with taskSequences := connection.taskSequences.insert taskId seqToSubmit }
    return taskId

/-- The loop of `submit`. -/
def startJobs (sequence : Sequence) : List Params → PulserMethod Sequence Variables (List Text)
  | [] => return []
  | params :: jobParams => do
      let taskId ← startJob library sequence params
      let taskIds ← startJobs sequence jobParams
      return taskId :: taskIds

/-- `_wait_job_execution`, cut off after the given number of polls. -/
def waitJobExecution : Nat → Text → PulserMethod Sequence Variables Unit
  | 0, _ => fun _ => .pending
  | fuel + 1, jobId => do
      let polled ← ask (.taskStatus jobId)
      let status ← Method.ofExcept polled
      if status.isTerminal then return ()
      else do
        let () ← ask .sleep
        waitJobExecution fuel jobId

def waitAll (fuel : Nat) : List Text → PulserMethod Sequence Variables Unit
  | [] => return ()
  | jobId :: jobIds => do
      waitJobExecution fuel jobId
      waitAll fuel jobIds

/-- The part of `submit` behind its loop. -/
def recordBatch (fuel : Nat) (wait : Bool) (newJobIds : List Text) :
    PulserMethod Sequence Variables RemoteResults := do
  let batchId := batchIdFromJobIds newJobIds
  Method.modify fun connection => { connection with currentBatchId := some batchId }
  if wait then
    waitAll fuel newJobIds
    return { batchId := batchId, jobIds := newJobIds }
  else
    return { batchId := batchId, jobIds := newJobIds }

def submit (fuel : Nat) (sequence : Sequence) (wait isOpen : Bool) (batchId : Option Text)
    (jobParams : List Params) : PulserMethod Sequence Variables RemoteResults := do
  let prepared ← prepare library sequence isOpen batchId jobParams
  let newJobIds ← startJobs library prepared.1 prepared.2
  recordBatch fuel wait newJobIds

/-! ## The jobs of the last batch -/

/-- Exceptions that the loops over a batch catch. -/
def isTolerable : PulserEvent Sequence Variables → Bool
  | ⟨.taskStop _, .error error⟩ | ⟨.taskLogs _, .error error⟩ => error.isRuntimeError
  | _ => true

/-- `cancel_batch_jobs()` and `get_batch_logs()` ask for each of the given jobs, one
after the other, unless one of them raises what is not caught. -/
structure Addresses (Variables : Type) (connection : PulserQRMIConnection Sequence)
    (jobIds : List Text) : Prop where
  stops : ∀ (trace : List (PulserEvent Sequence Variables)) result after,
    (cancelBatchJobs none).Executes connection trace result after →
    (∀ event ∈ trace, isTolerable event) →
      trace.map Sigma.fst = jobIds.map .taskStop ∧ result = .ok ()
  fetches : ∀ (trace : List (PulserEvent Sequence Variables)) result after,
    (getBatchLogs none).Executes connection trace result after →
    (∀ event ∈ trace, isTolerable event) →
      trace.map Sigma.fst = jobIds.map .taskLogs ∧ ∃ logs, result = .ok logs

section Batches

variable {connection before after : PulserQRMIConnection Sequence}
variable {trace : List (PulserEvent Sequence Variables)} {jobIds : List Text}

theorem stopJobs_spec {result : Except PythonError Unit}
    (executes : (stopJobs jobIds).Executes before trace result after)
    (tolerable : ∀ event ∈ trace, isTolerable event) :
    trace.map Sigma.fst = jobIds.map .taskStop ∧ result = .ok () := by
  induction jobIds generalizing trace with
  | nil =>
      obtain ⟨rfl, rfl, -⟩ := Method.executes_pure_iff.mp executes
      exact ⟨rfl, rfl⟩
  | cons jobId jobIds ih =>
      obtain ⟨answer, rest, rfl, continued⟩ :=
        Method.executes_question_bind_iff.mp executes
      have later : ∀ event ∈ rest, isTolerable event :=
        fun event member => tolerable event (List.mem_cons_of_mem _ member)
      cases answer with
      | ok stopped =>
          obtain ⟨queries, done⟩ := ih continued later
          exact ⟨congrArg (_ :: ·) queries, done⟩
      | error error =>
          have caught : error.isRuntimeError = true := tolerable _ (List.mem_cons_self ..)
          simp only [caught, if_true] at continued
          obtain ⟨queries, done⟩ := ih continued later
          exact ⟨congrArg (_ :: ·) queries, done⟩

theorem collectLogs_spec {result : Except PythonError (List Text)}
    (executes : (collectLogs jobIds).Executes before trace result after)
    (tolerable : ∀ event ∈ trace, isTolerable event) :
    trace.map Sigma.fst = jobIds.map .taskLogs ∧ ∃ logs, result = .ok logs := by
  induction jobIds generalizing trace result after with
  | nil =>
      obtain ⟨rfl, rfl, -⟩ := Method.executes_pure_iff.mp executes
      exact ⟨rfl, [], rfl⟩
  | cons jobId jobIds ih =>
      obtain ⟨answer, rest, rfl, continued⟩ :=
        Method.executes_question_bind_iff.mp executes
      have later : ∀ event ∈ rest, isTolerable event :=
        fun event member => tolerable event (List.mem_cons_of_mem _ member)
      cases answer with
      | ok jobLogs =>
          rcases Method.executes_bind_iff.mp continued with ⟨error, rfl, failed⟩ |
            ⟨first, second, logs, middle, rfl, collected, returned⟩
          · obtain ⟨-, logs, impossible⟩ := ih failed later
            cases impossible
          · obtain ⟨rfl, rfl, -⟩ := Method.executes_pure_iff.mp returned
            rw [List.append_nil] at later ⊢
            obtain ⟨queries, -⟩ := ih collected later
            exact ⟨congrArg (_ :: ·) queries, _, rfl⟩
      | error error =>
          have caught : error.isRuntimeError = true := tolerable _ (List.mem_cons_self ..)
          simp only [caught, if_true] at continued
          obtain ⟨queries, done⟩ := ih continued later
          exact ⟨congrArg (_ :: ·) queries, done⟩

theorem stopJobs_executes (jobIds : List Text) :
    (stopJobs jobIds).Executes connection
      (jobIds.map fun jobId => (⟨.taskStop jobId, .ok ()⟩ : PulserEvent Sequence Variables))
      (.ok ()) connection := by
  induction jobIds with
  | nil => exact Method.executes_pure_iff.mpr ⟨rfl, rfl, rfl⟩
  | cons jobId jobIds ih =>
      exact Method.executes_question_bind_iff.mpr ⟨.ok (), _, rfl, ih⟩

/-- A call without an identifier is about the last batch. -/
theorem executes_selected_iff {α : Type}
    {loop : List Text → PulserMethod Sequence Variables α} {result : Except PythonError α} :
    (selectBatch none >>= fun batchId => Method.ofExcept (getJobIds batchId) >>= loop).Executes
        before trace result after ↔
      (Method.ofExcept (getJobIds before.currentBatchId) >>= loop).Executes
        before trace result after := by
  refine Method.executes_bind_of_silent fun events outcome later => ?_
  rw [selectBatch, Method.executes_self_bind_iff, Method.executes_pure_iff]

/-- The jobs that both calls address are those in the identifier of the last batch. -/
theorem addresses_iff :
    connection.Addresses Variables jobIds ↔
      getJobIds connection.currentBatchId = .ok jobIds := by
  constructor
  · intro addresses
    cases split : getJobIds connection.currentBatchId with
    | error error =>
        have raised : (cancelBatchJobs none : PulserMethod Sequence Variables Unit).Executes
            connection [] (.error error) connection := by
          rw [cancelBatchJobs, executes_selected_iff, split,
            Method.executes_ofExcept_bind_error_iff]
          exact ⟨rfl, rfl, rfl⟩
        cases (addresses.stops [] _ _ raised (by simp)).2
    | ok others =>
        have stopped : (stopJobs others : PulserMethod Sequence Variables Unit).Executes
            connection (others.map fun jobId => ⟨.taskStop jobId, .ok ()⟩) (.ok ())
              connection := stopJobs_executes others
        have executes : (cancelBatchJobs none : PulserMethod Sequence Variables Unit).Executes
            connection (others.map fun jobId => ⟨.taskStop jobId, .ok ()⟩) (.ok ())
              connection := by
          rw [cancelBatchJobs, executes_selected_iff, split,
            Method.executes_ofExcept_bind_ok_iff]
          exact stopped
        have queries := (addresses.stops _ _ _ executes (by simp [isTolerable])).1
        have injective : Function.Injective
            (PulserQuery.taskStop : Text → PulserQuery Sequence Variables) :=
          fun first second same => PulserQuery.taskStop.inj same
        have same : others = jobIds := by
          refine List.map_injective_iff.mpr injective ?_
          simpa [Function.comp_def] using queries
        rw [same]
  · intro split
    constructor
    · intro trace result after executes tolerable
      rw [cancelBatchJobs, executes_selected_iff, split,
        Method.executes_ofExcept_bind_ok_iff] at executes
      exact stopJobs_spec executes tolerable
    · intro trace result after executes tolerable
      rw [getBatchLogs, executes_selected_iff, split,
        Method.executes_ofExcept_bind_ok_iff] at executes
      exact collectLogs_spec executes tolerable

end Batches

/-! ## What a submission starts -/

/-- The task that an event started. -/
def startedTask : PulserEvent Sequence Variables → Option Text
  | ⟨.taskStart _, .ok taskId⟩ => some taskId
  | _ => none

/-- The task that an event stopped. -/
def stoppedTask : PulserEvent Sequence Variables → Option Text
  | ⟨.taskStop taskId, .ok ()⟩ => some taskId
  | _ => none

def started (trace : List (PulserEvent Sequence Variables)) : List Text :=
  trace.filterMap startedTask

def stopped (trace : List (PulserEvent Sequence Variables)) : List Text :=
  trace.filterMap stoppedTask

/-- A submission that left nothing out of reach: after an exception, every task that
was started is stopped or addressed, and after a return, the tasks that were started
are exactly what is addressed. -/
structure Tracked (trace : List (PulserEvent Sequence Variables))
    (result : Except PythonError RemoteResults)
    (after : PulserQRMIConnection Sequence) : Prop where
  raised : ∀ error, result = .error error → ∀ taskId ∈ started trace,
    taskId ∈ stopped trace ∨ ∃ jobIds, after.Addresses Variables jobIds ∧ taskId ∈ jobIds
  returned : ∀ results, result = .ok results → after.Addresses Variables (started trace)

section Submissions

variable {library : PulserLibrary Sequence Params Variables Device}
variable {sequence : Sequence} {isOpen wait : Bool} {batchId : Option Text}
variable {jobParams : List Params} {params : Params}
variable {before after : PulserQRMIConnection Sequence}
variable {trace : List (PulserEvent Sequence Variables)}

/-- A part of a submission that neither starts nor stops tasks, nor changes the
connection. -/
structure Aside (before : PulserQRMIConnection Sequence)
    (trace : List (PulserEvent Sequence Variables))
    (after : PulserQRMIConnection Sequence) : Prop where
  startsNone : started trace = []
  stopsNone : stopped trace = []
  unchanged : after = before

theorem Aside.sameBatch (aside : Aside before trace after) :
    after.currentBatchId = before.currentBatchId :=
  congrArg currentBatchId aside.unchanged

theorem Aside.append {first second : List (PulserEvent Sequence Variables)}
    {middle : PulserQRMIConnection Sequence} (earlier : Aside before first middle)
    (later : Aside middle second after) : Aside before (first ++ second) after := by
  constructor
  · rw [started, List.filterMap_append]
    exact List.append_eq_nil_iff.mpr ⟨earlier.startsNone, later.startsNone⟩
  · rw [stopped, List.filterMap_append]
    exact List.append_eq_nil_iff.mpr ⟨earlier.stopsNone, later.stopsNone⟩
  · exact later.unchanged.trans earlier.unchanged

/-- Every execution of the method is such a part. -/
def IsAside {α : Type} (method : PulserMethod Sequence Variables α) : Prop :=
  ∀ ⦃before trace result after⦄, method.Executes before trace result after →
    Aside before trace after

theorem isAside_pure {α : Type} (value : α) :
    IsAside (pure value : PulserMethod Sequence Variables α) := by
  intro before trace result after executes
  obtain ⟨rfl, -, rfl⟩ := Method.executes_pure_iff.mp executes
  exact ⟨rfl, rfl, rfl⟩

theorem isAside_ofExcept {α : Type} (outcome : Except PythonError α) :
    IsAside (Method.ofExcept outcome : PulserMethod Sequence Variables α) := by
  intro before trace result after executes
  obtain ⟨rfl, -, rfl⟩ := Method.executes_ofExcept_iff.mp executes
  exact ⟨rfl, rfl, rfl⟩

theorem isAside_throw {α : Type} (error : PythonError) :
    IsAside (Method.throw error : PulserMethod Sequence Variables α) := by
  intro before trace result after executes
  obtain ⟨rfl, -, rfl⟩ := Method.executes_throw_iff.mp executes
  exact ⟨rfl, rfl, rfl⟩

theorem isAside_ask {query : PulserQuery Sequence Variables}
    (noStart : ∀ answer, startedTask ⟨query, answer⟩ = none)
    (noStop : ∀ answer, stoppedTask ⟨query, answer⟩ = none) : IsAside (ask query) := by
  intro before trace result after executes
  obtain ⟨answer, runs, -, rfl⟩ := Method.executes_lift_iff.mp executes
  obtain rfl := Program.runs_question_iff.mp runs
  constructor
  · exact List.filterMap_cons_none (noStart answer)
  · exact List.filterMap_cons_none (noStop answer)
  · rfl

theorem IsAside.bind {α β : Type} {method : PulserMethod Sequence Variables α}
    {next : α → PulserMethod Sequence Variables β} (first : IsAside method)
    (second : ∀ value, IsAside (next value)) : IsAside (method >>= next) := by
  intro before trace result after executes
  rcases Method.executes_bind_iff.mp executes with ⟨error, -, failed⟩ |
    ⟨earlier, later, value, middle, rfl, ran, continued⟩
  · exact first failed
  · exact (first ran).append (second value continued)

theorem prepare_isAside :
    IsAside (prepare library sequence isOpen batchId jobParams) := by
  unfold prepare
  split
  · exact isAside_throw _
  · refine (isAside_ofExcept _).bind fun sequence => ?_
    refine (isAside_ofExcept _).bind fun jobParams => ?_
    refine (isAside_ask (fun _ => rfl) fun _ => rfl).bind fun target => ?_
    refine (isAside_ofExcept _).bind fun text => ?_
    refine (isAside_ofExcept _).bind fun devices => ?_
    exact (isAside_ofExcept _).bind fun _ => isAside_pure _

theorem buildSequence_isAside : IsAside (buildSequence library sequence params) := by
  unfold buildSequence
  split
  · exact (isAside_ask (fun _ => rfl) fun _ => rfl).bind fun built => isAside_ofExcept _
  · exact isAside_pure _

theorem waitJobExecution_isAside (fuel : Nat) (jobId : Text) :
    IsAside (waitJobExecution fuel jobId : PulserMethod Sequence Variables Unit) := by
  induction fuel with
  | zero =>
      intro before trace result after executes
      cases executes
  | succ fuel ih =>
      refine (isAside_ask (fun _ => rfl) fun _ => rfl).bind fun polled => ?_
      refine (isAside_ofExcept _).bind fun status => ?_
      split
      · exact isAside_pure _
      · exact (isAside_ask (fun _ => rfl) fun _ => rfl).bind fun _ => ih

theorem waitAll_isAside (fuel : Nat) (jobIds : List Text) :
    IsAside (waitAll fuel jobIds : PulserMethod Sequence Variables Unit) := by
  induction jobIds with
  | nil => exact isAside_pure _
  | cons jobId jobIds ih =>
      exact (waitJobExecution_isAside fuel jobId).bind fun _ => ih

/-- What is left of a pass: it starts one task or raises. -/
theorem startJob_spec {result : Except PythonError Text}
    (executes : (startJob library sequence params).Executes before trace result after) :
    (∃ taskId, result = .ok taskId ∧ started trace = [taskId] ∧ stopped trace = [] ∧
        after.currentBatchId = before.currentBatchId) ∨
      ∃ error, result = .error error ∧ Aside before trace after := by
  rcases Method.executes_bind_iff.mp executes with ⟨error, rfl, failed⟩ |
    ⟨building, rest, seqToSubmit, middle, rfl, built, executes⟩
  · exact .inr ⟨error, rfl, buildSequence_isAside failed⟩
  have aside := buildSequence_isAside built
  split at executes
  · obtain ⟨rfl, rfl, rfl⟩ := Method.executes_throw_iff.mp executes
    exact .inr ⟨_, rfl, aside.append (isAside_throw _ executes)⟩
  cases shown : library.toAbstractRepr seqToSubmit with
  | error error =>
      rw [shown, Method.executes_ofExcept_bind_error_iff] at executes
      obtain ⟨rfl, rfl, rfl⟩ := executes
      exact .inr ⟨error, rfl, by simpa using aside⟩
  | ok text =>
  rw [shown, Method.executes_ofExcept_bind_ok_iff] at executes
  cases counted : library.runs params with
  | error error =>
      rw [counted, Method.executes_ofExcept_bind_error_iff] at executes
      obtain ⟨rfl, rfl, rfl⟩ := executes
      exact .inr ⟨error, rfl, by simpa using aside⟩
  | ok runs =>
  rw [counted, Method.executes_ofExcept_bind_ok_iff] at executes
  obtain ⟨answer, rest, rfl, answered⟩ := Method.executes_question_bind_iff.mp executes
  cases answer with
  | error error =>
      rw [Method.executes_ofExcept_bind_error_iff] at answered
      obtain ⟨rfl, rfl, rfl⟩ := answered
      exact .inr ⟨error, rfl, aside.append ⟨rfl, rfl, rfl⟩⟩
  | ok taskId =>
      rw [Method.executes_ofExcept_bind_ok_iff, Method.executes_modify_bind_iff,
        Method.executes_pure_iff] at answered
      obtain ⟨rfl, rfl, rfl⟩ := answered
      refine .inl ⟨taskId, rfl, ?_, ?_, aside.sameBatch⟩
      · rw [started, List.filterMap_append]
        exact congrArg (· ++ [taskId]) aside.startsNone
      · rw [stopped, List.filterMap_append]
        exact congrArg (· ++ []) aside.stopsNone

/-- The loop keeps the last batch.  It returns the started tasks, one for each of the
job parameters, or raises before it has started as many. -/
theorem startJobs_spec {result : Except PythonError (List Text)}
    (executes : (startJobs library sequence jobParams).Executes before trace result after) :
    stopped trace = [] ∧ after.currentBatchId = before.currentBatchId ∧
      ((result = .ok (started trace) ∧ (started trace).length = jobParams.length) ∨
        ∃ error, result = .error error ∧ (started trace).length < jobParams.length) := by
  induction jobParams generalizing before trace result after with
  | nil =>
      obtain ⟨rfl, rfl, rfl⟩ := Method.executes_pure_iff.mp executes
      exact ⟨rfl, rfl, .inl ⟨rfl, rfl⟩⟩
  | cons params jobParams ih =>
      rcases Method.executes_bind_iff.mp executes with ⟨error, rfl, failed⟩ |
        ⟨first, rest, taskId, middle, rfl, ran, continued⟩
      · rcases startJob_spec failed with ⟨_, impossible, -⟩ | ⟨_, -, aside⟩
        · cases impossible
        · refine ⟨aside.stopsNone, aside.sameBatch, .inr ⟨error, rfl, ?_⟩⟩
          simp [aside.startsNone]
      rcases startJob_spec ran with ⟨_, same, startsOne, stopsNone, sameBatch⟩ |
        ⟨_, impossible, -⟩
      case inr => cases impossible
      cases same
      have startedRest : started (first ++ rest) = taskId :: started rest := by
        rw [started, List.filterMap_append]
        exact congrArg (· ++ started rest) startsOne
      have stoppedRest : stopped (first ++ rest) = stopped rest := by
        rw [stopped, List.filterMap_append]
        exact congrArg (· ++ stopped rest) stopsNone
      rw [startedRest, stoppedRest]
      rcases Method.executes_bind_iff.mp continued with ⟨error, rfl, failed⟩ |
        ⟨second, last, taskIds, final, rfl, looped, returned⟩
      · obtain ⟨stopsNone, batch, outcome⟩ := ih failed
        refine ⟨stopsNone, batch.trans sameBatch, .inr ⟨error, rfl, ?_⟩⟩
        rcases outcome with ⟨impossible, -⟩ | ⟨_, -, shorter⟩
        · cases impossible
        · simpa using shorter
      · obtain ⟨rfl, rfl, rfl⟩ := Method.executes_pure_iff.mp returned
        rw [List.append_nil] at *
        obtain ⟨stopsNone, batch, outcome⟩ := ih looped
        refine ⟨stopsNone, batch.trans sameBatch, .inl ?_⟩
        rcases outcome with ⟨same, sameLength⟩ | ⟨_, impossible, -⟩
        · cases same
          exact ⟨rfl, by simpa using sameLength⟩
        · cases impossible

/-- Recording a batch starts nothing, and an empty one is returned at once. -/
theorem recordBatch_spec {fuel : Nat} {jobIds : List Text}
    {result : Except PythonError RemoteResults}
    (executes : (recordBatch fuel wait jobIds).Executes before trace result after) :
    started trace = [] ∧ after.currentBatchId = some (batchIdFromJobIds jobIds) ∧
      (jobIds = [] → ∃ results, result = .ok results) := by
  rw [recordBatch, Method.executes_modify_bind_iff] at executes
  split at executes
  · have waits : IsAside (waitAll fuel jobIds >>= fun _ =>
        (pure { batchId := batchIdFromJobIds jobIds, jobIds := jobIds } :
          PulserMethod Sequence Variables RemoteResults)) :=
      (waitAll_isAside fuel jobIds).bind fun _ => isAside_pure _
    refine ⟨(waits executes).startsNone, (waits executes).sameBatch, ?_⟩
    rintro rfl
    rcases Method.executes_bind_iff.mp executes with ⟨error, -, failed⟩ |
      ⟨_, _, _, _, -, -, returned⟩
    · cases (Method.executes_pure_iff.mp failed).2.1
    · exact ⟨_, (Method.executes_pure_iff.mp returned).2.1⟩
  · obtain ⟨rfl, rfl, rfl⟩ := Method.executes_pure_iff.mp executes
    exact ⟨rfl, rfl, fun _ => ⟨_, rfl⟩⟩

/-- There are job parameters to submit, and either all of them are started or every
task that is started belongs already to the batch before. -/
def KeepsTrack (library : PulserLibrary Sequence Params Variables Device) (sequence : Sequence)
    (isOpen : Bool) (batchId : Option Text) (jobParams : List Params)
    (before : PulserQRMIConnection Sequence)
    (trace : List (PulserEvent Sequence Variables)) : Prop :=
  ∀ first second prepared, trace = first ++ second →
    (prepare library sequence isOpen batchId jobParams).Executes before first (.ok prepared)
      before →
    prepared.2 ≠ [] ∧ ((started second).length = prepared.2.length ∨
      ∀ taskId ∈ started second, ∃ jobIds,
        getJobIds before.currentBatchId = .ok jobIds ∧ taskId ∈ jobIds)

/-- Identifiers without a separator are read back from the identifier of their batch. -/
theorem getJobIds_batchIdFromJobIds {jobIds : List Text} (nonempty : jobIds ≠ [])
    (plain : ∀ jobId ∈ jobIds, '|' ∉ jobId) :
    getJobIds (some (batchIdFromJobIds jobIds)) = .ok jobIds :=
  congrArg Except.ok (List.splitOn_intercalate '|' plain nonempty)

/-- A submission keeps track of its tasks exactly when it has something to submit, and
nothing that was not in the batch before is started in front of an exception in the
loop. -/
theorem tracked_iff {fuel : Nat} {result : Except PythonError RemoteResults}
    (executes : (submit library fuel sequence wait isOpen batchId jobParams).Executes
      before trace result after)
    (plain : ∀ taskId ∈ started trace, '|' ∉ taskId) :
    Tracked trace result after ↔
      KeepsTrack library sequence isOpen batchId jobParams before trace := by
  rcases Method.executes_bind_iff.mp executes with ⟨error, rfl, failed⟩ |
    ⟨first, second, prepared, middle, rfl, ready, continued⟩
  · have nothing := (prepare_isAside failed).startsNone
    refine iff_of_true ⟨fun _ _ => by simp [nothing], nofun⟩ ?_
    rintro first second prepared rfl ready
    have whole : (first ++ second) ++ [] = first ++ second := List.append_nil _
    obtain ⟨-, -, impossible⟩ := Program.Runs.prefix_unique failed ready whole
    cases impossible
  obtain rfl := (prepare_isAside ready).unchanged
  have startedRest : started (first ++ second) = started second := by
    rw [started, List.filterMap_append]
    exact congrArg (· ++ started second) (prepare_isAside ready).startsNone
  have stoppedRest : stopped (first ++ second) = stopped second := by
    rw [stopped, List.filterMap_append]
    exact congrArg (· ++ stopped second) (prepare_isAside ready).stopsNone
  have condition : KeepsTrack library sequence isOpen batchId jobParams middle
        (first ++ second) ↔
      prepared.2 ≠ [] ∧ ((started second).length = prepared.2.length ∨
        ∀ taskId ∈ started second, ∃ jobIds,
          getJobIds middle.currentBatchId = .ok jobIds ∧ taskId ∈ jobIds) := by
    constructor
    · exact fun keeps => keeps first second prepared rfl ready
    · intro holds other rest otherPrepared same otherReady
      obtain ⟨rfl, rfl, equal⟩ := Program.Runs.prefix_unique ready otherReady same
      cases equal
      exact holds
  rw [condition]
  rw [startedRest] at plain
  rcases Method.executes_bind_iff.mp continued with ⟨error, rfl, failed⟩ |
    ⟨loop, last, jobIds, final, rfl, looped, recorded⟩
  · obtain ⟨stopsNone, sameBatch, ⟨impossible, -⟩ | ⟨_, -, shorter⟩⟩ := startJobs_spec failed
    · cases impossible
    have given : prepared.2 ≠ [] := by
      intro empty
      simp [empty] at shorter
    constructor
    · intro tracked
      refine ⟨given, .inr fun taskId member => ?_⟩
      have reached := tracked.raised error rfl taskId (by rwa [startedRest])
      rw [stoppedRest, stopsNone] at reached
      obtain ⟨jobIds, addresses, listed⟩ := reached.resolve_left (List.not_mem_nil)
      rw [addresses_iff, sameBatch] at addresses
      exact ⟨jobIds, addresses, listed⟩
    · rintro ⟨-, complete | listed⟩
      · omega
      · refine ⟨fun _ _ taskId member => .inr ?_, nofun⟩
        obtain ⟨jobIds, known, inBatch⟩ := listed taskId (by rwa [startedRest] at member)
        exact ⟨jobIds, addresses_iff.mpr (sameBatch ▸ known), inBatch⟩
  · obtain ⟨-, -, ⟨same, sameLength⟩ | ⟨_, impossible, -⟩⟩ := startJobs_spec looped
    case inr => cases impossible
    cases same
    obtain ⟨startsNone, batch, returnsEmpty⟩ := recordBatch_spec recorded
    have startedLoop : started (loop ++ last) = started loop := by
      rw [started, List.filterMap_append]
      exact (congrArg (started loop ++ ·) startsNone).trans (List.append_nil _)
    rw [startedLoop] at plain ⊢
    by_cases empty : started loop = []
    · have none : prepared.2 = [] :=
        List.eq_nil_of_length_eq_zero (by simpa [empty] using sameLength.symm)
      refine iff_of_false ?_ fun holds => holds.1 none
      intro tracked
      obtain ⟨results, rfl⟩ := returnsEmpty empty
      have addresses := tracked.returned results rfl
      rw [startedRest, startedLoop, empty, addresses_iff, batch, empty] at addresses
      cases addresses
    · have readBack := getJobIds_batchIdFromJobIds empty plain
      rw [← batch] at readBack
      have addresses : after.Addresses Variables (started loop) := addresses_iff.mpr readBack
      refine iff_of_true ⟨fun _ _ taskId member => .inr ⟨_, addresses, ?_⟩, fun _ _ => ?_⟩
        ⟨?_, .inl sameLength⟩
      · rwa [startedRest, startedLoop] at member
      · rwa [startedRest, startedLoop]
      · intro none
        rw [none] at sameLength
        exact empty (List.eq_nil_of_length_eq_zero sameLength)

end Submissions

/-- Sequences that need no build, and a resource without devices. -/
def builtLibrary : PulserLibrary Unit Int Unit Unit where
  addMeasurement := .ok
  makeJsonCompatible := .ok
  readDevices _ := .ok []
  sequenceDevice _ := []
  deviceName _ := []
  validateJobParams _ _ := .ok ()
  isParametrized _ := false
  isRegisterMappable _ := false
  toAbstractRepr _ := .ok "{}".toList
  variablesOf _ := ()
  runs := .ok

/-- A new connection. -/
def initial : PulserQRMIConnection Unit where
  taskSequences := .empty
  currentBatchId := none

/-- The connection after two tasks were started and recorded. -/
def submittedBoth : PulserQRMIConnection Unit where
  taskSequences := (KeyedStore.empty.insert "a".toList ()).insert "b".toList ()
  currentBatchId := some "a|b".toList

/-- What is exchanged by the submission of two jobs. -/
def twoJobs : List (PulserEvent Unit Unit) :=
  [⟨.target, .ok []⟩, ⟨.taskStart (.pasqalCloud "{}".toList 100), .ok "a".toList⟩,
    ⟨.taskStart (.pasqalCloud "{}".toList 200), .ok "b".toList⟩]

theorem tracked_of_twoJobs :
    Tracked twoJobs (.ok { batchId := "a|b".toList, jobIds := ["a".toList, "b".toList] })
      submittedBoth := by
  have prepared : (prepare builtLibrary () false none [100, 200]).Executes initial
      [⟨.target, .ok []⟩] (.ok ((), [100, 200])) initial := .ask (.done _)
  have executes : (submit builtLibrary 0 () false false none [100, 200]).Executes initial
      twoJobs (.ok { batchId := "a|b".toList, jobIds := ["a".toList, "b".toList] })
        submittedBoth :=
    .ask (.ask (.ask (.done _)))
  refine (tracked_iff executes (by decide)).mpr fun first second other same ready => ?_
  obtain ⟨rfl, rfl, equal⟩ := Program.Runs.prefix_unique prepared ready same
  cases equal
  exact ⟨by decide, .inl rfl⟩

/-- The second task is refused: the first one is left running, and nothing that the
connection offers addresses it. -/
theorem exists_submission_of_unreachable :
    ∃ (trace : List (PulserEvent Unit Unit)) (error : PythonError)
        (after : PulserQRMIConnection Unit),
      (submit builtLibrary 0 () false false none [100, 200]).Executes initial trace
          (.error error) after ∧
        started trace = ["a".toList] ∧ ¬ Tracked trace (.error error) after := by
  refine ⟨[⟨.target, .ok []⟩,
      ⟨.taskStart (.pasqalCloud "{}".toList 100), .ok "a".toList⟩,
      ⟨.taskStart (.pasqalCloud "{}".toList 200), .error (.runtimeError "refused")⟩],
    .runtimeError "refused",
    { taskSequences := KeyedStore.empty.insert "a".toList (), currentBatchId := none },
    .ask (.ask (.ask (.done _))), rfl, fun tracked => ?_⟩
  have reached := tracked.raised _ rfl "a".toList (List.mem_singleton.mpr rfl)
  obtain ⟨jobIds, addresses, -⟩ := reached.resolve_left (List.not_mem_nil)
  cases addresses_iff.mp addresses

end PulserQRMIConnection
