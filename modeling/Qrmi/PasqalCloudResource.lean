import Qrmi.KeyedStore
import Qrmi.PasqalCloudClient

/-!
# The Pasqal Cloud resource

Submission and results of `PasqalCloud`.  Every error of the client below is an
`anyhow` error.
-/

open Interaction

inductive PasqalTaskKind
  | pulser
  | cudaq
  deriving DecidableEq

structure PasqalCloudResource (HeaderValue : Type) where
  apiClient : PasqalCloud.Client HeaderValue
  backendName : Text
  taskKinds : KeyedStore Text PasqalTaskKind

namespace PasqalCloudResource

open Method PasqalCloud

/-- What the resource calls of other libraries. -/
structure Library (HeaderValue : Type) extends CloudLibrary HeaderValue where
  parseValue : Text → Except String Json
  toUppercase : Text → Text

abbrev ResourceMethod (HeaderValue α : Type) : Type :=
  Method (CloudAction HeaderValue) CloudAction.Answer (PasqalCloudResource HeaderValue)
    QrmiError α

section Operations

variable {HeaderValue : Type} (library : Library HeaderValue)

/-- An error of the client, as the resource returns it. -/
def clientError : CloudError → QrmiError
  | .auth error => .other error.display
  | .message text => .other text

/-- Call the client. -/
def client {α : Type} (method : CloudMethod HeaderValue α) : ResourceMethod HeaderValue α := do
  let outcome ← zoom PasqalCloudResource.apiClient
    (fun resource apiClient => { resource with apiClient := apiClient }) method.attempt
  ofExcept (outcome.mapError clientError)

/-- `DeviceType::from_str`. -/
def parseDevice (name : Text) : Option DeviceType :=
  let upper := library.toUppercase name
  if upper = "FRESNEL".toList then some .fresnel
  else if upper = "FRESNEL_CAN1".toList then some .fresnelCan1
  else if upper = "EMU_MPS".toList then some .emuMps
  else if upper = "EMU_FRESNEL".toList then some .emuFresnel
  else if upper = "EMU_FREE".toList then some .emuFree
  else none

/-- `parse_device_type`. -/
def parseDeviceType (backendName : Text) : Except QrmiError DeviceType :=
  match parseDevice library backendName with
  | some deviceType => .ok deviceType
  | none => .error (.pasqal (.invalidDeviceType
      (s!"device '{String.ofList backendName}' is invalid. Valid devices: " ++
        "FRESNEL, FRESNEL_CAN1, EMU_MPS, EMU_FREE, EMU_FRESNEL")))

/-- `is_cudaq_sequence`. -/
def isCudaqSequence (sequence : Text) : Bool :=
  match library.parseValue sequence with
  | .error _ => false
  | .ok value => (value.member? "setup").isSome && (value.member? "hamiltonian").isSome

/-- Remember the kind of a created task. -/
def remember (taskId : Text) (kind : PasqalTaskKind) : ResourceMethod HeaderValue Text := do
  modify fun resource =>
    { resource with taskKinds := resource.taskKinds.insert taskId kind }
  return taskId

/-- `task_start`. -/
def taskStart (payload : Payload) : ResourceMethod HeaderValue Text := do
  match payload with
  | .pasqalCloud sequence jobRuns =>
      let resource ← self
      let deviceType ← ofExcept (parseDeviceType library resource.backendName)
      if isCudaqSequence library sequence then
        let sequenceValue ← ofExcept ((library.parseValue sequence).mapError fun err =>
          .pasqal (.invalidCudaqSequence err))
        let job ← client
          (Client.createCudaqJob library.toCloudLibrary sequenceValue jobRuns deviceType)
        remember job.data.id .cudaq
      else
        let batch ← client
          (Client.createBatch library.toCloudLibrary sequence jobRuns deviceType)
        remember batch.data.id .pulser
  | other => throw (.unsupportedPayload other.debug)

/-- The counter in the document of `normalize_cudaq_result`. -/
def normalizedCounter (result : Json) : Json :=
  let counter := (result.member? "counter").getD result
  match counter with
  | .object counterObj =>
      if counterObj.all fun entry => entry.2.isNumber then counter
      else
        match counterObj with
        | [(_, nested)] =>
            match (nested.member? "counter").filter Json.isObject with
            | some value => value
            | none => if nested.isObject then nested else counter
        | _ => counter
  | _ => counter

/-- The document that `normalize_cudaq_result` serialises. -/
def normalizedResult (result : Json) : Json :=
  .object [("counter".toList, normalizedCounter result)]

/-- `normalize_cudaq_result`. -/
def normalizeCudaqResult (result : Json) : Text :=
  library.dump (normalizedResult result)

/-- `task_kind`: a task that was not started here is taken for a batch. -/
def taskKind (resource : PasqalCloudResource HeaderValue) (taskId : Text) : PasqalTaskKind :=
  (resource.taskKinds.get taskId).getD .pulser

/-- `task_result_from_cudaq`. -/
def taskResultFromCudaq (taskId : Text) : ResourceMethod HeaderValue Text := do
  let job ← client (Client.getCudaqJob library.toCloudLibrary taskId)
  return normalizeCudaqResult library job.data.result

/-- `task_result`. -/
def taskResult (taskId : Text) : ResourceMethod HeaderValue Text := do
  let resource ← self
  match resource.taskKind taskId with
  | .pulser => client (Client.getBatchResults library.toCloudLibrary taskId)
  | .cudaq => taskResultFromCudaq library taskId

end Operations

section Executions

variable {HeaderValue : Type}

theorem executes_client_iff {α : Type} {method : PasqalCloud.CloudMethod HeaderValue α}
    {before after : PasqalCloudResource HeaderValue}
    {trace : List (PasqalCloud.CloudEvent HeaderValue)} {result : Except QrmiError α} :
    (client method).Executes before trace result after ↔
      ∃ outcome apiClient, method.Executes before.apiClient trace outcome apiClient ∧
        result = outcome.mapError clientError ∧
        after = { before with apiClient := apiClient } := by
  unfold client
  rw [Method.executes_bind_iff]
  constructor
  · rintro (⟨error, rfl, failed⟩ | ⟨first, rest, outcome, middle, rfl, attempted, returned⟩)
    · obtain ⟨_, -, inside⟩ := Method.executes_zoom_iff.mp failed
      obtain ⟨_, impossible, -⟩ := Method.executes_attempt_iff.mp inside
      cases impossible
    · obtain ⟨apiClient, unchanged, inside⟩ := Method.executes_zoom_iff.mp attempted
      obtain ⟨_, equal, executes⟩ := Method.executes_attempt_iff.mp inside
      cases equal
      subst unchanged
      obtain ⟨rfl, rfl, rfl⟩ := Method.executes_ofExcept_iff.mp returned
      rw [List.append_nil]
      exact ⟨outcome, apiClient, executes, rfl, rfl⟩
  · rintro ⟨outcome, apiClient, executes, rfl, rfl⟩
    refine .inr ⟨trace, [], outcome, { before with apiClient := apiClient },
      (List.append_nil _).symm, ?_, Method.executes_ofExcept_iff.mpr ⟨rfl, rfl, rfl⟩⟩
    exact Method.executes_zoom_iff.mpr ⟨apiClient, rfl,
      Method.executes_attempt_iff.mpr ⟨outcome, rfl, executes⟩⟩

end Executions

end PasqalCloudResource
