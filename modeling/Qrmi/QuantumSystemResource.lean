import Qrmi.QuantumSystemClient
import Qrmi.ResourceSettings

/-!
# The quantum system resource

`IBMQuantumSystem` builds its client from settings once and reads the job timeout
again whenever a task is started.
-/

open Interaction
open QuantumSystem

structure IBMQuantumSystem where
  apiClient : Client
  backendName : Text
  settings : SettingsSource

/-- A method of the resource. -/
abbrev SystemMethod (α : Type) : Type :=
  Method SystemAction SystemAction.Answer IBMQuantumSystem QrmiError α

namespace IBMQuantumSystem

open Method

/-- `Settings::key`. -/
def settingKey (settings : SettingsSource) (resourceId : Text) (name : String) :
    Text :=
  settings.prefixOf resourceId ++ name.toList

/-- `Settings::require`. -/
def requireSetting (settings : SettingsSource) (resourceId : Text) (name : String) :
    Except QrmiError Text :=
  settings.resolveOptRequired (settingKey settings resourceId name)

/-- `s3_env`: the bucket and how to connect to it. -/
def s3Env (settings : SettingsSource) (resourceId : Text) :
    Except QrmiError (Text × S3Config) := do
  let bucket ← requireSetting settings resourceId "QRMI_IBM_QS_S3_BUCKET"
  let endpoint ← requireSetting settings resourceId "QRMI_IBM_QS_S3_ENDPOINT"
  let accessKeyId ←
    requireSetting settings resourceId "QRMI_IBM_QS_AWS_ACCESS_KEY_ID"
  let secretAccessKey ←
    requireSetting settings resourceId "QRMI_IBM_QS_AWS_SECRET_ACCESS_KEY"
  let region ← requireSetting settings resourceId "QRMI_IBM_QS_S3_REGION"
  return (bucket, ⟨endpoint, region, accessKeyId, secretAccessKey⟩)

/-- The number of retries that a resource configures. -/
def MAX_RETRIES : Nat := 5

/-- `from_settings`.  `iqpRetryPolicy` says how the client was compiled. -/
def fromSettings (iqpRetryPolicy : Bool) (resourceId : Text)
    (settings : SettingsSource) : Except QrmiError IBMQuantumSystem := do
  let endpoint ← requireSetting settings resourceId "QRMI_IBM_QS_ENDPOINT"
  let apiKey ← requireSetting settings resourceId "QRMI_IBM_QS_IAM_APIKEY"
  let serviceCrn ← requireSetting settings resourceId "QRMI_IBM_QS_SERVICE_CRN"
  let iamEndpoint ← requireSetting settings resourceId "QRMI_IBM_QS_IAM_ENDPOINT"
  let endpointForQsapi := settings.resolveOpt
    (settingKey settings resourceId "QRMI_IBM_QS_S3_ENDPOINT_FOR_QSAPI")
  let s3 := (s3Env settings resourceId).toOption
  if isHeaderValue serviceCrn then
    return {
      apiClient := {
        baseUrl := endpoint
        serviceCrn := serviceCrn
        tokenManager := .new (iamEndpoint ++ "/identity/token".toList) apiKey
          (some ⟨some MAX_RETRIES⟩)
        retryPolicy := some ⟨some MAX_RETRIES⟩
        iqpRetryPolicy := iqpRetryPolicy
        s3Config := s3.map Prod.snd
        s3Bucket := s3.map Prod.fst
        s3ConfigForQsapi := do
          let (_, config) ← s3
          let endpoint ← endpointForQsapi
          return { config with endpoint := endpoint } }
      backendName := resourceId
      settings := settings }
  else
    throw (.other "invalid header value: failed to parse header value")

/-- The job timeout that `task_start` reads. -/
def jobTimeout (system : IBMQuantumSystem) : Except QrmiError Nat := do
  let timeout ←
    requireSetting system.settings system.backendName "QRMI_JOB_TIMEOUT_SECONDS"
  match Text.parseUnsigned (2 ^ 64) timeout with
  | some seconds => return seconds
  | none => throw (.parseError
      (String.ofList
        (settingKey system.settings system.backendName "QRMI_JOB_TIMEOUT_SECONDS"))
      (String.ofList timeout))

/-- The input document and the program of a payload. -/
def readPayload (json : JsonLibrary) (payload : Payload) :
    Except QrmiError (Json × ProgramId) :=
  match payload with
  | .qiskitPrimitive input programId => do
      let jobInput ← (json.parse input).mapError .invalidJson
      match ProgramId.fromStr programId with
      | some program => return (jobInput, program)
      | none => throw (.ibm (.unknownProgramId (String.ofList programId)))
  | other => throw (.unsupportedPayload other.debug)

def withClient (system : IBMQuantumSystem) (client : Client) : IBMQuantumSystem :=
  { system with apiClient := client }

/-- A call of the client, with its error translated. -/
def callClient {α : Type} (method : ClientMethod α) : SystemMethod α := do
  let outcome ← (zoom apiClient withClient method).attempt
  ofExcept (outcome.mapError QuantumSystemError.toQrmiError)

/-- `task_start`. -/
def taskStart (codec : Codec) (fuel : Nat) (payload : Payload) :
    SystemMethod Text := do
  let system ← self
  let timeoutSecs ← ofExcept system.jobTimeout
  let (jobInput, programId) ← ofExcept (readPayload codec.json payload)
  callClient (Client.runPrimitive codec fuel system.backendName programId timeoutSecs
    .debug jobInput none)

end IBMQuantumSystem
