import Qrmi.BackendFilter
import Qrmi.ProcessEnvironment
import Qrmi.QuantumComputeService

/-!
# The provider of the quantum compute service

`resources` lists the backends of an account, asks for the status and the
configuration of those that the filter leaves, and constructs one resource for
each backend through the variables of the process.  Requests that the source
sends in parallel are sent one after another here; each is a single request, and
its reply is kept with its backend.
-/

open Interaction
open QuantumCompute

structure IBMQuantumComputeServiceProvider where
  config : Configuration
  apiKey : Text
  iamEndpoint : Text
  providerEnv : SettingsMap

namespace IBMQuantumComputeServiceProvider

open Method

/-- `new`. -/
def new (environment : SettingsMap) :
    Except QrmiError IBMQuantumComputeServiceProvider := do
  let get := fun (key : String) =>
    match environment.get key.toList with
    | some value => Except.ok value
    | none => .error (QrmiError.missingConfigKey key)
  let qrsEndpoint ← get "QRMI_IBM_QCS_ENDPOINT"
  let iamEndpoint ← get "QRMI_IBM_QCS_IAM_ENDPOINT"
  let apiKey ← get "QRMI_IBM_QCS_IAM_APIKEY"
  let serviceCrn ← get "QRMI_IBM_QCS_SERVICE_CRN"
  return {
    config := { Configuration.new with
      basePath := qrsEndpoint
      bearerAccessToken := none
      crn := some serviceCrn }
    apiKey := apiKey
    iamEndpoint := iamEndpoint
    providerEnv := environment }

section Listing

variable (codec : Codec)

/-- The number of qubits is a `u32`. -/
def parseFilter (glob : GlobLibrary) : Text → Except QrmiError BackendFilter :=
  BackendFilter.parseWith glob (2 ^ 32)

/-- `matches_device`. -/
def matchesDevice (filter : BackendFilter) (device : Device) : Bool :=
  device.isSimulator.getD false = filter.isSimulator

/-- `is_online_status`. -/
def isOnlineStatus (status : Text) : Bool :=
  codec.toLowercase status = "active".toList || codec.toLowercase status = "online".toList

/-- `is_backend_online`. -/
def isBackendOnline (config : Configuration) (name : Text) : WebProgram Bool := do
  match ← getBackendStatus codec config name with
  | .ok response => return (response.status.map (isOnlineStatus codec)).getD false
  | .error _ => return false

/-- `check_token` with a fresh expiration and lifetime of zero. -/
def renewToken (provider : IBMQuantumComputeServiceProvider) :
    WebProgram (Except QrmiError Configuration) := do
  let now ← Program.question .now
  if 0 < now + max 360 (0 / 10) then
    let reply ← Program.question
      (.postForm (tokenUrl provider.iamEndpoint) (tokenForm provider.apiKey))
    match readTokenReply codec reply with
    | some granted =>
        let config :=
          { provider.config with bearerAccessToken := some granted.accessToken }
        return .ok config
    | none => return .error (.other "token renewal failed")
  else return .ok provider.config

/-- `join_all`, one request after another. -/
def joinAll {α : Type} : List (WebProgram α) → WebProgram (List α)
  | [] => return []
  | program :: programs => do
      let value ← program
      let values ← joinAll programs
      return value :: values

/-- The candidates that the status filter leaves. -/
def checkStatuses (config : Configuration) (filter : BackendFilter)
    (candidates : List Device) : WebProgram (List Device) :=
  if filter.status = .online then do
    let results ← joinAll (candidates.map fun device =>
      isBackendOnline codec config device.name)
    return (candidates.zip results).filterMap fun entry =>
      if entry.2 then some entry.1 else none
  else return candidates

/-- The backend of a candidate whose configuration could be read and passes the
filter. -/
def selectDevice (readConfiguration : Json → Except String BackendConfiguration)
    (filter : BackendFilter) (entry : Device × Except ApiError Json) : Option Text :=
  match entry.2 with
  | .error _ => none
  | .ok raw =>
      match readConfiguration raw with
      | .error _ => none
      | .ok config => if filter.matchesConfig config then some entry.1.name else none

/-- The part of `resources` that talks to the service: the backends to construct,
in the order of their queues. -/
def selectBackends (glob : GlobLibrary)
    (readConfiguration : Json → Except String BackendConfiguration)
    (provider : IBMQuantumComputeServiceProvider) (filters : Option Text) :
    WebProgram (Except QrmiError (List Text)) :=
  match parseFilter glob (filters.getD []) with
  | .error error => return .error error
  | .ok filter =>
      (renewToken codec provider).tryThen fun config => do
        let reply ← Program.question
          (.send (listBackendsRequest config (some "2025-01-01")))
        match readBackendsReply codec reply with
        | .error _ => return .error (.other "failed to list backends")
        | .ok response =>
            let listed := (response.devices.getD []).filter (matchesDevice filter)
            let named := listed.filter fun device => filter.matchesName device.name
            let candidates ← checkStatuses codec config filter named
            let configs ← joinAll (candidates.map fun device =>
              getBackendConfiguration codec config (some "2025-01-01") device.name)
            let sorted := (candidates.zip configs).mergeSort fun first second =>
              first.1.queueLength ≤ second.1.queueLength
            return .ok (sorted.filterMap (selectDevice readConfiguration filter))

/-- `resources`. -/
def resources (glob : GlobLibrary)
    (readConfiguration : Json → Except String BackendConfiguration)
    (provider : IBMQuantumComputeServiceProvider) (filters : Option Text) :
    Method WebAction WebAction.Answer Environment Fault
      (List IBMQuantumComputeService) := do
  let selected ← lift
    (selectBackends codec glob readConfiguration provider filters)
  let backendNames ← ofExcept (selected.mapError .raised)
  admitAll IBMQuantumComputeService.fromOpt provider.providerEnv backendNames

end Listing

/-- An execution of `resources` fails while it lists the backends, or it admits
those that it selected. -/
theorem resources_cases {codec : Codec} {glob : GlobLibrary}
    {readConfiguration : Json → Except String BackendConfiguration}
    {provider : IBMQuantumComputeServiceProvider} {filters : Option Text}
    {before after : Environment} {trace : List WebEvent}
    {result : Except Fault (List IBMQuantumComputeService)}
    (executes : (resources codec glob readConfiguration provider filters).Executes
      before trace result after) :
    (∃ error, result = .error error ∧ after = before) ∨
      ∃ backendNames admitting, (admitAll IBMQuantumComputeService.fromOpt
        provider.providerEnv backendNames :
          Method WebAction WebAction.Answer Environment Fault
            (List IBMQuantumComputeService)).Executes before admitting result after := by
  rcases executes_bind_iff.mp executes with ⟨error, -, failed⟩ |
    ⟨_, _, selected, middle, -, listed, continued⟩
  · obtain ⟨_, -, equal, -⟩ := executes_lift_iff.mp failed
    cases equal
  · obtain ⟨_, -, -, rfl⟩ := executes_lift_iff.mp listed
    rcases executes_bind_iff.mp continued with ⟨error, rfl, failed⟩ |
      ⟨_, admitting, backendNames, _, -, chosen, admitted⟩
    · exact .inl ⟨error, rfl, (executes_ofExcept_iff.mp failed).2.2⟩
    · obtain ⟨-, -, rfl⟩ := executes_ofExcept_iff.mp chosen
      exact .inr ⟨backendNames, admitting, admitted⟩

end IBMQuantumComputeServiceProvider
