import Qrmi.BackendFilter
import Qrmi.ProcessEnvironment
import Qrmi.QuantumSystemResource

/-!
# The provider of the quantum system

`resources` lists the backends through the client of the provider, asks for the
configuration of those that the filter leaves, and constructs one resource for
each backend through the variables of the process.  Requests that the source
sends in parallel are sent one after another here.
-/

open Interaction

namespace QuantumSystem

inductive BackendStatus
  | online
  | offline
  | paused
  deriving DecidableEq

/-- The fields of a listed backend that the provider reads. -/
structure Backend where
  name : Text
  status : BackendStatus

namespace Client

open Method

section Reading

variable (codec : Codec) (fuel : Nat)

/-- A document that the client reads. -/
structure Fetch (α : Type) where
  parse : Text → Except String α
  url : Text
  resourceKind : ResourceKind

def getRequest (client : Client) (url : Text) : HttpRequest where
  method := .get
  url := url
  query := []
  headers := [("Accept", "application/json".toList), ("Service-CRN", client.serviceCrn)]
  authorization := .absent
  body := none

/-- What `get` makes of the outcome of its request. -/
def Fetch.read {α : Type} (fetch : Fetch α) (codec : Codec) :
    Outcome → Except QuantumSystemError α
  | .ok response =>
      if response.status.isSuccess then do
        let jsonText ← response.text.mapError .reqwest
        (fetch.parse jsonText).mapError .json
      else .error (.fromResponse codec response fetch.url fetch.resourceKind)
  | .error error => .error (.fromMiddlewareError error)

/-- `get`. -/
def get {α : Type} (fetch : Fetch α) : ClientMethod α := do
  let client ← self
  let outcome ← send codec fuel (client.getRequest fetch.url)
  ofExcept (fetch.read codec outcome)

/-- `list_backends`. -/
def listBackends (readBackends : Text → Except String (List Backend)) :
    ClientMethod (List Backend) := do
  let client ← self
  get codec fuel ⟨readBackends, client.baseUrl ++ "/v1/backends".toList, .other⟩

def backendUrl (client : Client) (backendName : Text) : Text :=
  client.baseUrl ++ "/v1/backends/".toList ++ backendName

/-- What `get_backend_configuration` reads. -/
def backendConfiguration (client : Client) (backendName : Text) : Fetch Json :=
  ⟨codec.json.parse, client.backendUrl backendName ++ "/configuration".toList, .backend⟩

/-- `get_backend_configuration`. -/
def getBackendConfiguration (backendName : Text) : ClientMethod Json := do
  let client ← self
  get codec fuel (client.backendConfiguration codec backendName)

end Reading

end Client

end QuantumSystem

open QuantumSystem

structure IBMQuantumSystemProvider where
  client : Client
  providerEnv : SettingsMap

/-- What `resources` works on: the client with its tokens, and the variables of the
process. -/
structure SystemListing where
  client : Client
  environment : Environment

namespace IBMQuantumSystemProvider

open Method

/-- `new`.  The client has neither a retry policy nor a bucket. -/
def new (iqpRetryPolicy : Bool) (environment : SettingsMap) :
    Except QrmiError IBMQuantumSystemProvider := do
  let get := fun (key : String) =>
    match environment.get key.toList with
    | some value => Except.ok value
    | none => .error (QrmiError.missingConfigKey key)
  let endpoint ← get "QRMI_IBM_QS_ENDPOINT"
  let apiKey ← get "QRMI_IBM_QS_IAM_APIKEY"
  let serviceCrn ← get "QRMI_IBM_QS_SERVICE_CRN"
  let iamEndpoint ← get "QRMI_IBM_QS_IAM_ENDPOINT"
  if isHeaderValue serviceCrn then
    return {
      client := {
        baseUrl := endpoint
        serviceCrn := serviceCrn
        tokenManager := .new (iamEndpoint ++ "/identity/token".toList) apiKey none
        retryPolicy := none
        iqpRetryPolicy := iqpRetryPolicy
        s3Config := none
        s3Bucket := none
        s3ConfigForQsapi := none }
      providerEnv := environment }
  else
    throw (.other "invalid header value: failed to parse header value")

section Listing

variable (codec : Codec) (fuel : Nat)

/-- The number of qubits is a `u64`. -/
def parseFilter (glob : GlobLibrary) : Text → Except QrmiError BackendFilter :=
  BackendFilter.parseWith glob (2 ^ 64)

/-- `matches_status`. -/
def matchesStatus (filter : BackendFilter) (backend : Backend) : Bool :=
  match filter.status with
  | .any => true
  | .online => backend.status = .online

/-- A call of the client, with its outcome as a value. -/
def attemptClient {α : Type} (method : ClientMethod α) :
    Method SystemAction SystemAction.Answer SystemListing Fault
      (Except QuantumSystemError α) :=
  (zoom SystemListing.client (fun listing client => { listing with client := client })
    method).attempt

/-- The configurations of the candidates, one request after another. -/
def fetchConfigurations : List Text →
    Method SystemAction SystemAction.Answer SystemListing Fault
      (List (Except QuantumSystemError Json))
  | [] => return []
  | name :: names => do
      let config ← attemptClient (Client.getBackendConfiguration codec fuel name)
      let configs ← fetchConfigurations names
      return config :: configs

/-- A candidate whose configuration could be read and passes the filter. -/
def selectCandidate (readConfiguration : Json → Except String BackendConfiguration)
    (filter : BackendFilter) (entry : Text × Except QuantumSystemError Json) :
    Option Text :=
  match entry.2 with
  | .error _ => none
  | .ok raw =>
      match readConfiguration raw with
      | .error _ => none
      | .ok config => if filter.matchesConfig config then some entry.1 else none

/-- The part of `resources` that talks to the service: the backends to construct,
in the order of the listing. -/
def selectBackends (glob : GlobLibrary)
    (readBackends : Text → Except String (List Backend))
    (readConfiguration : Json → Except String BackendConfiguration)
    (filters : Option Text) :
    Method SystemAction SystemAction.Answer SystemListing Fault (List Text) := do
  let filter ← ofExcept ((parseFilter glob (filters.getD [])).mapError .raised)
  let listed ← attemptClient (Client.listBackends codec fuel readBackends)
  let backends ← ofExcept
    (listed.mapError fun error => .raised error.toQrmiError)
  let candidates := ((backends.filter (matchesStatus filter)).filter
    fun backend => filter.matchesName backend.name).map Backend.name
  let configs ← fetchConfigurations codec fuel candidates
  return (candidates.zip configs).filterMap (selectCandidate readConfiguration filter)

/-- `resources`. -/
def resources (iqpRetryPolicy : Bool) (glob : GlobLibrary)
    (readBackends : Text → Except String (List Backend))
    (readConfiguration : Json → Except String BackendConfiguration)
    (providerEnv : SettingsMap) (filters : Option Text) :
    Method SystemAction SystemAction.Answer SystemListing Fault
      (List IBMQuantumSystem) := do
  let backendNames ←
    selectBackends codec fuel glob readBackends readConfiguration filters
  zoom SystemListing.environment
    (fun listing environment => { listing with environment := environment })
    (admitAll (IBMQuantumSystem.fromSettings iqpRetryPolicy) providerEnv backendNames)

end Listing

/-- The method does not touch the variables of the process. -/
def KeepsEnvironment {α : Type}
    (method : Method SystemAction SystemAction.Answer SystemListing Fault α) : Prop :=
  ∀ before trace result after, method.Executes before trace result after →
    after.environment = before.environment

section Rules

variable {α β : Type} {codec : Codec} {fuel : Nat}

theorem keepsEnvironment_pure (value : α) : KeepsEnvironment (pure value) := by
  intro before trace result after executes
  rw [(executes_pure_iff.mp executes).2.2]

theorem keepsEnvironment_ofExcept (outcome : Except Fault α) :
    KeepsEnvironment (ofExcept outcome) := by
  intro before trace result after executes
  rw [(executes_ofExcept_iff.mp executes).2.2]

theorem keepsEnvironment_attemptClient (method : ClientMethod α) :
    KeepsEnvironment (attemptClient method) := by
  intro before trace result after executes
  obtain ⟨outcome, -, zoomed⟩ := executes_attempt_iff.mp executes
  obtain ⟨client, rfl, -⟩ := executes_zoom_iff.mp zoomed
  rfl

theorem KeepsEnvironment.bind
    {method : Method SystemAction SystemAction.Answer SystemListing Fault α}
    {next : α → Method SystemAction SystemAction.Answer SystemListing Fault β}
    (first : KeepsEnvironment method) (second : ∀ value, KeepsEnvironment (next value)) :
    KeepsEnvironment (method >>= next) := by
  intro before trace result after executes
  rcases executes_bind_iff.mp executes with ⟨error, -, failed⟩ |
    ⟨_, _, value, middle, -, ran, continued⟩
  · exact first _ _ _ _ failed
  · exact (second value _ _ _ _ continued).trans (first _ _ _ _ ran)

theorem keepsEnvironment_fetchConfigurations (names : List Text) :
    KeepsEnvironment (fetchConfigurations codec fuel names) := by
  induction names with
  | nil => exact keepsEnvironment_pure _
  | cons name names ih =>
      exact (keepsEnvironment_attemptClient _).bind fun _ =>
        ih.bind fun _ => keepsEnvironment_pure _

theorem keepsEnvironment_selectBackends {glob : GlobLibrary}
    {readBackends : Text → Except String (List Backend)}
    {readConfiguration : Json → Except String BackendConfiguration}
    {filters : Option Text} :
    KeepsEnvironment
      (selectBackends codec fuel glob readBackends readConfiguration filters) := by
  refine (keepsEnvironment_ofExcept _).bind fun filter => ?_
  refine (keepsEnvironment_attemptClient _).bind fun listed => ?_
  refine (keepsEnvironment_ofExcept _).bind fun backends => ?_
  exact (keepsEnvironment_fetchConfigurations _).bind fun _ => keepsEnvironment_pure _

end Rules

/-- An execution of `resources` fails while it lists the backends, or it admits
those that it selected. -/
theorem resources_cases {codec : Codec} {fuel : Nat} {iqpRetryPolicy : Bool}
    {glob : GlobLibrary} {readBackends : Text → Except String (List Backend)}
    {readConfiguration : Json → Except String BackendConfiguration}
    {providerEnv : SettingsMap} {filters : Option Text} {before after : SystemListing}
    {trace : List SystemEvent} {result : Except Fault (List IBMQuantumSystem)}
    (executes : (resources codec fuel iqpRetryPolicy glob readBackends
      readConfiguration providerEnv filters).Executes before trace result after) :
    (∃ error, result = .error error ∧ after.environment = before.environment) ∨
      ∃ backendNames admitting, (admitAll
        (IBMQuantumSystem.fromSettings iqpRetryPolicy) providerEnv backendNames :
          Method SystemAction SystemAction.Answer Environment Fault
            (List IBMQuantumSystem)).Executes
          before.environment admitting result after.environment := by
  rcases executes_bind_iff.mp executes with ⟨error, rfl, failed⟩ |
    ⟨_, admitting, backendNames, middle, -, selected, continued⟩
  · exact .inl ⟨error, rfl, keepsEnvironment_selectBackends _ _ _ _ failed⟩
  · obtain ⟨environment, rfl, admitted⟩ := executes_zoom_iff.mp continued
    rw [keepsEnvironment_selectBackends _ _ _ _ selected] at admitted
    exact .inr ⟨backendNames, admitting, admitted⟩

end IBMQuantumSystemProvider
