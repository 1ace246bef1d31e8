import Qrmi.ProviderProcess
import Qrmi.QuantumComputeProvider
import Qrmi.QuantumSystemProvider

/-!
# Isolation of the settings of two accounts

The compute service reads all its settings when a resource is constructed; the
quantum system reads the timeout of a job when the job is started.  Both are types
of provider whose resources are isolated as long as nothing writes a variable that
their own provider leaves alone.
-/

open Interaction

section Resolution

variable {name key : Text} {settings : SettingsMap} {environment : Environment}

/-- A variable that holds what the map says is resolved as in the map alone. -/
theorem resolveOpt_alone
    (agrees : environment (settingVariable name key) = settings.get key) :
    (SettingsSource.environment environment).resolveOpt (name ++ ['_'] ++ key) =
      (SettingsSource.environment (settings.alone name)).resolveOpt
        (name ++ ['_'] ++ key) :=
  agrees.trans (settings.alone_settingVariable name key).symm

theorem resolveOptRequired_alone
    (agrees : environment (settingVariable name key) = settings.get key) :
    (SettingsSource.environment environment).resolveOptRequired (name ++ ['_'] ++ key) =
      (SettingsSource.environment (settings.alone name)).resolveOptRequired
        (name ++ ['_'] ++ key) := by
  rw [SettingsSource.resolveOptRequired, resolveOpt_alone agrees]
  rfl

end Resolution

namespace IBMQuantumComputeService

/-- The second of two settings is only asked for if the first is missing. -/
def alternativeKeys (settings : SettingsMap) (first second : String) : List String :=
  if (settings.get first.toList).isSome then [first] else [first, second]

/-- The settings that `from_opt` asks for. -/
def settingKeys (settings : SettingsMap) : List String :=
  ["QRMI_IBM_QCS_ENDPOINT", "QRMI_IBM_QCS_IAM_ENDPOINT", "QRMI_IBM_QCS_IAM_APIKEY",
    "QRMI_IBM_QCS_SERVICE_CRN", "QRMI_IBM_QCS_SESSION_MODE",
    "QRMI_IBM_QCS_SESSION_MAX_TTL"] ++
    alternativeKeys settings "QRMI_IBM_QCS_TIMEOUT_SECONDS"
      "QRMI_JOB_TIMEOUT_SECONDS" ++
    alternativeKeys settings "QRMI_IBM_QCS_SESSION_ID" "QRMI_JOB_ACQUISITION_TOKEN"

/-- A setting with an alternative is resolved as in the map alone. -/
theorem alternative_alone {name : Text} {settings : SettingsMap}
    {environment : Environment} {first second : String}
    (agrees : ∀ key ∈ alternativeKeys settings first second,
      environment (settingVariable name key.toList) = settings.get key.toList) :
    ((SettingsSource.environment environment).resolveOpt
        (name ++ ['_'] ++ first.toList)).or
      ((SettingsSource.environment environment).resolveOpt
        (name ++ ['_'] ++ second.toList)) =
    ((SettingsSource.environment (settings.alone name)).resolveOpt
        (name ++ ['_'] ++ first.toList)).or
      ((SettingsSource.environment (settings.alone name)).resolveOpt
        (name ++ ['_'] ++ second.toList)) := by
  by_cases present : (settings.get first.toList).isSome
  · rw [alternativeKeys, if_pos present] at agrees
    have held := agrees first (List.mem_singleton_self _)
    obtain ⟨value, stored⟩ := Option.isSome_iff_exists.mp present
    have resolved : (SettingsSource.environment (settings.alone name)).resolveOpt
        (name ++ ['_'] ++ first.toList) = some value :=
      (settings.alone_settingVariable name first.toList).trans stored
    rw [resolveOpt_alone held, resolved]
    rfl
  · rw [alternativeKeys, if_neg present] at agrees
    rw [resolveOpt_alone (agrees first (List.mem_cons_self ..)),
      resolveOpt_alone (agrees second (by simp))]

theorem fromOpt_alone {name : Text} {settings : SettingsMap} {environment : Environment}
    (agrees : ∀ key ∈ settingKeys settings,
      environment (settingVariable name key.toList) = settings.get key.toList) :
    fromOpt name (.environment environment) =
      fromOpt name (.environment (settings.alone name)) := by
  rw [settingKeys, List.forall_mem_append, List.forall_mem_append] at agrees
  obtain ⟨⟨plain, timeout⟩, session⟩ := agrees
  have resolve := fun key member => resolveOpt_alone (plain key member)
  have require := fun key member => resolveOptRequired_alone (plain key member)
  simp (disch := decide) only [fromOpt, SettingsSource.prefixOf,
    alternative_alone timeout, alternative_alone session, resolve, require]

end IBMQuantumComputeService

namespace IBMQuantumSystem

/-- Settings that are asked for in turn, up to the first one that is missing. -/
def keysInTurn (settings : SettingsMap) : List String → List String
  | [] => []
  | key :: keys =>
      if (settings.get key.toList).isSome then key :: keysInTurn settings keys
      else [key]

theorem mem_keysInTurn (settings : SettingsMap) (key : String) (keys : List String) :
    key ∈ keysInTurn settings (key :: keys) := by
  rw [keysInTurn]
  split
  · exact List.mem_cons_self ..
  · exact List.mem_singleton_self _

/-- The settings that `from_settings` asks for.  The address that the service uses
for the bucket matters only if there is a bucket. -/
def settingKeys (settings : SettingsMap) : List String :=
  ["QRMI_IBM_QS_ENDPOINT", "QRMI_IBM_QS_IAM_APIKEY", "QRMI_IBM_QS_SERVICE_CRN",
    "QRMI_IBM_QS_IAM_ENDPOINT"] ++
    keysInTurn settings
      ["QRMI_IBM_QS_S3_BUCKET", "QRMI_IBM_QS_S3_ENDPOINT",
        "QRMI_IBM_QS_AWS_ACCESS_KEY_ID", "QRMI_IBM_QS_AWS_SECRET_ACCESS_KEY",
        "QRMI_IBM_QS_S3_REGION", "QRMI_IBM_QS_S3_ENDPOINT_FOR_QSAPI"]

/-- What the settings made of a resource. -/
def setup (system : IBMQuantumSystem) : QuantumSystem.Client × Text :=
  (system.apiClient, system.backendName)

/-- Settings that come from the variables of the process are those of the
moment. -/
def inEnvironment (environment : Environment) (system : IBMQuantumSystem) :
    IBMQuantumSystem :=
  match system.settings with
  | .environment _ => { system with settings := .environment environment }
  | .config _ => system

/-- What the settings say about the bucket. -/
def bucketSettings (settings : SettingsSource) (resourceId : Text) :
    Option ((Text × QuantumSystem.S3Config) × Option Text) :=
  (s3Env settings resourceId).toOption.map fun s3 =>
    (s3, settings.resolveOpt
      (settingKey settings resourceId "QRMI_IBM_QS_S3_ENDPOINT_FOR_QSAPI"))

/-- The first of several settings is missing in the map, or it is read and the
others follow. -/
theorem requireSetting_inTurn {name : Text} {settings : SettingsMap}
    {environment : Environment} {key : String} {keys : List String}
    (agrees : ∀ asked ∈ keysInTurn settings (key :: keys),
      environment (settingVariable name asked.toList) = settings.get asked.toList) :
    (∃ error, requireSetting (.environment environment) name key = .error error ∧
        requireSetting (.environment (settings.alone name)) name key = .error error) ∨
      (∃ value, requireSetting (.environment environment) name key = .ok value ∧
        requireSetting (.environment (settings.alone name)) name key = .ok value) ∧
        ∀ asked ∈ keysInTurn settings keys,
          environment (settingVariable name asked.toList) =
            settings.get asked.toList := by
  have held := agrees key (mem_keysInTurn settings key keys)
  have same : requireSetting (.environment environment) name key =
      requireSetting (.environment (settings.alone name)) name key :=
    resolveOptRequired_alone held
  rw [same]
  have resolved : (SettingsSource.environment (settings.alone name)).resolveOpt
      (settingKey (.environment (settings.alone name)) name key) =
        settings.get key.toList :=
    settings.alone_settingVariable name key.toList
  rw [requireSetting, SettingsSource.resolveOptRequired, resolved]
  cases stored : settings.get key.toList with
  | none => exact .inl ⟨_, rfl, rfl⟩
  | some value =>
      refine .inr ⟨⟨value, rfl, rfl⟩, fun asked member => agrees asked ?_⟩
      rw [keysInTurn, stored]
      exact List.mem_cons_of_mem _ member

theorem bucketSettings_alone {name : Text} {settings : SettingsMap}
    {environment : Environment}
    (agrees : ∀ key ∈ keysInTurn settings
      ["QRMI_IBM_QS_S3_BUCKET", "QRMI_IBM_QS_S3_ENDPOINT",
        "QRMI_IBM_QS_AWS_ACCESS_KEY_ID", "QRMI_IBM_QS_AWS_SECRET_ACCESS_KEY",
        "QRMI_IBM_QS_S3_REGION", "QRMI_IBM_QS_S3_ENDPOINT_FOR_QSAPI"],
      environment (settingVariable name key.toList) = settings.get key.toList) :
    bucketSettings (.environment environment) name =
      bucketSettings (.environment (settings.alone name)) name := by
  rw [bucketSettings, bucketSettings, s3Env, s3Env]
  rcases requireSetting_inTurn agrees with ⟨error, found, alone⟩ |
    ⟨⟨bucket, found, alone⟩, agrees⟩
  · rw [found, alone]
    rfl
  rw [found, alone]
  rcases requireSetting_inTurn agrees with ⟨error, found, alone⟩ |
    ⟨⟨endpoint, found, alone⟩, agrees⟩
  · rw [found, alone]
    rfl
  rw [found, alone]
  rcases requireSetting_inTurn agrees with ⟨error, found, alone⟩ |
    ⟨⟨accessKeyId, found, alone⟩, agrees⟩
  · rw [found, alone]
    rfl
  rw [found, alone]
  rcases requireSetting_inTurn agrees with ⟨error, found, alone⟩ |
    ⟨⟨secretAccessKey, found, alone⟩, agrees⟩
  · rw [found, alone]
    rfl
  rw [found, alone]
  rcases requireSetting_inTurn agrees with ⟨error, found, alone⟩ |
    ⟨⟨region, found, alone⟩, agrees⟩
  · rw [found, alone]
    rfl
  rw [found, alone]
  have remote : (SettingsSource.environment environment).resolveOpt
      (settingVariable name "QRMI_IBM_QS_S3_ENDPOINT_FOR_QSAPI".toList) =
        (SettingsSource.environment (settings.alone name)).resolveOpt
          (settingVariable name "QRMI_IBM_QS_S3_ENDPOINT_FOR_QSAPI".toList) := by
    apply resolveOpt_alone
    exact agrees _ (mem_keysInTurn settings _ [])
  exact congrArg (fun last => some ((_, _), last)) remote

theorem fromSettings_alone {iqpRetryPolicy : Bool} {name : Text}
    {settings : SettingsMap} {environment : Environment}
    (agrees : ∀ key ∈ settingKeys settings,
      environment (settingVariable name key.toList) = settings.get key.toList) :
    (fromSettings iqpRetryPolicy name (.environment environment)).map setup =
      (fromSettings iqpRetryPolicy name (.environment (settings.alone name))).map
        setup := by
  rw [settingKeys, List.forall_mem_append] at agrees
  obtain ⟨plain, bucket⟩ := agrees
  have require := fun key member => resolveOptRequired_alone (plain key member)
  have same := bucketSettings_alone bucket
  simp (disch := decide) only [fromSettings, requireSetting, settingKey,
    SettingsSource.prefixOf, require, Except.map_bind]
  refine congrArg _ (funext fun endpoint => ?_)
  refine congrArg _ (funext fun apiKey => ?_)
  refine congrArg _ (funext fun serviceCrn => ?_)
  refine congrArg _ (funext fun iamEndpoint => ?_)
  rw [bucketSettings, bucketSettings] at same
  split
  · cases first : (s3Env (.environment environment) name).toOption with
    | none =>
        cases second : (s3Env (.environment (settings.alone name)) name).toOption with
        | none => rfl
        | some s3 =>
            rw [first, second] at same
            cases same
    | some s3 =>
        cases second : (s3Env (.environment (settings.alone name)) name).toOption with
        | none =>
            rw [first, second] at same
            cases same
        | some other =>
            rw [first, second] at same
            obtain ⟨rfl, remote⟩ := Prod.mk.inj (Option.some.inj same)
            simp only [settingKey, SettingsSource.prefixOf] at remote
            rw [remote]
            rfl
  · rfl

theorem jobTimeout_congr {system : IBMQuantumSystem} {first second : Environment}
    (agree : first (settingVariable system.backendName
        "QRMI_JOB_TIMEOUT_SECONDS".toList) =
      second (settingVariable system.backendName
        "QRMI_JOB_TIMEOUT_SECONDS".toList)) :
    (system.inEnvironment first).jobTimeout =
      (system.inEnvironment second).jobTimeout := by
  obtain ⟨client, name, settings⟩ := system
  cases settings with
  | config get => rfl
  | environment read =>
      have resolved : (SettingsSource.environment first).resolveOptRequired
          (settingVariable name "QRMI_JOB_TIMEOUT_SECONDS".toList) =
            (SettingsSource.environment second).resolveOptRequired
              (settingVariable name "QRMI_JOB_TIMEOUT_SECONDS".toList) := by
        simp only [SettingsSource.resolveOptRequired, SettingsSource.resolveOpt, agree]
        rfl
      simp only [inEnvironment, jobTimeout, requireSetting, settingKey,
        SettingsSource.prefixOf]
      exact congrArg (· >>= _) resolved

theorem backendName_of_fromSettings {iqpRetryPolicy : Bool} {name : Text}
    {settings : SettingsSource} {system : IBMQuantumSystem}
    (constructed : fromSettings iqpRetryPolicy name settings = .ok system) :
    system.backendName = name := by
  simp only [fromSettings, Except.bind_eq_ok_iff] at constructed
  obtain ⟨_, -, _, -, _, -, _, -, built⟩ := constructed
  split at built
  · cases built
    rfl
  · cases built

end IBMQuantumSystem

/-- The compute service, with its deserialisers. -/
def computeServiceType (codec : QuantumCompute.Codec) (glob : GlobLibrary)
    (readConfiguration : Json → Except String BackendConfiguration) : ProviderType where
  Action := WebAction
  Answer := WebAction.Answer
  Provider := IBMQuantumComputeServiceProvider
  Resource := IBMQuantumComputeService
  Setup := IBMQuantumComputeService
  Reading := Unit
  providerEnv := IBMQuantumComputeServiceProvider.providerEnv
  backendName := IBMQuantumComputeService.backendName
  construct := IBMQuantumComputeService.fromOpt
  setup := id
  startReading _ _ := ()
  constructionKeys := IBMQuantumComputeService.settingKeys
  startKeys := []
  resources provider filters before result after :=
    ∃ trace, (IBMQuantumComputeServiceProvider.resources codec glob readConfiguration
      provider filters).Executes before trace result after
  backendName_construct := IBMQuantumComputeService.backendName_of_fromOpt
  construct_alone agrees := by rw [IBMQuantumComputeService.fromOpt_alone agrees]
  reading_congr _ := rfl
  resources_cases := by
    rintro provider filters before result after ⟨trace, executes⟩
    exact IBMQuantumComputeServiceProvider.resources_cases executes

/-- The quantum system, with its deserialisers. -/
def quantumSystemType (codec : QuantumSystem.Codec) (fuel : Nat)
    (iqpRetryPolicy : Bool) (glob : GlobLibrary)
    (readBackends : Text → Except String (List QuantumSystem.Backend))
    (readConfiguration : Json → Except String BackendConfiguration) : ProviderType where
  Action := QuantumSystem.SystemAction
  Answer := QuantumSystem.SystemAction.Answer
  Provider := IBMQuantumSystemProvider
  Resource := IBMQuantumSystem
  Setup := QuantumSystem.Client × Text
  Reading := Except QrmiError Nat
  providerEnv := IBMQuantumSystemProvider.providerEnv
  backendName := IBMQuantumSystem.backendName
  construct := IBMQuantumSystem.fromSettings iqpRetryPolicy
  setup := IBMQuantumSystem.setup
  startReading system environment := (system.inEnvironment environment).jobTimeout
  constructionKeys := IBMQuantumSystem.settingKeys
  startKeys := ["QRMI_JOB_TIMEOUT_SECONDS"]
  resources provider filters before result after :=
    ∃ trace client, (IBMQuantumSystemProvider.resources codec fuel iqpRetryPolicy glob
      readBackends readConfiguration provider.providerEnv filters).Executes
      ⟨provider.client, before⟩ trace result ⟨client, after⟩
  backendName_construct := IBMQuantumSystem.backendName_of_fromSettings
  construct_alone := IBMQuantumSystem.fromSettings_alone
  reading_congr agree :=
    IBMQuantumSystem.jobTimeout_congr (agree _ (List.mem_singleton_self _))
  resources_cases := by
    rintro provider filters before result after ⟨trace, client, executes⟩
    exact IBMQuantumSystemProvider.resources_cases executes

/-- The provider types of the vendor, up to what their deserialisers are. -/
inductive IbmProviderType
  | computeService (codec : QuantumCompute.Codec) (glob : GlobLibrary)
      (readConfiguration : Json → Except String BackendConfiguration)
  | quantumSystem (codec : QuantumSystem.Codec) (fuel : Nat) (iqpRetryPolicy : Bool)
      (glob : GlobLibrary)
      (readBackends : Text → Except String (List QuantumSystem.Backend))
      (readConfiguration : Json → Except String BackendConfiguration)

def IbmProviderType.type : IbmProviderType → ProviderType
  | computeService codec glob readConfiguration =>
      computeServiceType codec glob readConfiguration
  | quantumSystem codec fuel iqpRetryPolicy glob readBackends readConfiguration =>
      quantumSystemType codec fuel iqpRetryPolicy glob readBackends readConfiguration

/-- For providers of one type in a process without variables of a backend: in every
sequence of calls that disturb nothing, each setting that a returned resource of the
backend uses, when it is constructed and whenever it starts a task, is the one that
the map of its provider alone would give.  The sequences leave no call of `resources`
out. -/
theorem settings_isolated (ibm : IbmProviderType) {name : Text} {initial : Environment}
    (fresh : ∀ other, (name ++ ['_']) <+: other → initial other = none)
    {calls : List (ProviderCall ibm.type)} {last : ProviderProcess ibm.type}
    (history : History ProviderCall.Step ⟨initial, []⟩ calls last)
    (undisturbed : Undisturbed name (calls.flatMap ProviderCall.events)) :
    (∀ call ∈ calls, call.Isolated name) ∧
      ∀ provider filters result environment,
        ibm.type.resources provider filters last.environment result environment →
          ∃ admissions after,
            ProviderCall.Step last (.resources provider filters admissions result) after :=
  ⟨isolated_of_undisturbed (fun key => fresh _ (List.prefix_append _ key)) history
    undisturbed, fun _ _ _ _ executes => exists_step_of_resources executes⟩

namespace TwoAccounts

open QuantumCompute Method

/-- The settings of an account whose sessions are batches. -/
def batches : SettingsMap where
  entries :=
    [("QRMI_IBM_QCS_ENDPOINT".toList, "https://first".toList),
      ("QRMI_IBM_QCS_IAM_ENDPOINT".toList, "https://iam".toList),
      ("QRMI_IBM_QCS_IAM_APIKEY".toList, "key1".toList),
      ("QRMI_IBM_QCS_SERVICE_CRN".toList, "crn1".toList),
      ("QRMI_IBM_QCS_SESSION_MODE".toList, "batch".toList)]
  distinct := by decide

/-- The settings of an account that leaves the mode of its sessions open. -/
def plain : SettingsMap where
  entries :=
    [("QRMI_IBM_QCS_ENDPOINT".toList, "https://second".toList),
      ("QRMI_IBM_QCS_IAM_ENDPOINT".toList, "https://iam".toList),
      ("QRMI_IBM_QCS_IAM_APIKEY".toList, "key2".toList),
      ("QRMI_IBM_QCS_SERVICE_CRN".toList, "crn2".toList)]
  distinct := by decide

def config (endpoint crn : String) (token : Option Text) : Configuration where
  basePath := endpoint.toList
  userAgent := some "SLURM-QRMI-QRS".toList
  bearerAccessToken := token
  crn := some crn.toList

/-- The provider of an account. -/
def provider (endpoint key crn : String) (settings : SettingsMap) :
    IBMQuantumComputeServiceProvider where
  config := config endpoint crn none
  apiKey := key.toList
  iamEndpoint := "https://iam".toList
  providerEnv := settings

def first : IBMQuantumComputeServiceProvider :=
  provider "https://first" "key1" "crn1" batches

def second : IBMQuantumComputeServiceProvider :=
  provider "https://second" "key2" "crn2" plain

theorem constructed_first : IBMQuantumComputeServiceProvider.new batches = .ok first :=
  rfl

theorem constructed_second : IBMQuantumComputeServiceProvider.new plain = .ok second :=
  rfl

/-- A resource of the backend that both accounts list. -/
def resource (endpoint key crn mode : String) : IBMQuantumComputeService where
  config := config endpoint crn none
  backendName := "b".toList
  sessionId := none
  calibrationId := none
  timeoutSecs := none
  sessionMode := mode.toList
  sessionMaxTtl := 28800
  apiKey := key.toList
  iamEndpoint := "https://iam".toList
  tokenExpiration := 0
  tokenLifetime := 0

def device : Device :=
  ⟨"b".toList, .online, none, none, 0⟩

def tokenBody : Text :=
  "\x7b\"access_token\":\"t\",\"expiration\":3600,\"expires_in\":3600\x7d".toList

def devicesBody : Text :=
  ("\x7b\"devices\":[\x7b\"name\":\"b\",\"status\":\x7b\"name\":\"online\"\x7d," ++
    "\"queue_length\":0\x7d]\x7d").toList

def configuration : Json :=
  .object
    [Json.stringMember "backend_name" "b", Json.stringMember "backend_version" "1.0.0",
      Json.unsignedMember "n_qubits" 5, ("basis_gates".toList, .array []),
      ("gates".toList, .array []), ("local".toList, .bool false),
      ("simulator".toList, .bool false), Json.unsignedMember "max_shots" 100]

/-- Deserialisers that know the replies of the runs. -/
def codec : Codec where
  readJob _ := .error "expected value"
  readJobs _ := .error "expected value"
  readCreatedJob _ := .error "expected value"
  readSession _ := .error "expected value"
  readBackendStatus _ := .error "expected value"
  readBackends := readDocument devicesBody ⟨some [device]⟩
  readProperties := readDocument configuration.render configuration
  readString _ := .error "expected value"
  readToken := readDocument tokenBody ⟨"t".toList, 3600, 3600⟩
  samplerInput _ := .error "expected value"
  estimatorInput _ := .error "expected value"
  noiseLearnerInput _ := .error "expected value"
  json := .ofTable []
  toLowercase text := text.map Char.toLower

def readConfiguration (document : Json) : Except String BackendConfiguration :=
  match (document.get "n_qubits").asU64, (document.get "max_shots").asU64,
    (document.get "simulator").asBool with
  | some nQubits, some maxShots, some simulator => .ok ⟨nQubits, maxShots, simulator⟩
  | _, _, _ => .error "missing field"

def glob : GlobLibrary :=
  ⟨fun pattern => .ok (· = pattern)⟩

def ok (body : Text) : HttpReply :=
  .ok ⟨⟨200, "OK"⟩, some "application/json".toList, .ok body⟩

/-- The exchange of a listing. -/
def listing (endpoint key crn : String) : List WebEvent :=
  let granted := config endpoint crn (some "t".toList)
  [⟨.now, (0 : Nat)⟩,
    ⟨.postForm (tokenUrl "https://iam".toList) (tokenForm key.toList), ok tokenBody⟩,
    ⟨.send (listBackendsRequest granted (some "2025-01-01")), ok devicesBody⟩,
    ⟨.send (granted.request .get (backendPath "b".toList ++ "/configuration".toList) []
      (some "2025-01-01") none), ok configuration.render⟩]

theorem selects (endpoint key crn : String) (settings : SettingsMap) :
    (IBMQuantumComputeServiceProvider.selectBackends codec glob readConfiguration
      (provider endpoint key crn settings) none).Runs (listing endpoint key crn)
      (.ok ["b".toList]) := by
  let listed : List (Device × Except ApiError Json) := [(device, .ok configuration)]
  have sorted : listed.mergeSort (fun first second =>
      decide (first.1.queueLength ≤ second.1.queueLength)) = listed :=
    List.mergeSort_singleton _
  have selected : ["b".toList] = (listed.mergeSort (fun first second =>
      decide (first.1.queueLength ≤ second.1.queueLength))).filterMap
        (IBMQuantumComputeServiceProvider.selectDevice readConfiguration .default) := by
    rw [sorted]
    rfl
  rw [selected]
  exact .ask (.ask (.ask (.ask (.done _))))

def ibm : IbmProviderType :=
  .computeService codec glob readConfiguration

def unset : Environment :=
  fun _ => none

/-- The variables after an account injected its settings. -/
def injected (settings : SettingsMap) (before : Environment) : Environment :=
  writeEntries "b".toList settings.entries before

section Account

variable {endpoint key crn mode : String} {settings : SettingsMap}
variable {before : Environment}

theorem admits (valid : ∀ entry ∈ settings.entries,
      IsVariable (settingVariable "b".toList entry.1) entry.2)
    (constructs : IBMQuantumComputeService.fromOpt "b".toList
      (.environment (injected settings before)) = .ok (resource endpoint key crn mode)) :
    (admitBackend IBMQuantumComputeService.fromOpt settings "b".toList :
      Method WebAction WebAction.Answer Environment Fault
        (Option IBMQuantumComputeService)).Executes before []
      (.ok (some (resource endpoint key crn mode))) (injected settings before) := by
  refine executes_bind_iff.mpr (.inr
    ⟨[], [], (), _, rfl, injectEntries_executes valid, ?_⟩)
  rw [executes_self_bind_iff]
  rw [injected] at constructs
  rw [constructs]
  exact executes_pure_iff.mpr ⟨rfl, rfl, rfl⟩

/-- A call of `resources` that constructs the backend. -/
theorem lists (admitted : (admitBackend IBMQuantumComputeService.fromOpt settings "b".toList :
      Method WebAction WebAction.Answer Environment Fault
        (Option IBMQuantumComputeService)).Executes before []
      (.ok (some (resource endpoint key crn mode))) (injected settings before)) :
    (IBMQuantumComputeServiceProvider.resources codec glob readConfiguration
      (provider endpoint key crn settings) none).Executes before
      (listing endpoint key crn) (.ok [resource endpoint key crn mode])
      (injected settings before) := by
  refine executes_bind_iff.mpr (.inr
    ⟨listing endpoint key crn, [], _, _, (List.append_nil _).symm,
      executes_lift_iff.mpr ⟨_, selects endpoint key crn settings, rfl, rfl⟩,
      executes_ofExcept_bind_ok_iff.mpr ?_⟩)
  refine executes_bind_iff.mpr (.inr ⟨[], [], _, _, rfl, admitted, ?_⟩)
  exact executes_bind_iff.mpr (.inr ⟨[], [], [], _, rfl,
    executes_pure_iff.mpr ⟨rfl, rfl, rfl⟩, executes_pure_iff.mpr ⟨rfl, rfl, rfl⟩⟩)

/-- The call of an account. -/
def call (endpoint key crn mode : String) (settings : SettingsMap) :
    ProviderCall ibm.type :=
  .resources (provider endpoint key crn settings) none
    [⟨settings, "b".toList, .ok (some (resource endpoint key crn mode))⟩]
    (.ok [resource endpoint key crn mode])

theorem step {returned : List (SettingsMap × ibm.type.Resource)}
    (valid : ∀ entry ∈ settings.entries,
      IsVariable (settingVariable "b".toList entry.1) entry.2)
    (constructs : IBMQuantumComputeService.fromOpt "b".toList
      (.environment (injected settings before)) = .ok (resource endpoint key crn mode)) :
    ∃ others, ProviderCall.Step ⟨before, returned⟩ (call endpoint key crn mode settings)
      ⟨injected settings before, others⟩ := by
  have admitted := admits valid constructs
  have reaches : @ProviderCall.Reaches ibm.type
      (provider endpoint key crn settings) before
      [⟨settings, "b".toList, .ok (some (resource endpoint key crn mode))⟩]
      (.ok [resource endpoint key crn mode]) (injected settings before) := by
    refine ⟨.cons admitted (.nil _), fun admission member => ?_, fun _ equal => ?_⟩
    · rw [List.mem_singleton.mp member]
      rfl
    · cases equal
      rfl
  exact ⟨_, .resources ⟨_, lists admitted⟩ reaches⟩

end Account

def batchesCall : ProviderCall ibm.type :=
  call "https://first" "key1" "crn1" "batch" batches

/-- The mode of the first account has reached the resource of the second one. -/
def plainCall : ProviderCall ibm.type :=
  call "https://second" "key2" "crn2" "batch" plain

theorem step_batches : ∃ others,
    ProviderCall.Step ⟨unset, []⟩ batchesCall ⟨injected batches unset, others⟩ :=
  step (by decide) rfl

theorem step_plain (returned : List (SettingsMap × ibm.type.Resource)) :
    ∃ others, ProviderCall.Step ⟨injected batches unset, returned⟩ plainCall
      ⟨injected plain (injected batches unset), others⟩ :=
  step (by decide) rfl

/-- The account with batches lists its backends. -/
theorem history_batches :
    ∃ last, History ProviderCall.Step ⟨unset, []⟩ [batchesCall] last := by
  obtain ⟨_, listed⟩ := step_batches
  exact ⟨_, .cons listed (.nil _)⟩

/-- Both accounts list their backends. -/
theorem history_both :
    ∃ last, History ProviderCall.Step ⟨unset, []⟩ [batchesCall, plainCall] last := by
  obtain ⟨others, listed⟩ := step_batches
  obtain ⟨_, relisted⟩ := step_plain others
  exact ⟨_, .cons listed (.cons relisted (.nil _))⟩

theorem undisturbed_batches :
    Undisturbed "b".toList ([batchesCall].flatMap ProviderCall.events) := by
  intro earlier event later split
  cases earlier with
  | nil =>
      cases split
      exact fun _ _ _ _ => List.forall_mem_nil _
  | cons first earlier => cases earlier <;> cases split

theorem not_isolated_plain : ¬ plainCall.Isolated "b".toList := by
  intro isolated
  have same := isolated _ rfl _ (List.mem_singleton_self _) rfl
  cases same

end TwoAccounts

theorem settings_isolated_batches :
    (∃ last, History ProviderCall.Step ⟨TwoAccounts.unset, []⟩ [TwoAccounts.batchesCall]
      last) ∧ ∀ call ∈ [TwoAccounts.batchesCall], call.Isolated "b".toList :=
  ⟨TwoAccounts.history_batches, TwoAccounts.history_batches.elim fun _ history =>
    (settings_isolated TwoAccounts.ibm (fun _ _ => rfl) history
      TwoAccounts.undisturbed_batches).1⟩

/-- The session mode of one account reaches the resource of another one that leaves
it open. -/
theorem exists_leaked_setting :
    ∃ (codec : QuantumCompute.Codec) (glob : GlobLibrary)
      (readConfiguration : Json → Except String BackendConfiguration)
      (first second : IBMQuantumComputeServiceProvider)
      (calls : List (ProviderCall (computeServiceType codec glob readConfiguration)))
      (last : ProviderProcess (computeServiceType codec glob readConfiguration)),
      IBMQuantumComputeServiceProvider.new first.providerEnv = .ok first ∧
        IBMQuantumComputeServiceProvider.new second.providerEnv = .ok second ∧
        (∀ call ∈ calls, ∃ provider admissions result, provider ∈ [first, second] ∧
          call = .resources provider none admissions result) ∧
        History ProviderCall.Step ⟨fun _ => none, []⟩ calls last ∧
        ∃ call ∈ calls, ¬ call.Isolated "b".toList := by
  obtain ⟨last, history⟩ := TwoAccounts.history_both
  refine ⟨TwoAccounts.codec, TwoAccounts.glob, TwoAccounts.readConfiguration,
    TwoAccounts.first, TwoAccounts.second, _, last, TwoAccounts.constructed_first,
    TwoAccounts.constructed_second, fun call member => ?_, history,
    TwoAccounts.plainCall, List.mem_cons_of_mem _ (List.mem_singleton_self _),
    TwoAccounts.not_isolated_plain⟩
  rcases List.mem_pair.mp member with rfl | rfl
  · exact ⟨TwoAccounts.first, _, _, List.mem_cons_self .., rfl⟩
  · exact ⟨TwoAccounts.second, _, _,
      List.mem_cons_of_mem _ (List.mem_singleton_self _), rfl⟩
