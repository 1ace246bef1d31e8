import Qrmi.ProviderIsolation
import Qrmi.StableSort

/-!
# Listing the backends of an account

The provider asks for the status and the configuration of the devices that its filter
leaves and puts the replies next to the devices by their positions.  Each device is
judged by its own replies, and the devices that pass come out in the order of their
queues.
-/

open Interaction
open QuantumCompute

namespace IBMQuantumComputeServiceProvider

open Method

/-- A listed device with the replies to the requests for its status and its
configuration. -/
structure Inspection where
  device : Device
  status : HttpReply
  configuration : HttpReply

section Judging

variable (codec : Codec) (readConfiguration : Json → Except String BackendConfiguration)
variable (config : Configuration) (filter : BackendFilter)

namespace Inspection

def statusEvent (inspection : Inspection) : WebEvent :=
  ⟨.send (config.request .get
    (backendPath inspection.device.name ++ "/status".toList) [] none none),
    inspection.status⟩

def configurationEvent (inspection : Inspection) : WebEvent :=
  ⟨.send (config.request .get
    (backendPath inspection.device.name ++ "/configuration".toList) []
    (some "2025-01-01") none), inspection.configuration⟩

/-- The status of the device was read as an online one. -/
def isOnline (inspection : Inspection) : Bool :=
  match HttpReply.readJson "application/json" "models::BackendStatusResponse"
    codec.readBackendStatus inspection.status with
  | .ok response => (response.status.map (isOnlineStatus codec)).getD false
  | .error _ => false

/-- The configuration of the device could be read. -/
def readDocument (inspection : Inspection) : Except ApiError Json :=
  HttpReply.readJson "application/json" propertiesType codec.readProperties
    inspection.configuration

/-- What the filter says about the entry of the device in the list. -/
def isNamed (inspection : Inspection) : Bool :=
  matchesDevice filter inspection.device && filter.matchesName inspection.device.name

def isConfigured (inspection : Inspection) : Bool :=
  (selectDevice readConfiguration filter
    (inspection.device, inspection.readDocument codec)).isSome

/-- The device satisfies every constraint of the filter, by its own replies. -/
def satisfies (inspection : Inspection) : Bool :=
  inspection.isNamed filter && (filter.status ≠ .online || inspection.isOnline codec) &&
    inspection.isConfigured codec readConfiguration filter

/-- The constraints one by one. -/
structure Satisfies (inspection : Inspection) : Prop where
  simulator : inspection.device.isSimulator.getD false = filter.isSimulator
  name : filter.matchesName inspection.device.name = true
  online : filter.status = .online → ∃ response status,
    HttpReply.readJson "application/json" "models::BackendStatusResponse"
      codec.readBackendStatus inspection.status = .ok response ∧
    response.status = some status ∧ isOnlineStatus codec status = true
  configuration : ∃ document configuration,
    inspection.readDocument codec = .ok document ∧
    readConfiguration document = .ok configuration ∧
    configuration.simulator = filter.isSimulator ∧
    (∀ bound ∈ filter.numQubits, bound ≤ configuration.nQubits) ∧
    ∀ bound ∈ filter.maxShots, bound ≤ configuration.maxShots

variable {codec readConfiguration filter}

theorem isOnline_iff {inspection : Inspection} :
    inspection.isOnline codec = true ↔ ∃ response status,
      HttpReply.readJson "application/json" "models::BackendStatusResponse"
        codec.readBackendStatus inspection.status = .ok response ∧
      response.status = some status ∧ isOnlineStatus codec status = true := by
  unfold isOnline
  cases HttpReply.readJson "application/json" "models::BackendStatusResponse"
      codec.readBackendStatus inspection.status with
  | error error => simp
  | ok response =>
      cases status : response.status with
      | none => simp [status]
      | some text => simp [status]

theorem matchesConfig_iff {configuration : BackendConfiguration} :
    filter.matchesConfig configuration = true ↔
      configuration.simulator = filter.isSimulator ∧
        (∀ bound ∈ filter.numQubits, bound ≤ configuration.nQubits) ∧
        ∀ bound ∈ filter.maxShots, bound ≤ configuration.maxShots := by
  unfold BackendFilter.matchesConfig
  cases filter.numQubits <;> cases filter.maxShots <;> simp

theorem isConfigured_iff {inspection : Inspection} :
    inspection.isConfigured codec readConfiguration filter = true ↔
      ∃ document configuration, inspection.readDocument codec = .ok document ∧
        readConfiguration document = .ok configuration ∧
        filter.matchesConfig configuration = true := by
  unfold isConfigured selectDevice
  cases inspection.readDocument codec with
  | error error => simp
  | ok document =>
      cases read : readConfiguration document with
      | error error => simp [read]
      | ok configuration =>
          cases fits : filter.matchesConfig configuration <;> simp [read, fits]

theorem satisfies_iff {inspection : Inspection} :
    inspection.satisfies codec readConfiguration filter = true ↔
      inspection.Satisfies codec readConfiguration filter := by
  rw [satisfies, Bool.and_eq_true, Bool.and_eq_true, isNamed, Bool.and_eq_true,
    isConfigured_iff, Bool.or_eq_true, isOnline_iff, decide_eq_true_eq, ← imp_iff_not_or,
    matchesDevice, decide_eq_true_eq]
  simp only [matchesConfig_iff]
  exact ⟨fun ⟨⟨⟨simulator, name⟩, online⟩, configuration⟩ =>
      ⟨simulator, name, online, configuration⟩,
    fun ⟨simulator, name, online, configuration⟩ =>
      ⟨⟨⟨simulator, name⟩, online⟩, configuration⟩⟩

end Inspection

end Judging

/-- Programs that each return after one event are joined event by event. -/
theorem runs_joinAll {α ι : Type} {items : List ι} {program : ι → WebProgram α}
    {event : ι → WebEvent} {value : ι → α}
    (each : ∀ item, (program item).Runs [event item] (value item)) :
    (joinAll (items.map program)).Runs (items.map event) (items.map value) := by
  induction items with
  | nil => exact .done _
  | cons item items ih =>
      rw [List.map_cons, joinAll, Program.runs_bind_iff]
      refine ⟨[event item], items.map event, value item, rfl, each item, ?_⟩
      rw [Program.runs_bind_iff]
      exact ⟨items.map event, [], _, (List.append_nil _).symm, ih, .done _⟩

section Requests

variable {codec : Codec} {readConfiguration : Json → Except String BackendConfiguration}
variable {config : Configuration} {filter : BackendFilter}

theorem runs_isBackendOnline (inspection : Inspection) :
    (isBackendOnline codec config inspection.device.name).Runs
      [inspection.statusEvent config] (inspection.isOnline codec) := by
  rw [isBackendOnline, Program.runs_bind_iff]
  refine ⟨[inspection.statusEvent config], [], _, rfl,
    runs_fetch_iff.mpr ⟨inspection.status, rfl, rfl⟩, ?_⟩
  rw [Inspection.isOnline]
  cases HttpReply.readJson "application/json" "models::BackendStatusResponse"
      codec.readBackendStatus inspection.status with
  | ok response => exact .done _
  | error error => exact .done _

theorem runs_getBackendConfiguration (inspection : Inspection) :
    (getBackendConfiguration codec config (some "2025-01-01") inspection.device.name).Runs
      [inspection.configurationEvent config] (inspection.readDocument codec) :=
  runs_fetch_iff.mpr ⟨inspection.configuration, rfl, rfl⟩

/-- The devices that are left when the replies about their statuses were joined. -/
theorem filterMap_zip_map {α : Type} {items : List α} {device : α → Device}
    {online : α → Bool} :
    ((items.map device).zip (items.map online)).filterMap
        (fun entry => if entry.2 then some entry.1 else none) =
      (items.filter online).map device := by
  induction items with
  | nil => rfl
  | cons item items ih =>
      rw [List.map_cons, List.map_cons, List.zip_cons_cons, List.filterMap_cons, ih]
      cases passes : online item with
      | true =>
          rw [List.filter_cons_of_pos passes]
          rfl
      | false =>
          rw [List.filter_cons_of_neg (by rw [passes]; exact Bool.false_ne_true)]
          rfl

variable (codec config filter)

/-- The devices that are asked for their configurations. -/
def askedDevices (named : List Inspection) : List Inspection :=
  if filter.status = .online then named.filter (·.isOnline codec) else named

/-- The exchange about the listed devices. -/
def inspectionEvents (inspections : List Inspection) : List WebEvent :=
  let named := inspections.filter (·.isNamed filter)
  (if filter.status = .online then named.map (·.statusEvent config) else []) ++
    (askedDevices codec filter named).map (·.configurationEvent config)

variable {codec config filter}

theorem runs_checkStatuses (named : List Inspection) :
    (checkStatuses codec config filter (named.map (·.device))).Runs
      (if filter.status = .online then named.map (·.statusEvent config) else [])
      ((askedDevices codec filter named).map (·.device)) := by
  rw [checkStatuses, askedDevices]
  by_cases checked : filter.status = .online
  · rw [if_pos checked, if_pos checked, if_pos checked, List.map_map,
      Program.runs_bind_iff]
    have replies : (joinAll (named.map ((fun device =>
        isBackendOnline codec config device.name) ∘ (·.device)))).Runs
          (named.map (·.statusEvent config)) (named.map (·.isOnline codec)) :=
      runs_joinAll runs_isBackendOnline
    refine ⟨named.map (·.statusEvent config), [], named.map (·.isOnline codec),
      (List.append_nil _).symm, replies, ?_⟩
    rw [filterMap_zip_map]
    exact .done _
  · rw [if_neg checked, if_neg checked, if_neg checked]
    exact .done _

/-- The order in which the devices are taken up. -/
def chosen (codec : Codec) (readConfiguration : Json → Except String BackendConfiguration)
    (filter : BackendFilter) (inspections : List Inspection) : List Inspection :=
  ((askedDevices codec filter (inspections.filter (·.isNamed filter))).mergeSort
      fun first second =>
        decide (first.device.queueLength ≤ second.device.queueLength)).filter
    (·.isConfigured codec readConfiguration filter)

/-- The names that are selected from sorted devices and their configurations. -/
theorem filterMap_selectDevice (sorted : List Inspection) :
    (sorted.map fun inspection => (inspection.device, inspection.readDocument codec)).filterMap
        (selectDevice readConfiguration filter) =
      (sorted.filter (·.isConfigured codec readConfiguration filter)).map
        (·.device.name) := by
  induction sorted with
  | nil => rfl
  | cons inspection sorted ih =>
      rw [List.map_cons, List.filterMap_cons, ih]
      cases selected : selectDevice readConfiguration filter
          (inspection.device, inspection.readDocument codec) with
      | none =>
          have skipped : ¬ inspection.isConfigured codec readConfiguration filter = true := by
            rw [Inspection.isConfigured, selected]
            exact Bool.false_ne_true
          rw [List.filter_cons_of_neg skipped]
      | some name =>
          have taken : inspection.isConfigured codec readConfiguration filter = true := by
            rw [Inspection.isConfigured, selected]
            rfl
          have named : name = inspection.device.name := by
            unfold selectDevice at selected
            split at selected
            · cases selected
            · split at selected
              · cases selected
              · split at selected
                · exact (Option.some.inj selected).symm
                · cases selected
          rw [List.filter_cons_of_pos taken, named]
          rfl

variable {glob : GlobLibrary} {provider : IBMQuantumComputeServiceProvider}
variable {filters : Option Text} {inspections : List Inspection}
variable {tokenTrace : List WebEvent} {listReply : HttpReply} {response : BackendsResponse}

/-- The exchange of a listing: a token, the list, and the replies about its devices. -/
def listingEvents (codec : Codec) (config : Configuration) (filter : BackendFilter)
    (tokenTrace : List WebEvent) (listReply : HttpReply) (inspections : List Inspection) :
    List WebEvent :=
  tokenTrace ++
    ⟨.send (listBackendsRequest config (some "2025-01-01")), listReply⟩ ::
      inspectionEvents codec config filter inspections

theorem runs_selectBackends
    (parsed : parseFilter glob (filters.getD []) = .ok filter)
    (granted : (renewToken codec provider).Runs tokenTrace (.ok config))
    (listed : readBackendsReply codec listReply = .ok response)
    (inspected : inspections.map (·.device) = response.devices.getD []) :
    (selectBackends codec glob readConfiguration provider filters).Runs
      (listingEvents codec config filter tokenTrace listReply inspections)
      (.ok ((chosen codec readConfiguration filter inspections).map (·.device.name))) := by
  have named : ((response.devices.getD []).filter (matchesDevice filter)).filter
      (fun device => filter.matchesName device.name) =
        (inspections.filter (·.isNamed filter)).map (·.device) := by
    rw [← inspected, List.filter_filter, List.filter_map]
    congr 2
    funext inspection
    exact Bool.and_comm _ _
  rw [selectBackends, parsed]
  refine Program.runs_bind_iff.mpr ⟨tokenTrace, _, .ok config, rfl, granted, ?_⟩
  refine Program.runs_question_bind_iff.mpr ⟨listReply, _, rfl, ?_⟩
  rw [listed]
  dsimp only
  rw [named]
  refine Program.runs_bind_iff.mpr ⟨_, _, _, rfl, runs_checkStatuses _, ?_⟩
  rw [List.map_map]
  have replies : (joinAll ((askedDevices codec filter
      (inspections.filter (·.isNamed filter))).map fun inspection =>
        getBackendConfiguration codec config (some "2025-01-01")
          inspection.device.name)).Runs _ _ :=
    runs_joinAll runs_getBackendConfiguration
  refine Program.runs_bind_iff.mpr ⟨_, [], _, (List.append_nil _).symm, replies, ?_⟩
  have sorted : ((askedDevices codec filter
      (inspections.filter (·.isNamed filter))).map fun inspection =>
        (inspection.device, inspection.readDocument codec)).mergeSort
          (fun first second => decide (first.1.queueLength ≤ second.1.queueLength)) =
      ((askedDevices codec filter (inspections.filter (·.isNamed filter))).mergeSort
        fun first second =>
          decide (first.device.queueLength ≤ second.device.queueLength)).map
        fun inspection => (inspection.device, inspection.readDocument codec) :=
    (List.map_mergeSort (by intros; rfl)).symm
  rw [List.zip_map', sorted, filterMap_selectDevice]
  exact .done _

/-- The devices are taken up in the order of their queues, and they are those that
satisfy the filter. -/
theorem isStableSort_chosen :
    IsStableSort (·.device.queueLength)
      (inspections.filter (·.satisfies codec readConfiguration filter))
      (chosen codec readConfiguration filter inspections) := by
  have asked : (askedDevices codec filter (inspections.filter (·.isNamed filter))).filter
      (·.isConfigured codec readConfiguration filter) =
        inspections.filter (·.satisfies codec readConfiguration filter) := by
    unfold askedDevices
    by_cases checked : filter.status = .online
    · rw [if_pos checked, List.filter_filter, List.filter_filter]
      apply List.filter_congr
      intro inspection _
      simp [Inspection.satisfies, checked, Bool.and_left_comm, Bool.and_comm]
    · rw [if_neg checked, List.filter_filter]
      apply List.filter_congr
      intro inspection _
      simp [Inspection.satisfies, checked, Bool.and_comm]
  rw [← asked]
  exact (isStableSort_mergeSort _ _).filter _

end Requests

/-- The settings without which a provider cannot be constructed. -/
def requiredKeys : List String :=
  ["QRMI_IBM_QCS_ENDPOINT", "QRMI_IBM_QCS_IAM_ENDPOINT", "QRMI_IBM_QCS_IAM_APIKEY",
    "QRMI_IBM_QCS_SERVICE_CRN"]

theorem new_eq_ok {environment : SettingsMap} {provider : IBMQuantumComputeServiceProvider}
    (constructed : new environment = .ok provider) :
    provider.providerEnv = environment ∧
      ∀ key ∈ requiredKeys, ∃ value, environment.get key.toList = some value := by
  have stored : ∀ {key : String} {outcome : Except QrmiError Text} {value : Text},
      (environment.get key.toList = none → outcome = .error (.missingConfigKey key)) →
        outcome = .ok value → ∃ value, environment.get key.toList = some value := by
    intro key outcome value missing found
    cases held : environment.get key.toList with
    | none =>
        rw [missing held] at found
        cases found
    | some value => exact ⟨value, rfl⟩
  simp only [new, Except.bind_eq_ok_iff] at constructed
  obtain ⟨endpoint, first, iamEndpoint, second, apiKey, third, crn, fourth, built⟩ :=
    constructed
  cases built
  refine ⟨rfl, ?_⟩
  simp only [requiredKeys, List.forall_mem_cons]
  exact ⟨stored (fun missing => by rw [missing]) first,
    stored (fun missing => by rw [missing]) second,
    stored (fun missing => by rw [missing]) third,
    stored (fun missing => by rw [missing]) fourth, List.forall_mem_nil _⟩

/-- Variables that hold the required settings of a backend suffice to construct it. -/
theorem exists_fromOpt {name : Text} {environment : Environment}
    (held : ∀ key ∈ requiredKeys,
      ∃ value, environment (settingVariable name key.toList) = some value) :
    ∃ service, IBMQuantumComputeService.fromOpt name (.environment environment) =
      .ok service := by
  have required : ∀ key ∈ requiredKeys, ∃ value,
      (SettingsSource.environment environment).resolveOptRequired
        (name ++ ['_'] ++ key.toList) = .ok value := by
    intro key member
    obtain ⟨value, stored⟩ := held key member
    have resolved : (SettingsSource.environment environment).resolveOpt
        (name ++ ['_'] ++ key.toList) = some value := stored
    exact ⟨value, by rw [SettingsSource.resolveOptRequired, resolved]⟩
  simp only [requiredKeys, List.forall_mem_cons] at required
  obtain ⟨⟨endpoint, first⟩, ⟨iamEndpoint, second⟩, ⟨apiKey, third⟩, ⟨crn, fourth⟩, -⟩ :=
    required
  simp only [IBMQuantumComputeService.fromOpt, SettingsSource.prefixOf, first, second,
    third, fourth]
  exact ⟨_, rfl⟩

section Admitting

open IBMQuantumComputeService

variable {environment : SettingsMap} {before after : Environment} {name : Text}
variable {names : List Text}

/-- A variable can be set for every setting of the backend. -/
def Injectable (environment : SettingsMap) (name : Text) : Prop :=
  ∀ entry ∈ environment.entries, IsVariable (settingVariable name entry.1) entry.2

/-- Injection that runs to its end has set valid variables. -/
theorem injectEntries_valid {Query : Type} {Answer : Query → Type}
    {entries : List (Text × Text)} {trace : List (Event Answer)}
    (executes : (injectEntries name entries :
      Method Query Answer Environment Fault Unit).Executes before trace (.ok ()) after) :
    ∀ entry ∈ entries, IsVariable (settingVariable name entry.1) entry.2 := by
  induction entries generalizing before trace with
  | nil => exact List.forall_mem_nil _
  | cons entry entries ih =>
      rcases executes_bind_iff.mp executes with ⟨_, equal, -⟩ |
        ⟨_, _, _, _, -, stored, continued⟩
      · cases equal
      · refine List.forall_mem_cons.mpr ⟨?_, ih continued⟩
        by_contra invalid
        rw [setVar, if_neg invalid] at stored
        obtain ⟨-, equal, -⟩ := executes_throw_iff.mp stored
        cases equal

/-- A backend whose variables can be set is constructed under its name. -/
theorem exists_admitted
    (complete : ∀ key ∈ requiredKeys, ∃ value, environment.get key.toList = some value)
    (injectable : Injectable environment name) (before : Environment) :
    ∃ service after, service.backendName = name ∧
      (admitBackend fromOpt environment name :
        Method WebAction WebAction.Answer Environment Fault
          (Option IBMQuantumComputeService)).Executes before []
          (.ok (some service)) after := by
  have injected : (injectBackendEnv environment name :
      Method WebAction WebAction.Answer Environment Fault Unit).Executes before []
        (.ok ()) (writeEntries name environment.entries before) :=
    injectEntries_executes injectable
  have held : ∀ key ∈ requiredKeys, ∃ value, writeEntries name environment.entries before
      (settingVariable name key.toList) = some value := by
    intro key member
    obtain ⟨value, stored⟩ := complete key member
    exact ⟨value, injectBackendEnv_written injected
      ⟨_, environment.get_eq_some_iff.mp stored, rfl⟩⟩
  obtain ⟨service, constructed⟩ := exists_fromOpt held
  refine ⟨service, writeEntries name environment.entries before,
    backendName_of_fromOpt constructed,
    executes_bind_iff.mpr (.inr ⟨[], [], (), _, rfl, injected, ?_⟩)⟩
  rw [executes_self_bind_iff, constructed]
  exact executes_pure_iff.mpr ⟨rfl, rfl, rfl⟩

theorem exists_admittedAll
    (complete : ∀ key ∈ requiredKeys, ∃ value, environment.get key.toList = some value)
    (injectable : ∀ name ∈ names, Injectable environment name) (before : Environment) :
    ∃ services after, services.map (·.backendName) = names ∧
      (admitAll fromOpt environment names :
        Method WebAction WebAction.Answer Environment Fault
          (List IBMQuantumComputeService)).Executes before [] (.ok services) after := by
  induction names generalizing before with
  | nil => exact ⟨[], before, rfl, executes_pure_iff.mpr ⟨rfl, rfl, rfl⟩⟩
  | cons name names ih =>
      obtain ⟨injectableFirst, injectableRest⟩ := List.forall_mem_cons.mp injectable
      obtain ⟨service, middle, named, admitted⟩ :=
        exists_admitted complete injectableFirst before
      obtain ⟨services, after, others, admittedAll⟩ := ih injectableRest middle
      refine ⟨service :: services, after, by rw [List.map_cons, named, others],
        executes_bind_iff.mpr (.inr ⟨[], [], _, _, rfl, admitted, ?_⟩)⟩
      exact executes_bind_iff.mpr (.inr ⟨[], [], _, _, rfl, admittedAll,
        executes_pure_iff.mpr ⟨rfl, rfl, rfl⟩⟩)

/-- Backends that are taken up without a panic could all be injected. -/
theorem injectable_of_admittedAll {trace : List WebEvent}
    {services : List IBMQuantumComputeService}
    (executes : (admitAll fromOpt environment names :
      Method WebAction WebAction.Answer Environment Fault
        (List IBMQuantumComputeService)).Executes before trace (.ok services) after) :
    trace = [] ∧ ∀ name ∈ names, Injectable environment name := by
  induction names generalizing before after trace services with
  | nil => exact ⟨(executes_pure_iff.mp executes).1, List.forall_mem_nil _⟩
  | cons name names ih =>
      rcases executes_bind_iff.mp executes with ⟨_, equal, -⟩ |
        ⟨first, second, resource, middle, rfl, admitted, continued⟩
      · cases equal
      rcases executes_bind_iff.mp continued with ⟨_, equal, -⟩ |
        ⟨third, fourth, resources, last, rfl, admittedAll, returned⟩
      · cases equal
      obtain ⟨rfl, -, -⟩ := executes_pure_iff.mp returned
      obtain ⟨rfl, injectableRest⟩ := ih admittedAll
      obtain ⟨rfl, _, injected, ⟨_, -, equal⟩ | ⟨rfl, -⟩⟩ := admit_cases admitted
      · cases equal
      exact ⟨rfl, List.forall_mem_cons.mpr ⟨injectEntries_valid injected, injectableRest⟩⟩

/-- Keys that are fit for variables leave two ways for an injection to fail. -/
theorem injectable_iff {key value : Text} (stored : environment.get key = some value)
    (fit : ∀ entry ∈ environment.entries, '=' ∉ entry.1 ∧ '\x00' ∉ entry.1) :
    Injectable environment name ↔
      ('=' ∉ name ∧ '\x00' ∉ name) ∧ ∀ entry ∈ environment.entries, '\x00' ∉ entry.2 := by
  have entries : (key, value) ∈ environment.entries :=
    environment.get_eq_some_iff.mp stored
  constructor
  · intro injectable
    have present := injectable _ entries
    simp only [IsVariable, settingVariable, List.mem_append, not_or] at present
    exact ⟨⟨present.2.1.1.1, present.2.2.1.1.1⟩, fun entry member =>
      (injectable entry member).2.2.2⟩
  · rintro ⟨⟨noEquals, noNul⟩, values⟩ entry member
    have fitKey := fit entry member
    refine ⟨by simp [settingVariable], ?_, ?_, values entry member⟩
    · simp [settingVariable, noEquals, fitKey.1]
    · simp [settingVariable, noNul, fitKey.2]

end Admitting

section Resources

variable {codec : Codec} {glob : GlobLibrary}
variable {readConfiguration : Json → Except String BackendConfiguration}
variable {environment : SettingsMap} {provider : IBMQuantumComputeServiceProvider}
variable {filters : Option Text} {filter : BackendFilter} {config : Configuration}
variable {tokenTrace : List WebEvent} {listReply : HttpReply}
variable {response : BackendsResponse} {inspections : List Inspection}
variable {before : Environment}

/-- Every device that satisfies the filter is injected when the listing succeeds. -/
theorem injectable_of_resources {services : List IBMQuantumComputeService}
    {after : Environment}
    (parsed : parseFilter glob (filters.getD []) = .ok filter)
    (granted : (renewToken codec provider).Runs tokenTrace (.ok config))
    (listed : readBackendsReply codec listReply = .ok response)
    (inspected : inspections.map (·.device) = response.devices.getD [])
    (executes : (resources codec glob readConfiguration provider filters).Executes before
      (listingEvents codec config filter tokenTrace listReply inspections)
      (.ok services) after) :
    ∀ inspection ∈ inspections, inspection.satisfies codec readConfiguration filter = true →
      Injectable provider.providerEnv inspection.device.name := by
  have selects : (selectBackends codec glob readConfiguration provider filters).Runs _ _ :=
    runs_selectBackends parsed granted listed inspected
  rcases executes_bind_iff.mp executes with ⟨_, equal, -⟩ |
    ⟨first, second, selected, middle, split, lifted, continued⟩
  · cases equal
  obtain ⟨_, ran, equal, rfl⟩ := executes_lift_iff.mp lifted
  cases equal
  rw [← List.append_nil (listingEvents _ _ _ _ _ _)] at split
  obtain ⟨rfl, rfl, rfl⟩ := selects.prefix_unique ran split
  have admitted := executes_ofExcept_bind_ok_iff.mp continued
  intro inspection member satisfied
  refine (injectable_of_admittedAll admitted).2 _ (List.mem_map_of_mem ?_)
  exact isStableSort_chosen.perm.mem_iff.mpr (List.mem_filter.mpr ⟨member, satisfied⟩)

/-- When the list was read, the resources are the backends of the devices that satisfy
the filter by their own replies, in the stable order of their queues, as long as the
settings of those backends can be put into variables. -/
theorem resources_filteredAndSorted_iff
    (constructed : new environment = .ok provider)
    (fit : ∀ entry ∈ environment.entries, '=' ∉ entry.1 ∧ '\x00' ∉ entry.1)
    (parsed : parseFilter glob (filters.getD []) = .ok filter)
    (granted : (renewToken codec provider).Runs tokenTrace (.ok config))
    (listed : readBackendsReply codec listReply = .ok response)
    (inspected : inspections.map (·.device) = response.devices.getD []) :
    (∃ services after sorted,
      (resources codec glob readConfiguration provider filters).Executes before
        (listingEvents codec config filter tokenTrace listReply inspections)
        (.ok services) after ∧
      services.map (·.backendName) = sorted.map (·.device.name) ∧
      IsStableSort (·.device.queueLength)
        (inspections.filter (·.satisfies codec readConfiguration filter)) sorted) ↔
    ∀ inspection ∈ inspections, inspection.Satisfies codec readConfiguration filter →
      ('=' ∉ inspection.device.name ∧ '\x00' ∉ inspection.device.name) ∧
        ∀ entry ∈ environment.entries, '\x00' ∉ entry.2 := by
  obtain ⟨rfl, complete⟩ := new_eq_ok constructed
  obtain ⟨endpoint, stored⟩ := complete _ (List.mem_cons_self ..)
  simp only [← Inspection.satisfies_iff, ← injectable_iff stored fit]
  constructor
  · rintro ⟨services, after, -, executes, -, -⟩
    exact injectable_of_resources parsed granted listed inspected executes
  · intro injectable
    have injectableAll : ∀ name ∈
        (chosen codec readConfiguration filter inspections).map (·.device.name),
        Injectable provider.providerEnv name := by
      intro name member
      obtain ⟨inspection, taken, rfl⟩ := List.mem_map.mp member
      obtain ⟨isListed, satisfied⟩ :=
        List.mem_filter.mp (isStableSort_chosen.perm.mem_iff.mp taken)
      exact injectable inspection isListed satisfied
    obtain ⟨services, after, named, admitted⟩ :=
      exists_admittedAll complete injectableAll before
    refine ⟨services, after, _, executes_bind_iff.mpr (.inr ⟨_, [], _, before,
      (List.append_nil _).symm, executes_lift_iff.mpr ⟨_,
        runs_selectBackends parsed granted listed inspected, rfl, rfl⟩,
      executes_ofExcept_bind_ok_iff.mpr admitted⟩), named, isStableSort_chosen⟩

end Resources

namespace OneDevice

def devicesBody (name : String) : Text :=
  ("\x7b\"devices\":[\x7b\"name\":\"".toList ++ name.toList ++
    ("\",\"status\":\x7b\"name\":\"online\"\x7d," ++ "\"queue_length\":0\x7d]\x7d").toList)

/-- The device with the configuration that the service has for it. -/
def inspection (name : String) : Inspection where
  device := ⟨name.toList, .online, none, none, 0⟩
  status := TwoAccounts.ok []
  configuration := TwoAccounts.ok TwoAccounts.configuration.render

def response (name : String) : BackendsResponse :=
  ⟨some [(inspection name).device]⟩

def codec (name : String) : Codec :=
  { TwoAccounts.codec with readBackends := readDocument (devicesBody name) (response name) }

def granted : Configuration :=
  TwoAccounts.config "https://second" "crn2" (some "t".toList)

def tokenTrace : List WebEvent :=
  [⟨.now, (0 : Nat)⟩,
    ⟨.postForm (tokenUrl "https://iam".toList) (tokenForm "key2".toList),
      TwoAccounts.ok TwoAccounts.tokenBody⟩]

theorem fit : ∀ entry ∈ TwoAccounts.plain.entries, '=' ∉ entry.1 ∧ '\x00' ∉ entry.1 := by
  decide

theorem renews (name : String) :
    (renewToken (codec name) TwoAccounts.second).Runs tokenTrace (.ok granted) :=
  .ask (.ask (.done _))

theorem satisfies (name : String) :
    (inspection name).satisfies (codec name) TwoAccounts.readConfiguration .default = true :=
  rfl

theorem reads (name : String) :
    readBackendsReply (codec name) (TwoAccounts.ok (devicesBody name)) =
      .ok (response name) := by
  change (readDocument (devicesBody name) (response name) (devicesBody name)).mapError _ = _
  rw [readDocument_self]
  rfl

/-- The exchange of a listing. -/
def events (name : String) : List WebEvent :=
  listingEvents (codec name) granted .default tokenTrace
    (TwoAccounts.ok (devicesBody name)) [inspection name]

/-- The name of the device makes no variable. -/
theorem not_injectable : ¬ Injectable TwoAccounts.plain "a=b".toList := by
  intro injectable
  exact absurd (injectable _ (List.mem_cons_self ..)) (by decide)

theorem panics : (resources (codec "a=b") TwoAccounts.glob TwoAccounts.readConfiguration
    TwoAccounts.second none).Executes TwoAccounts.unset (events "a=b") (.error .panicked)
      TwoAccounts.unset := by
  have selects : (selectBackends (codec "a=b") TwoAccounts.glob
      TwoAccounts.readConfiguration TwoAccounts.second none).Runs (events "a=b") _ :=
    runs_selectBackends rfl (renews "a=b") (reads "a=b") rfl
  have taken : chosen (codec "a=b") TwoAccounts.readConfiguration .default
      [inspection "a=b"] = [inspection "a=b"] := by
    have sorted := @List.mergeSort_singleton Inspection (fun first second =>
      decide (first.device.queueLength ≤ second.device.queueLength)) (inspection "a=b")
    exact congrArg (List.filter _) sorted
  rw [taken] at selects
  refine executes_bind_iff.mpr (.inr ⟨_, [], _, _, (List.append_nil _).symm,
    executes_lift_iff.mpr ⟨_, selects, rfl, rfl⟩, executes_ofExcept_bind_ok_iff.mpr ?_⟩)
  refine executes_bind_iff.mpr (.inl ⟨_, rfl, executes_bind_iff.mpr (.inl ⟨_, rfl, ?_⟩)⟩)
  refine executes_bind_iff.mpr (.inl ⟨_, rfl, ?_⟩)
  exact executes_throw_iff.mpr ⟨rfl, rfl, rfl⟩

end OneDevice

namespace TwoDevices

/-- The first device has the longer queue. -/
def inspections : List Inspection :=
  [⟨⟨"b".toList, .online, none, none, 3⟩, TwoAccounts.ok [],
      TwoAccounts.ok TwoAccounts.configuration.render⟩,
    ⟨⟨"c".toList, .online, none, none, 1⟩, TwoAccounts.ok [],
      TwoAccounts.ok TwoAccounts.configuration.render⟩]

def response : BackendsResponse :=
  ⟨some (inspections.map (·.device))⟩

def codec : Codec :=
  { TwoAccounts.codec with readBackends := readDocument (OneDevice.devicesBody "b,c") response }

theorem renews : (renewToken codec TwoAccounts.second).Runs OneDevice.tokenTrace
    (.ok OneDevice.granted) :=
  .ask (.ask (.done _))

theorem reads : readBackendsReply codec (TwoAccounts.ok (OneDevice.devicesBody "b,c")) =
    .ok response :=
  congrArg (Except.mapError ApiError.serde)
    (readDocument_self (OneDevice.devicesBody "b,c") response)

/-- The exchange of a listing. -/
def events : List WebEvent :=
  listingEvents codec OneDevice.granted .default OneDevice.tokenTrace
    (TwoAccounts.ok (OneDevice.devicesBody "b,c")) inspections

end TwoDevices

theorem resources_filteredAndSorted_twoDevices :
    ∃ services after sorted,
      (resources TwoDevices.codec TwoAccounts.glob TwoAccounts.readConfiguration
        TwoAccounts.second none).Executes TwoAccounts.unset TwoDevices.events
        (.ok services) after ∧
      services.map (·.backendName) = sorted.map (·.device.name) ∧
      IsStableSort (·.device.queueLength)
        (TwoDevices.inspections.filter
          (·.satisfies TwoDevices.codec TwoAccounts.readConfiguration .default))
        sorted := by
  refine (resources_filteredAndSorted_iff TwoAccounts.constructed_second OneDevice.fit rfl
    TwoDevices.renews TwoDevices.reads rfl).mpr ?_
  intro inspection member _
  rcases List.mem_pair.mp member with rfl | rfl <;> exact ⟨by decide, by decide⟩

/-- A selected device whose name holds an equals sign makes the listing panic. -/
theorem exists_panicking_listing :
    ∃ (codec : Codec) (glob : GlobLibrary)
      (readConfiguration : Json → Except String BackendConfiguration)
      (environment : SettingsMap) (provider : IBMQuantumComputeServiceProvider)
      (filter : BackendFilter) (config : Configuration) (tokenTrace : List WebEvent)
      (listReply : HttpReply) (response : BackendsResponse)
      (inspections : List Inspection) (before : Environment),
      new environment = .ok provider ∧
        (∀ entry ∈ environment.entries, '=' ∉ entry.1 ∧ '\x00' ∉ entry.1) ∧
        parseFilter glob [] = .ok filter ∧
        (renewToken codec provider).Runs tokenTrace (.ok config) ∧
        readBackendsReply codec listReply = .ok response ∧
        inspections.map (·.device) = response.devices.getD [] ∧
        (resources codec glob readConfiguration provider none).Executes before
          (listingEvents codec config filter tokenTrace listReply inspections)
          (.error .panicked) before ∧
        ¬ ∃ services after sorted,
          (resources codec glob readConfiguration provider none).Executes before
            (listingEvents codec config filter tokenTrace listReply inspections)
            (.ok services) after ∧
          services.map (·.backendName) = sorted.map (·.device.name) ∧
          IsStableSort (·.device.queueLength)
            (inspections.filter (·.satisfies codec readConfiguration filter)) sorted := by
  refine ⟨OneDevice.codec "a=b", TwoAccounts.glob, TwoAccounts.readConfiguration,
    TwoAccounts.plain, TwoAccounts.second, .default, OneDevice.granted, OneDevice.tokenTrace,
    TwoAccounts.ok (OneDevice.devicesBody "a=b"), OneDevice.response "a=b",
    [OneDevice.inspection "a=b"], TwoAccounts.unset, TwoAccounts.constructed_second,
    OneDevice.fit, rfl, OneDevice.renews "a=b", OneDevice.reads "a=b", rfl,
    OneDevice.panics, ?_⟩
  rintro ⟨services, after, -, executes, -, -⟩
  have injectable := injectable_of_resources rfl (OneDevice.renews "a=b")
    (OneDevice.reads "a=b") rfl executes
  exact OneDevice.not_injectable
    (injectable _ (List.mem_singleton_self _) (OneDevice.satisfies "a=b"))

end IBMQuantumComputeServiceProvider
