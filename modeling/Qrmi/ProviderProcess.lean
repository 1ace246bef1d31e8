import Qrmi.ProcessEnvironment

/-!
# Providers that share the variables of the process

Two providers of one type may list a backend of the same name.  The resources
that they return read their settings from the same variables, some when they are
constructed and one whenever a task is started.  A sequence of calls is compared
with what each resource would read if its provider's map were the only one ever
injected.
-/

open Interaction

/-- What isolation is about, for one type of provider: how its resources are
constructed, which settings that takes, and which settings a task reads later. -/
structure ProviderType where
  Action : Type
  Answer : Action → Type
  Provider : Type
  Resource : Type
  Setup : Type
  Reading : Type
  providerEnv : Provider → SettingsMap
  backendName : Resource → Text
  construct : Text → SettingsSource → Except QrmiError Resource
  /-- What the settings made of a resource when it was constructed. -/
  setup : Resource → Setup
  /-- What `task_start` reads from the variables of its moment. -/
  startReading : Resource → Environment → Reading
  /-- The settings that the construction comes to ask for. -/
  constructionKeys : SettingsMap → List String
  startKeys : List String
  /-- The outcome of `resources` and the variables after it. -/
  resources : Provider → Option Text → Environment →
    Except Fault (List Resource) → Environment → Prop
  backendName_construct : ∀ {name source resource},
    construct name source = .ok resource → backendName resource = name
  construct_alone : ∀ {name} {settings : SettingsMap} {environment : Environment},
    (∀ key ∈ constructionKeys settings,
      environment (settingVariable name key.toList) = settings.get key.toList) →
    (construct name (.environment environment)).map setup =
      (construct name (.environment (settings.alone name))).map setup
  reading_congr : ∀ {resource} {first second : Environment},
    (∀ key ∈ startKeys,
      first (settingVariable (backendName resource) key.toList) =
        second (settingVariable (backendName resource) key.toList)) →
    startReading resource first = startReading resource second
  resources_cases : ∀ {provider filters before result after},
    resources provider filters before result after →
      (∃ error, result = .error error ∧ after = before) ∨
      ∃ backendNames trace,
        (admitAll construct (providerEnv provider) backendNames :
          Method Action Answer Environment Fault (List Resource)).Executes
          before trace result after

section Events

variable (type : ProviderType)

/-- One backend that a call of `resources` came to. -/
structure Admission where
  providerEnv : SettingsMap
  backendName : Text
  outcome : Except Fault (Option type.Resource)

variable {type}

def Admission.resource (admission : Admission type) : Option type.Resource :=
  match admission.outcome with
  | .ok resource => resource
  | .error _ => none

def Admits (before : Environment) (admission : Admission type)
    (after : Environment) : Prop :=
  (admitBackend type.construct admission.providerEnv admission.backendName :
    Method type.Action type.Answer Environment Fault (Option type.Resource)).Executes
    before [] admission.outcome after

variable (type)

/-- What happens to the variables: a backend is admitted, or a task is started by a
resource that a provider with the given map returned. -/
inductive ProviderEvent
  | admission (admission : Admission type)
  | taskStart (providerEnv : SettingsMap) (resource : type.Resource)
      (environment : Environment)

variable {type}

namespace ProviderEvent

/-- The values that an event writes to variables. -/
def Writes (name value : Text) : ProviderEvent type → Prop
  | admission admitted =>
      WritesEntry admitted.backendName admitted.providerEnv.entries name value
  | taskStart .. => False

/-- The event did not panic on its way. -/
def Completes : ProviderEvent type → Prop
  | admission admitted => ∃ resource, admitted.outcome = .ok resource
  | taskStart .. => True

def Happens (before : Environment) : ProviderEvent type → Environment → Prop
  | admission admitted, after => Admits before admitted after
  | taskStart _ _ environment, after => environment = before ∧ after = before

end ProviderEvent

end Events

namespace ProviderEvent

section Variables

variable {type : ProviderType} {initial before after final : Environment}
variable {event : ProviderEvent type} {events : List (ProviderEvent type)}

/-- A sequence of events. -/
abbrev Sequence (initial : Environment) (events : List (ProviderEvent type))
    (final : Environment) : Prop :=
  History (fun before event after => Happens before event after) initial events final

theorem Happens.value (happens : event.Happens before after) (name : Text) :
    after name = before name ∨
      ∃ value, event.Writes name value ∧ after name = some value := by
  cases event with
  | admission admitted =>
      obtain ⟨-, _, injected, -⟩ := admit_cases happens
      exact injectEntries_value injected name
  | taskStart _ _ _ =>
      rw [happens.2]
      exact .inl rfl

theorem Happens.written (happens : event.Happens before after)
    (completes : event.Completes) {name value : Text}
    (writes : event.Writes name value) : after name = some value := by
  cases event with
  | taskStart _ _ _ => cases writes
  | admission admitted =>
      obtain ⟨resource, succeeded⟩ := completes
      obtain ⟨-, _, injected, ⟨error, -, failed⟩ | ⟨rfl, -⟩⟩ := admit_cases happens
      · rw [failed] at succeeded
        cases succeeded
      · exact injectBackendEnv_written injected writes

/-- The last write of a variable is of the given value. -/
def LastWrites (events : List (ProviderEvent type)) (name value : Text) : Prop :=
  ∃ past last since, events = past ++ last :: since ∧ last.Completes ∧
    last.Writes name value ∧
      ∀ other ∈ since, ∀ written, other.Writes name written → written = value

def NeverWrites (events : List (ProviderEvent type)) (name : Text) : Prop :=
  ∀ event ∈ events, ∀ value, ¬ event.Writes name value

theorem unwritten (history : Sequence initial events final)
    {name : Text} (never : NeverWrites events name) :
    final name = initial name := by
  induction history with
  | nil => rfl
  | cons first rest ih =>
      rw [ih fun event member => never event (List.mem_cons_of_mem _ member)]
      rcases Happens.value first name with kept | ⟨value, writes, -⟩
      · exact kept
      · exact absurd writes (never _ (List.mem_cons_self ..) value)

/-- A value stays in a variable as long as no other one is written. -/
theorem stays (history : Sequence initial events final)
    {name value : Text} (holds : initial name = some value)
    (same : ∀ other ∈ events, ∀ written, other.Writes name written →
      written = value) :
    final name = some value := by
  induction history with
  | nil => exact holds
  | cons first rest ih =>
      refine ih ?_ fun other member => same other (List.mem_cons_of_mem _ member)
      rcases Happens.value first name with kept | ⟨written, writes, equal⟩
      · rw [kept, holds]
      · rw [equal, same _ (List.mem_cons_self ..) written writes]

theorem lastWritten (history : Sequence initial events final)
    {name value : Text} (last : LastWrites events name value) :
    final name = some value := by
  obtain ⟨past, event, since, rfl, completes, writes, same⟩ := last
  obtain ⟨middle, -, rest⟩ := history.split
  cases rest with
  | cons taken after => exact stays after (Happens.written taken completes writes) same

end Variables

end ProviderEvent

section Calls

variable (type : ProviderType)

/-- A call, with the backends that it came to in their order. -/
inductive ProviderCall
  | resources (provider : type.Provider) (filters : Option Text)
      (admissions : List (Admission type))
      (result : Except Fault (List type.Resource))
  | taskStart (providerEnv : SettingsMap) (resource : type.Resource)
      (environment : Environment)

/-- The variables, and the resources that were returned with the maps of their
providers. -/
structure ProviderProcess where
  environment : Environment
  returned : List (SettingsMap × type.Resource)

variable {type}

namespace ProviderCall

def events : ProviderCall type → List (ProviderEvent type)
  | resources _ _ admissions _ => admissions.map .admission
  | taskStart providerEnv resource environment =>
      [.taskStart providerEnv resource environment]

/-- The backends that an execution of `resources` came to. -/
structure Reaches (provider : type.Provider) (before : Environment)
    (admissions : List (Admission type)) (result : Except Fault (List type.Resource))
    (after : Environment) : Prop where
  history : History Admits before admissions after
  ownMap : ∀ admission ∈ admissions,
    admission.providerEnv = type.providerEnv provider
  returns : ∀ resources, result = .ok resources →
    resources = admissions.filterMap Admission.resource

inductive Step : ProviderProcess type → ProviderCall type →
    ProviderProcess type → Prop
  | resources {before : ProviderProcess type} {provider : type.Provider}
      {filters : Option Text} {admissions : List (Admission type)}
      {result : Except Fault (List type.Resource)} {environment : Environment}
      (executes : type.resources provider filters before.environment result environment)
      (reaches : Reaches provider before.environment admissions result environment) :
      Step before (.resources provider filters admissions result)
        ⟨environment, before.returned ++
          (result.toOption.getD []).map (type.providerEnv provider, ·)⟩
  | taskStart {before : ProviderProcess type} {providerEnv : SettingsMap}
      {resource : type.Resource}
      (member : (providerEnv, resource) ∈ before.returned) :
      Step before (.taskStart providerEnv resource before.environment) before

/-- Every setting that a returned resource of the backend uses is the one that the
map of its provider alone would give. -/
def Isolated (name : Text) : ProviderCall type → Prop
  | resources provider _ _ result => ∀ resources, result = .ok resources →
      ∀ resource ∈ resources, type.backendName resource = name →
        (type.construct name
          (.environment ((type.providerEnv provider).alone name))).map type.setup =
            .ok (type.setup resource)
  | taskStart providerEnv resource environment => type.backendName resource = name →
      type.startReading resource environment =
        type.startReading resource (providerEnv.alone name)

end ProviderCall

/-- Nothing in a sequence of events disturbs the backend.  When it is constructed,
no variable was ever written for a setting that the map of its provider lacks, and
when a task is started, the variable for a setting of that moment was never
written, if the map lacks it, or was last written with the value of the map. -/
def Undisturbed (name : Text) (events : List (ProviderEvent type)) : Prop :=
  ∀ earlier event later, events = earlier ++ event :: later →
    match event with
    | .admission admitted => admitted.backendName = name →
        ∀ key ∈ type.constructionKeys admitted.providerEnv,
          admitted.providerEnv.get key.toList = none →
            ProviderEvent.NeverWrites earlier (settingVariable name key.toList)
    | .taskStart providerEnv resource _ => type.backendName resource = name →
        ∀ key ∈ type.startKeys,
          match providerEnv.get key.toList with
          | none =>
              ProviderEvent.NeverWrites earlier (settingVariable name key.toList)
          | some value =>
              ProviderEvent.LastWrites earlier (settingVariable name key.toList) value

end Calls

section Isolation

variable {type : ProviderType} {name : Text} {initial final : Environment}
variable {events : List (ProviderEvent type)}

open Method ProviderEvent ProviderCall

theorem admitAll_reaches {provider : type.Provider} {backendNames : List Text}
    {before after : Environment} {trace : List (Event type.Answer)}
    {result : Except Fault (List type.Resource)}
    (executes : (admitAll type.construct (type.providerEnv provider) backendNames :
      Method type.Action type.Answer Environment Fault (List type.Resource)).Executes
      before trace result after) :
    ∃ admissions, Reaches provider before admissions result after := by
  induction backendNames generalizing before after trace result with
  | nil =>
      obtain ⟨-, rfl, rfl⟩ := executes_pure_iff.mp executes
      exact ⟨[], .nil _, List.forall_mem_nil _, fun _ equal => by cases equal; rfl⟩
  | cons backendName backendNames ih =>
      have admits : ∀ {trace outcome middle},
          (admitBackend type.construct (type.providerEnv provider) backendName :
            Method type.Action type.Answer Environment Fault
              (Option type.Resource)).Executes before trace outcome middle →
          Admits before ⟨type.providerEnv provider, backendName, outcome⟩ middle := by
        intro trace outcome middle executes
        have silent := (admit_cases executes).1
        subst silent
        exact executes
      rcases executes_bind_iff.mp executes with ⟨error, rfl, failed⟩ |
        ⟨_, _, resource, middle, -, admitted, continued⟩
      · refine ⟨[_], .cons (admits failed) (.nil _), ?_, fun _ equal => nomatch equal⟩
        exact fun admission member => by rw [List.mem_singleton.mp member]
      · rcases executes_bind_iff.mp continued with ⟨error, rfl, failed⟩ |
          ⟨_, _, others, last, -, reached, returned⟩
        · obtain ⟨admissions, rest⟩ := ih failed
          refine ⟨_ :: admissions, .cons (admits admitted) rest.history,
            List.forall_mem_cons.mpr ⟨rfl, rest.ownMap⟩, fun _ equal => nomatch equal⟩
        · obtain ⟨-, rfl, rfl⟩ := executes_pure_iff.mp returned
          obtain ⟨admissions, rest⟩ := ih reached
          refine ⟨_ :: admissions, .cons (admits admitted) rest.history,
            List.forall_mem_cons.mpr ⟨rfl, rest.ownMap⟩, fun resources equal => ?_⟩
          cases equal
          rw [rest.returns others rfl]
          cases resource with
          | none => rfl
          | some resource => rfl

/-- Every execution of `resources` comes to some backends. -/
theorem exists_reaches {provider : type.Provider} {filters : Option Text}
    {before after : Environment} {result : Except Fault (List type.Resource)}
    (executes : type.resources provider filters before result after) :
    ∃ admissions, Reaches provider before admissions result after := by
  rcases type.resources_cases executes with ⟨error, rfl, rfl⟩ | ⟨names, trace, admitted⟩
  · exact ⟨[], .nil _, List.forall_mem_nil _, fun _ equal => by cases equal⟩
  · exact admitAll_reaches admitted

/-- Every execution of `resources` is a call of the process. -/
theorem exists_step_of_resources {before : ProviderProcess type} {provider : type.Provider}
    {filters : Option Text} {result : Except Fault (List type.Resource)}
    {environment : Environment}
    (executes : type.resources provider filters before.environment result environment) :
    ∃ admissions after, Step before (.resources provider filters admissions result) after := by
  obtain ⟨admissions, reaches⟩ := exists_reaches executes
  exact ⟨admissions, _, .resources executes reaches⟩

/-- The events of a sequence of calls, in order. -/
theorem sequence_of_calls {before after : ProviderProcess type}
    {calls : List (ProviderCall type)}
    (history : History ProviderCall.Step before calls after) :
    Sequence before.environment (calls.flatMap ProviderCall.events)
      after.environment := by
  induction history with
  | nil => exact .nil _
  | cons first _ ih =>
      rw [List.flatMap_cons]
      refine History.append ?_ ih
      cases first with
      | taskStart member => exact .cons ⟨rfl, rfl⟩ (.nil _)
      | resources executes reaches => exact reaches.history.map _ fun admits => admits

/-- An admission that returns a resource injected its settings and constructed the
resource from the variables after that. -/
theorem Admits.constructed {before after : Environment} {admitted : Admission type}
    {resource : type.Resource} (admits : Admits before admitted after)
    (returned : admitted.resource = some resource) :
    (injectBackendEnv admitted.providerEnv admitted.backendName :
      Method type.Action type.Answer Environment Fault Unit).Executes
        before [] (.ok ()) after ∧
      type.construct admitted.backendName (.environment after) = .ok resource := by
  obtain ⟨providerEnv, backendName, outcome⟩ := admitted
  obtain ⟨-, _, injected, ⟨error, -, failed⟩ | ⟨rfl, built⟩⟩ := admit_cases admits
  · dsimp only at failed
    rw [failed] at returned
    cases returned
  · dsimp only at injected built
    rw [built] at returned
    refine ⟨injected, ?_⟩
    dsimp only
    cases outcome : type.construct backendName (.environment after) with
    | error error =>
        rw [Admission.resource, outcome] at returned
        cases returned
    | ok constructed =>
        rw [Admission.resource, outcome] at returned
        cases returned
        rfl

/-- A resource that is constructed while no setting that its map lacks was ever
written. -/
theorem admission_isolated {before after : Environment} {admitted : Admission type}
    {resource : type.Resource} (fresh : ∀ key, initial (settingVariable name key) = none)
    (history : Sequence initial events before) (admits : Admits before admitted after)
    (returned : admitted.resource = some resource)
    (named : admitted.backendName = name)
    (lacking : ∀ key ∈ type.constructionKeys admitted.providerEnv,
      admitted.providerEnv.get key.toList = none →
        NeverWrites events (settingVariable name key.toList)) :
    (type.construct name (.environment (admitted.providerEnv.alone name))).map
      type.setup = .ok (type.setup resource) := by
  obtain ⟨injected, constructed⟩ := admits.constructed returned
  subst named
  have agrees : ∀ key ∈ type.constructionKeys admitted.providerEnv,
      after (settingVariable admitted.backendName key.toList) =
        admitted.providerEnv.get key.toList := by
    intro key member
    cases stored : admitted.providerEnv.get key.toList with
    | some value =>
        have entry := admitted.providerEnv.get_eq_some_iff.mp stored
        exact injectBackendEnv_written injected ⟨_, entry, rfl⟩
    | none =>
        have absent := unwritten history (lacking key member stored)
        rcases injectEntries_value injected
          (settingVariable admitted.backendName key.toList) with kept |
          ⟨value, ⟨other, entry, same⟩, -⟩
        · rw [kept, absent, fresh]
        · rw [settingVariable_injective _ same] at entry
          rw [admitted.providerEnv.get_eq_some_iff.mpr entry] at stored
          cases stored
  rw [← type.construct_alone agrees, constructed]
  rfl

/-- A task that is started while the settings of that moment are those of the
map. -/
theorem taskStart_isolated {providerEnv : SettingsMap} {resource : type.Resource}
    {environment : Environment}
    (fresh : ∀ key, initial (settingVariable name key) = none)
    (history : Sequence initial events environment)
    (named : type.backendName resource = name)
    (undisturbed : ∀ key ∈ type.startKeys,
      match providerEnv.get key.toList with
      | none => NeverWrites events (settingVariable name key.toList)
      | some value => LastWrites events (settingVariable name key.toList) value) :
    type.startReading resource environment =
      type.startReading resource (providerEnv.alone name) := by
  subst named
  apply type.reading_congr
  intro key member
  rw [SettingsMap.alone_settingVariable]
  have condition := undisturbed key member
  cases stored : providerEnv.get key.toList with
  | none =>
      rw [stored] at condition
      rw [unwritten history condition, fresh]
  | some value =>
      rw [stored] at condition
      exact lastWritten history condition

/-- In a sequence of calls that disturb nothing, every setting that a resource of the
backend uses is the one of its provider's map. -/
theorem isolated_of_undisturbed {calls : List (ProviderCall type)}
    {last : ProviderProcess type}
    (fresh : ∀ key, initial (settingVariable name key) = none)
    (history : History ProviderCall.Step ⟨initial, []⟩ calls last)
    (undisturbed : Undisturbed name (calls.flatMap ProviderCall.events)) :
    ∀ call ∈ calls, call.Isolated name := by
  intro call member
  obtain ⟨earlier, later, rfl⟩ := List.append_of_mem member
  obtain ⟨middle, past, future⟩ := history.split
  have before := sequence_of_calls past
  rw [List.flatMap_append, List.flatMap_cons] at undisturbed
  cases future with
  | cons step rest =>
      cases step with
      | taskStart member =>
          intro named
          exact taskStart_isolated fresh before named
            (undisturbed _ _ _ rfl named)
      | resources executes reaches =>
          intro resources succeeded resource returned named
          rw [reaches.returns resources succeeded] at returned
          obtain ⟨admitted, inAdmissions, built⟩ := List.mem_filterMap.mp returned
          obtain ⟨front, back, rfl⟩ := List.append_of_mem inAdmissions
          obtain ⟨reached, inFront, inBack⟩ := reaches.history.split
          rw [← reaches.ownMap admitted inAdmissions]
          cases inBack with
          | cons admits _ =>
              have sameName : admitted.backendName = name :=
                (type.backendName_construct (admits.constructed built).2).symm.trans named
              refine admission_isolated fresh
                (before.append (inFront.map .admission fun admits => admits)) admits built
                sameName ?_
              refine undisturbed _ (.admission admitted)
                (back.map .admission ++ later.flatMap events) ?_ sameName
              rw [ProviderCall.events, List.map_append, List.map_cons,
                List.append_assoc, List.append_assoc, List.cons_append]

end Isolation
