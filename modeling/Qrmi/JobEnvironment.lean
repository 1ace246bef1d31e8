import Qrmi.KeyedStore
import Qrmi.ResourceType
import Qrmi.RustPanic
import Qrmi.TaskRunner

/-!
# The resources of a job

A job environment lists the names and the types of the quantum resources of the
job.  The task runner and the service read the lists on their own.
-/

/-- `env::VarError`, with the debug text of a value that is not Unicode. -/
inductive VarError
  | notPresent
  | notUnicode (value : Text)

def VarError.display : VarError → Text
  | notPresent => "environment variable not found".toList
  | notUnicode value => "environment variable was not valid unicode: ".toList ++ value

/-- `env::var` of every name. -/
abbrev JobVariables : Type :=
  Text → Except VarError Text

namespace JobVariables

/-- `env::var(name).or_else(|_| env::var(legacy_name))`. -/
def read (env : JobVariables) (name legacyName : Text) : Except VarError Text :=
  match env name with
  | .ok value => .ok value
  | .error _ => env legacyName

/-- The variable of the job that lists the names of its resources. -/
def qpuResources (env : JobVariables) : Except VarError Text :=
  env.read "QRMI_JOB_QPU_RESOURCES".toList "SLURM_JOB_QPU_RESOURCES".toList

/-- The variable of the job that lists their types. -/
def qpuTypes (env : JobVariables) : Except VarError Text :=
  env.read "QRMI_JOB_QPU_TYPES".toList "SLURM_JOB_QPU_TYPES".toList

end JobVariables

namespace QRMIService

/-- The `Debug` text of a list of strings. -/
def debugList (texts : List Text) : String :=
  "[" ++ String.intercalate ", " (texts.map Text.debug) ++ "]"

/-- `job_env_list`, of a variable that was read. -/
def jobEnvList (env : JobVariables) (name : String) (values : Except VarError Text) :
    Except QrmiError (List Text) :=
  match values with
  | .error _ => .error (.envVarNotSet name)
  | .ok values =>
      if values = [] then .ok []
      else
        let sep := match env "QRMI_LIST_DELIMITER".toList with
          | .ok sep => sep
          | .error _ => ",".toList
        .ok (Text.split sep values)

/-- `get_job_qpu_resources_and_types`. -/
def getJobQpuResourcesAndTypes (env : JobVariables) :
    Except QrmiError (List Text × List Text) := do
  let qpus ← jobEnvList env "QRMI_JOB_QPU_RESOURCES" env.qpuResources
  let qpuTypes ← jobEnvList env "QRMI_JOB_QPU_TYPES" env.qpuTypes
  if qpus.length ≠ qpuTypes.length then
    .error (.invalidConfig ("inconsistent number of QPU resources and types: " ++
      debugList qpus ++ " vs " ++ debugList qpuTypes))
  else
    return (qpus, qpuTypes)

end QRMIService

/-- The constructors of quantum resources, and what a resource reports. -/
structure ResourceFactory (Resource : Type) where
  create : ResourceType → Text → Except QrmiError Resource
  status : Resource → Except QrmiError ResourceStatus × Resource
  resourceType : Resource → ResourceType

namespace QRMIService

variable {Resource : Type} (factory : ResourceFactory Resource)

/-- The loop of `QRMIService::new`. -/
def register : List (Text × Text) → KeyedStore Text Resource →
    Except QrmiError (KeyedStore Text Resource)
  | [], resources => .ok resources
  | (qpu, qpuType) :: entries, resources =>
      match ResourceType.fromQpuTypeStr qpuType with
      | none => register entries resources
      | some resourceType => do
          let resource ← factory.create resourceType qpu.trim
          let reported := factory.status resource
          let status ← reported.1
          if status.status = .online then
            register entries (resources.insert qpu.trim reported.2)
          else
            register entries resources

/-- `QRMIService::new`: the resources of the service. -/
def new (env : JobVariables) : Except QrmiError (KeyedStore Text Resource) := do
  let (qpus, qpuTypes) ← getJobQpuResourcesAndTypes env
  register factory (qpus.zip qpuTypes) .empty

end QRMIService

namespace TaskRunner

/-- The delimiter of the lists. -/
def listDelimiter (env : JobVariables) : Text :=
  match env "QRMI_LIST_DELIMITER".toList with
  | .ok delimiter => if delimiter = [] then ",".toList else delimiter
  | .error _ => ",".toList

/-- `qrmi_job_env`, of a variable that was read. -/
def qrmiJobEnv (name legacyName : String) (value : Except VarError Text) :
    Except RunnerError Text :=
  match value with
  | .ok value => .ok value
  | .error err => .error (.report
      ("The environment variable `".toList ++ name.toList ++ "` or legacy `".toList ++
        legacyName.toList ++ "` is not set and as such configuration could not be ".toList ++
        "loaded. reason = ".toList ++ err.display))

/-- `find_qpu_type`. -/
def findQpuType (qpuResources qpuTypes : List Text) (qpuName : Text) :
    MayPanic (Option Text) :=
  match qpuResources.findIdx? (· == qpuName) with
  | none => .returned none
  | some index =>
      match qpuTypes[index]? with
      | none => .panicked
      | some qpuType => .returned (some qpuType)

/-- The types that `ResourceType::new` of the runner knows. -/
def supportedTypes : List ResourceType :=
  [.maestroLocal, .ibmQuantumSystem, .qiskitRuntimeService, .ibmQuantumComputeService,
    .pasqalCloud, .pasqalLocal]

/-- The type that `ResourceType::new` selects.  What it reads of the input file for
that type is left out. -/
def selectType (qpuType : Text) : Except RunnerError ResourceType :=
  match supportedTypes.find? (fun type => type.asStr == qpuType) with
  | some type => .ok type
  | none => .error (.report
      ("Resource type ".toList ++ qpuType ++ " is not supported. [supported types: ".toList ++
        "ibm-quantum-system, ibm-quantum-compute-service, ".toList ++
        "qiskit-runtime-service(deprecated), pasqal-cloud, pasqal-local, maestro-local]".toList))

/-- The part of `main` that resolves the name of a resource to its type. -/
def resolveType (env : JobVariables) (qpuName : Text) :
    MayPanic (Except RunnerError ResourceType) :=
  let delimiter := listDelimiter env
  match qrmiJobEnv "QRMI_JOB_QPU_RESOURCES" "SLURM_JOB_QPU_RESOURCES" env.qpuResources with
  | .error error => .returned (.error error)
  | .ok qpuNames =>
      match qrmiJobEnv "QRMI_JOB_QPU_TYPES" "SLURM_JOB_QPU_TYPES" env.qpuTypes with
      | .error error => .returned (.error error)
      | .ok qpuTypes => do
          match ← findQpuType (Text.split delimiter qpuNames) (Text.split delimiter qpuTypes)
              qpuName with
          | some qpuType => return selectType qpuType
          | none =>
              let message := qpuName ++ " is not specified in --qpu option".toList
              return (.error (.report message))

theorem selectType_eq_ok_iff {qpuType : Text} {type : ResourceType} :
    selectType qpuType = .ok type ↔ type ∈ supportedTypes ∧ qpuType = type.asStr := by
  unfold selectType
  constructor
  · intro selected
    split at selected
    · next found =>
        cases selected
        have named := List.find?_some found
        exact ⟨List.mem_of_find?_eq_some found, (beq_iff_eq.mp named).symm⟩
    · cases selected
  · rintro ⟨member, rfl⟩
    have listed : (supportedTypes.find? fun other => other.asStr == type.asStr).isSome :=
      List.find?_isSome.mpr ⟨type, member, beq_self_eq_true _⟩
    obtain ⟨other, found⟩ := Option.isSome_iff_exists.mp listed
    have sameName : other.asStr = type.asStr := by simpa using List.find?_some found
    rw [found, ResourceType.asStr_injective sameName]

/-- Of two lists of one length, the type of the first entry for a name is found. -/
theorem findQpuType_eq_lookup {names types : List Text} (name : Text)
    (sameLength : names.length = types.length) :
    findQpuType names types name = .returned ((names.zip types).lookup name) := by
  unfold findQpuType
  induction names generalizing types with
  | nil => rfl
  | cons first names ih =>
      cases types with
      | nil => cases sameLength
      | cons type types =>
          have shorter : names.length = types.length := by simpa using sameLength
          have rest := ih shorter
          by_cases same : first = name
          · subst same
            simp [List.findIdx?_cons]
          · have differs : (name == first) = false := by simpa using Ne.symm same
            rw [List.findIdx?_cons, List.zip_cons_cons, List.lookup_cons, differs]
            cases found : names.findIdx? (· == name) with
            | none => simpa [same, found] using rest
            | some index => simpa [same, found] using rest

end TaskRunner

section Entries

variable {Key Value : Type} [BEq Key] [LawfulBEq Key]

/-- When a key has several entries, its first and its last one hold the same
value. -/
def FirstIsLast (entries : List (Key × Value)) : Prop :=
  ∀ before key first middle last after,
    entries = before ++ (key, first) :: (middle ++ (key, last) :: after) →
    (∀ entry ∈ before, entry.1 ≠ key) → (∀ entry ∈ after, entry.1 ≠ key) →
      first = last

theorem mem_of_lookup {entries : List (Key × Value)} {key : Key} {value : Value}
    (found : entries.lookup key = some value) : (key, value) ∈ entries := by
  obtain ⟨before, after, rfl, -⟩ := List.lookup_eq_some_iff.mp found
  simp

theorem lookup_first {before after : List (Key × Value)} {key : Key} {value : Value}
    (earlier : ∀ entry ∈ before, entry.1 ≠ key) :
    (before ++ (key, value) :: after).lookup key = some value :=
  List.lookup_eq_some_iff.mpr ⟨before, after, rfl, fun entry member => by
    simpa using Ne.symm (earlier entry member)⟩

theorem lookup_last {before after : List (Key × Value)} {key : Key} {value : Value}
    (later : ∀ entry ∈ after, entry.1 ≠ key) :
    (before ++ (key, value) :: after).reverse.lookup key = some value := by
  rw [List.reverse_append, List.reverse_cons, List.append_assoc]
  exact lookup_first fun entry member => later entry (List.mem_reverse.mp member)

/-- Looking up from the front and from the back gives the same. -/
theorem lookup_reverse_iff {entries : List (Key × Value)} :
    (∀ key, entries.lookup key = entries.reverse.lookup key) ↔ FirstIsLast entries := by
  constructor
  · rintro alike before key first middle last after rfl earlier later
    have fromFront : (before ++ (key, first) :: (middle ++ (key, last) :: after)).lookup key =
        some first := lookup_first earlier
    have fromBack : ((before ++ (key, first) :: middle) ++ (key, last) :: after).reverse.lookup
        key = some last := lookup_last later
    rw [List.append_assoc, List.cons_append, ← alike, fromFront] at fromBack
    exact Option.some.inj fromBack
  · intro consistent key
    cases found : entries.lookup key with
    | none =>
        symm
        simpa [List.lookup_eq_none_iff] using found
    | some first =>
        obtain ⟨before, after, shape, earlier⟩ := List.lookup_eq_some_iff.mp found
        cases foundLast : entries.reverse.lookup key with
        | none =>
            have absent : ∀ entry ∈ entries, (key != entry.1) = true := by
              simpa [List.lookup_eq_none_iff] using foundLast
            have member : (key, first) ∈ entries := by simp [shape]
            simpa using absent _ member
        | some last =>
            obtain ⟨tail, front, reversed, later⟩ := List.lookup_eq_some_iff.mp foundLast
            have whole : before ++ (key, first) :: after =
                front.reverse ++ (key, last) :: tail.reverse := by
              rw [← shape, ← List.reverse_reverse entries, reversed]
              simp
            have earlierKeys : ∀ entry ∈ before, entry.1 ≠ key := fun entry member => by
              simpa using Ne.symm (bne_iff_ne.mp (earlier entry member))
            have laterKeys : ∀ entry ∈ tail.reverse, entry.1 ≠ key := fun entry member => by
              simpa using Ne.symm (bne_iff_ne.mp (later entry (List.mem_reverse.mp member)))
            -- The first entry stands at or in front of the last one.
            rcases List.append_eq_append_iff.mp whole with ⟨between, -, rest⟩ |
              ⟨between, hidden, rest⟩
            · cases between with
              | nil => simpa using (List.cons.inj rest).1
              | cons entry middle =>
                  obtain ⟨rfl, rfl⟩ := List.cons.inj rest
                  rw [consistent before key first middle last tail.reverse shape
                    earlierKeys laterKeys]
            · cases between with
              | nil => simpa using (List.cons.inj rest).1.symm
              | cons entry middle =>
                  obtain ⟨rfl, -⟩ := List.cons.inj rest
                  have inFront : (key, last) ∈ before := by simp [hidden]
                  exact absurd rfl (earlierKeys _ inFront)

omit [BEq Key] [LawfulBEq Key] in
theorem firstIsLast_of_nodup {entries : List (Key × Value)}
    (distinct : (entries.map Prod.fst).Nodup) : FirstIsLast entries := by
  rintro before key first middle last after rfl - -
  simp [List.nodup_append] at distinct

end Entries

/-! ## Agreement -/

/-- Every resource can be created and is online. -/
def ResourceFactory.Online {Resource : Type} (factory : ResourceFactory Resource) : Prop :=
  ∀ type name, ∃ resource status after, factory.create type name = .ok resource ∧
    factory.status resource = (.ok status, after) ∧ status.status = .online ∧
      factory.resourceType after = type

namespace QRMIService

variable {Resource : Type} {factory : ResourceFactory Resource}

/-- The name and the type of an entry, unless the type is not supported. -/
def readEntry (entry : Text × Text) : Option (Text × ResourceType) :=
  (ResourceType.fromQpuTypeStr entry.2).map fun type => (entry.1.trim, type)

/-- The service associates a name with the type of the last entry for it. -/
theorem register_online (online : factory.Online) (entries : List (Text × Text))
    (resources : KeyedStore Text Resource) :
    ∃ registered, register factory entries resources = .ok registered ∧
      ∀ name, (registered.get name).map factory.resourceType =
        ((entries.filterMap readEntry).reverse.lookup name).or
          ((resources.get name).map factory.resourceType) := by
  induction entries generalizing resources with
  | nil => exact ⟨resources, rfl, fun name => rfl⟩
  | cons entry entries ih =>
      obtain ⟨qpu, qpuType⟩ := entry
      cases parsed : ResourceType.fromQpuTypeStr qpuType with
      | none =>
          obtain ⟨registered, done, found⟩ := ih resources
          refine ⟨registered, ?_, ?_⟩
          · rw [register, parsed]
            exact done
          · simpa [readEntry, parsed] using found
      | some type =>
          obtain ⟨resource, status, after, created, reported, isOnline, rfl⟩ :=
            online type qpu.trim
          obtain ⟨registered, done, found⟩ := ih (resources.insert qpu.trim after)
          refine ⟨registered, ?_, ?_⟩
          · rw [register, parsed]
            simp only [created, reported, isOnline, if_true, bind, Except.bind]
            exact done
          · intro name
            have entryRead : readEntry (qpu, qpuType) =
                some (qpu.trim, factory.resourceType after) := by
              rw [readEntry, parsed]
              rfl
            rw [found, KeyedStore.get_insert, List.filterMap_cons_some entryRead,
              List.reverse_cons, List.lookup_append, Option.or_assoc]
            by_cases same : name = qpu.trim
            · subst same
              simp
            · have differs : (name == qpu.trim) = false := by simpa using same
              simp [same, List.lookup_cons, differs]

/-- Reading entries of supported types keeps every one of them. -/
theorem lookup_readEntry {entries : List (Text × Text)}
    (supported : ∀ entry ∈ entries, (ResourceType.fromQpuTypeStr entry.2).isSome)
    (name : Text) :
    (entries.filterMap readEntry).lookup name =
      ((entries.map (Prod.map Text.trim id)).lookup name).bind
        ResourceType.fromQpuTypeStr := by
  induction entries with
  | nil => rfl
  | cons entry entries ih =>
      obtain ⟨qpu, qpuType⟩ := entry
      have rest := ih fun other member => supported other (List.mem_cons_of_mem _ member)
      obtain ⟨type, parsed⟩ := Option.isSome_iff_exists.mp (supported _ (List.mem_cons_self ..))
      have entryRead : readEntry (qpu, qpuType) = some (qpu.trim, type) := by
        rw [readEntry, parsed]
        rfl
      rw [List.filterMap_cons_some entryRead, List.map_cons]
      by_cases same : name = qpu.trim
      · subst same
        simpa using parsed.symm
      · have differs : (name == qpu.trim) = false := by simpa using same
        simpa [List.lookup_cons, differs] using rest

end QRMIService

/-- Both programs find the same types: every listed name is trimmed, and a name that
is listed again is listed with the same type. -/
theorem lookup_trimmed_iff {entries : List (Text × Text)} :
    (∀ name, entries.lookup name = (entries.map (Prod.map Text.trim id)).reverse.lookup name) ↔
      (∀ entry ∈ entries, entry.1.trim = entry.1) ∧ FirstIsLast entries := by
  have kept (trimmed : ∀ entry ∈ entries, entry.1.trim = entry.1) :
      entries.map (Prod.map Text.trim id) = entries := by
    have same : ∀ entry ∈ entries, Prod.map Text.trim id entry = entry :=
      fun entry member => Prod.ext (trimmed entry member) rfl
    exact (List.map_congr_left same).trans (List.map_id' entries)
  constructor
  · intro alike
    have trimmed : ∀ entry ∈ entries, entry.1.trim = entry.1 := by
      intro entry member
      cases found : entries.lookup entry.1 with
      | none => exact absurd (List.lookup_eq_none_iff.mp found entry member) (by simp)
      | some type =>
          rw [alike] at found
          obtain ⟨front, tail, reversed, -⟩ := List.lookup_eq_some_iff.mp found
          have listed : (entry.1, type) ∈ entries.map (Prod.map Text.trim id) := by
            rw [← List.mem_reverse, reversed]
            simp
          obtain ⟨other, -, equal⟩ := List.mem_map.mp listed
          have name : other.1.trim = entry.1 := congrArg Prod.fst equal
          rw [← name, Text.trim_trim]
    rw [kept trimmed] at alike
    exact ⟨trimmed, lookup_reverse_iff.mp alike⟩
  · rintro ⟨trimmed, consistent⟩
    rw [kept trimmed]
    exact lookup_reverse_iff.mpr consistent

/-- The service associates a name with a type. -/
def QRMIService.Associates {Resource : Type} (factory : ResourceFactory Resource)
    (env : JobVariables) (name : Text) (type : ResourceType) : Prop :=
  ∃ resources resource, QRMIService.new factory env = .ok resources ∧
    resources.get name = some resource ∧ factory.resourceType resource = type

/-- The lists of the job have different lengths. -/
def JobVariables.Inconsistent (env : JobVariables) : Prop :=
  ∃ qpus qpuTypes,
    QRMIService.jobEnvList env "QRMI_JOB_QPU_RESOURCES" env.qpuResources = .ok qpus ∧
    QRMIService.jobEnvList env "QRMI_JOB_QPU_TYPES" env.qpuTypes = .ok qpuTypes ∧
    qpus.length ≠ qpuTypes.length

/-- The runner and the service resolve the resources of a job alike. -/
structure JobVariables.ResolvedAlike {Resource : Type} (factory : ResourceFactory Resource)
    (env : JobVariables) : Prop where
  sameTypes : ∀ name type, TaskRunner.resolveType env name = .returned (.ok type) ↔
    QRMIService.Associates factory env name type
  rejects : env.Inconsistent →
    (∀ name, ∃ error, TaskRunner.resolveType env name = .returned (.error error)) ∧
      ∃ error, QRMIService.new factory env = .error error
  noPanic : ∀ name, TaskRunner.resolveType env name ≠ .panicked

/-- The listed types are known to both programs. -/
def JobVariables.ListsSupportedTypes (env : JobVariables) : Prop :=
  ∀ types, env.qpuTypes = .ok types → types ≠ [] →
    ∀ qpuType ∈ Text.split (TaskRunner.listDelimiter env) types,
      ∃ type ∈ TaskRunner.supportedTypes, qpuType = type.asStr

/-- Lists that leave no choice of how to read them: equally long, with trimmed names,
and with one type for the first and the last entry of each name. -/
structure WellListed (names types : List Text) : Prop where
  sameLength : names.length = types.length
  trimmed : ∀ name ∈ names, name.trim = name
  firstIsLast : FirstIsLast (names.zip types)

/-- When the lists are set, either no types are given, to what is one name, or there
are names, a delimiter that is not empty, and well listed resources. -/
def JobVariables.ReadsAlike (env : JobVariables) : Prop :=
  ∀ names types, env.qpuResources = .ok names → env.qpuTypes = .ok types →
    let listed := Text.split (TaskRunner.listDelimiter env) names
    if types = [] then ∀ name ∈ listed, ∀ other ∈ listed, name = other
    else names ≠ [] ∧ env "QRMI_LIST_DELIMITER".toList ≠ .ok [] ∧
      WellListed listed (Text.split (TaskRunner.listDelimiter env) types)

section Agreement

variable {Resource : Type} {factory : ResourceFactory Resource}
variable {env : JobVariables} {names types : Text}

open TaskRunner QRMIService

theorem resolveType_of_lists (namesSet : env.qpuResources = .ok names)
    (typesSet : env.qpuTypes = .ok types) (name : Text) :
    resolveType env name =
      (findQpuType (Text.split (listDelimiter env) names)
        (Text.split (listDelimiter env) types) name >>= fun found =>
          match found with
          | some qpuType => .returned (selectType qpuType)
          | none => .returned (.error (.report
              (name ++ " is not specified in --qpu option".toList)))) := by
  rw [resolveType, namesSet, typesSet]
  rfl

/-- The first listed name is always found. -/
theorem resolves_first (namesSet : env.qpuResources = .ok names)
    (typesSet : env.qpuTypes = .ok types) (given : types ≠ [])
    (supported : env.ListsSupportedTypes) :
    ∃ name type, resolveType env name = .returned (.ok type) := by
  obtain ⟨name, others, namesSplit⟩ :=
    List.exists_cons_of_ne_nil (Text.split_ne_nil (listDelimiter env) names)
  obtain ⟨qpuType, rest, typesSplit⟩ :=
    List.exists_cons_of_ne_nil (Text.split_ne_nil (listDelimiter env) types)
  obtain ⟨type, known, rfl⟩ := supported types typesSet given qpuType (by simp [typesSplit])
  have selected : selectType type.asStr = .ok type := selectType_eq_ok_iff.mpr ⟨known, rfl⟩
  refine ⟨name, type, ?_⟩
  rw [resolveType_of_lists namesSet typesSet, namesSplit, typesSplit]
  simp [findQpuType, List.findIdx?_cons, selected]

theorem not_resolvedAlike (namesSet : env.qpuResources = .ok names)
    (typesSet : env.qpuTypes = .ok types) (given : types ≠ [])
    (supported : env.ListsSupportedTypes)
    (unknown : ∀ name type, ¬ Associates factory env name type) :
    ¬ env.ResolvedAlike factory := by
  intro alike
  obtain ⟨name, type, resolved⟩ := resolves_first namesSet typesSet given supported
  exact unknown name type ((alike.sameTypes name type).mp resolved)

/-- A service that fails associates nothing. -/
theorem not_associates_of_error {error : QrmiError}
    (failed : QRMIService.new factory env = .error error) (name : Text) (type : ResourceType) :
    ¬ Associates factory env name type := by
  rintro ⟨resources, resource, created, -, -⟩
  rw [failed] at created
  cases created

theorem listDelimiter_ne_nil (env : JobVariables) : listDelimiter env ≠ [] := by
  unfold listDelimiter
  split
  · split
    · decide
    · assumption
  · decide

/-- A list that is given is split like the runner splits it, except by the empty
delimiter. -/
theorem jobEnvList_of_delimiter (name : String) {values : Text} (given : values ≠ [])
    (delimited : env "QRMI_LIST_DELIMITER".toList ≠ .ok []) :
    jobEnvList env name (.ok values) = .ok (Text.split (listDelimiter env) values) := by
  unfold listDelimiter
  cases read : env "QRMI_LIST_DELIMITER".toList with
  | error error => simp only [jobEnvList, given, read, if_false]
  | ok delimiter =>
      have nonempty : delimiter ≠ [] := by
        rintro rfl
        exact delimited read
      simp only [jobEnvList, given, read, nonempty, if_false]

theorem jobEnvList_of_empty (name : String) {values : Text} (given : values ≠ [])
    (undelimited : env "QRMI_LIST_DELIMITER".toList = .ok []) :
    jobEnvList env name (.ok values) = .ok (Text.split [] values) := by
  simp only [jobEnvList, given, undelimited, if_false]

theorem jobEnvList_eq_ok_cons (name : String) {values : Text} (given : values ≠ []) :
    ∃ first rest, jobEnvList env name (.ok values) = .ok (first :: rest) := by
  have splits (sep : Text) : ∃ first rest, Text.split sep values = first :: rest :=
    List.exists_cons_of_ne_nil (Text.split_ne_nil sep values)
  simp only [jobEnvList, given, if_false]
  split
  · next sep _ =>
      obtain ⟨first, rest, shape⟩ := splits sep
      exact ⟨first, rest, by rw [shape]⟩
  · obtain ⟨first, rest, shape⟩ := splits ",".toList
    exact ⟨first, rest, by rw [shape]⟩

theorem new_of_inconsistent (inconsistent : env.Inconsistent) :
    ∃ error, QRMIService.new factory env = .error error := by
  obtain ⟨qpus, qpuTypes, qpusRead, typesRead, different⟩ := inconsistent
  rw [QRMIService.new, getJobQpuResourcesAndTypes, qpusRead, typesRead]
  simp only [bind, Except.bind, different, ne_eq, not_false_eq_true, if_true]
  exact ⟨_, rfl⟩

theorem new_of_consistent {qpus qpuTypes : List Text}
    (qpusRead : jobEnvList env "QRMI_JOB_QPU_RESOURCES" env.qpuResources = .ok qpus)
    (typesRead : jobEnvList env "QRMI_JOB_QPU_TYPES" env.qpuTypes = .ok qpuTypes)
    (sameLength : qpus.length = qpuTypes.length) :
    QRMIService.new factory env = register factory (qpus.zip qpuTypes) .empty := by
  rw [QRMIService.new, getJobQpuResourcesAndTypes, qpusRead, typesRead]
  simp only [bind, Except.bind, sameLength, ne_eq, not_true_eq_false, if_false]
  rfl

/-- What the service associates, in terms of the entries that it reads. -/
theorem associates_iff (online : factory.Online) {qpus qpuTypes : List Text}
    (qpusRead : jobEnvList env "QRMI_JOB_QPU_RESOURCES" env.qpuResources = .ok qpus)
    (typesRead : jobEnvList env "QRMI_JOB_QPU_TYPES" env.qpuTypes = .ok qpuTypes)
    (sameLength : qpus.length = qpuTypes.length) (name : Text) (type : ResourceType) :
    Associates factory env name type ↔
      ((qpus.zip qpuTypes).filterMap readEntry).reverse.lookup name = some type := by
  obtain ⟨registered, done, found⟩ :=
    register_online online (qpus.zip qpuTypes) KeyedStore.empty
  have created : QRMIService.new factory env = .ok registered :=
    (new_of_consistent qpusRead typesRead sameLength).trans done
  have here : (registered.get name).map factory.resourceType =
      ((qpus.zip qpuTypes).filterMap readEntry).reverse.lookup name := by
    simpa using found name
  rw [← here, Option.map_eq_some_iff]
  constructor
  · rintro ⟨resources, resource, made, held, typed⟩
    rw [created] at made
    cases made
    exact ⟨resource, held, typed⟩
  · rintro ⟨resource, held, typed⟩
    exact ⟨registered, resource, created, held, typed⟩

/-- Without types the runner finds at most the first name, whose type is unknown, and
panics at any other. -/
theorem findQpuType_singleton (first : Text) (rest : List Text) (qpuType name : Text) :
    findQpuType (first :: rest) [qpuType] name =
      if first = name then .returned (some qpuType)
      else if name ∈ rest then .panicked else .returned none := by
  by_cases same : first = name
  · simp [findQpuType, List.findIdx?_cons, same]
  · by_cases listed : name ∈ rest
    · have found : (rest.findIdx? (· == name)).isSome := by
        rw [List.findIdx?_isSome]
        simpa using listed
      obtain ⟨index, position⟩ := Option.isSome_iff_exists.mp found
      simp [findQpuType, List.findIdx?_cons, same, listed, position]
    · have absent : rest.findIdx? (· == name) = none := by
        rw [List.findIdx?_eq_none_iff]
        intro other member
        simpa using fun equal : other = name => listed (equal ▸ member)
      simp [findQpuType, List.findIdx?_cons, same, listed, absent]

theorem selectType_nil : ∃ error, selectType [] = .error error := by
  cases selected : selectType [] with
  | error error => exact ⟨error, rfl⟩
  | ok type =>
      obtain ⟨-, empty⟩ := selectType_eq_ok_iff.mp selected
      cases type <;> cases empty

/-- Without types the service associates nothing. -/
theorem not_associates_of_untyped (typesSet : env.qpuTypes = .ok [])
    (namesSet : env.qpuResources = .ok names) (name : Text) (type : ResourceType) :
    ¬ Associates factory env name type := by
  have typesRead : jobEnvList env "QRMI_JOB_QPU_TYPES" env.qpuTypes = .ok [] := by
    rw [typesSet]
    rfl
  by_cases unnamed : names = []
  · subst unnamed
    have namesRead : jobEnvList env "QRMI_JOB_QPU_RESOURCES" env.qpuResources = .ok [] := by
      rw [namesSet]
      rfl
    rintro ⟨resources, resource, created, held, -⟩
    rw [new_of_consistent namesRead typesRead rfl] at created
    cases created
    cases held
  · obtain ⟨first, rest, namesRead⟩ : ∃ first rest,
        jobEnvList env "QRMI_JOB_QPU_RESOURCES" (.ok names) = .ok (first :: rest) :=
      jobEnvList_eq_ok_cons _ unnamed
    rw [← namesSet] at namesRead
    obtain ⟨error, failed⟩ : ∃ error, QRMIService.new factory env = .error error :=
      new_of_inconsistent ⟨first :: rest, [], namesRead, typesRead, by simp⟩
    exact not_associates_of_error failed name type

/-- Without types, the programs agree as long as only one name is listed. -/
theorem resolvedAlike_of_untyped_iff (namesSet : env.qpuResources = .ok names)
    (typesSet : env.qpuTypes = .ok []) :
    env.ResolvedAlike factory ↔
      ∀ name ∈ Text.split (listDelimiter env) names,
        ∀ other ∈ Text.split (listDelimiter env) names, name = other := by
  obtain ⟨first, rest, namesSplit⟩ :=
    List.exists_cons_of_ne_nil (Text.split_ne_nil (listDelimiter env) names)
  have typesSplit := Text.split_nil (listDelimiter_ne_nil env)
  have resolves (name : Text) := resolveType_of_lists namesSet typesSet name
  simp only [namesSplit, typesSplit, findQpuType_singleton] at resolves
  rw [namesSplit]
  constructor
  · intro alike
    have single : ∀ name ∈ first :: rest, name = first := by
      intro name member
      by_contra different
      have inRest : name ∈ rest := (List.mem_cons.mp member).resolve_left different
      have panics := resolves name
      rw [if_neg (Ne.symm different), if_pos inRest] at panics
      exact alike.noPanic name panics
    intro name member other otherMember
    rw [single name member, single other otherMember]
  · intro single
    have refused : ∀ name, ∃ error, resolveType env name = .returned (.error error) := by
      intro name
      by_cases same : first = name
      · obtain ⟨error, refused⟩ := selectType_nil
        exact ⟨error, by simp [resolves, same, refused]⟩
      · have absent : name ∉ rest := fun member =>
          same (single first (by simp) name (List.mem_cons_of_mem _ member))
        exact ⟨_, by simp only [resolves, same, absent, if_false]; rfl⟩
    have unknown : ∀ name type, ¬ Associates factory env name type :=
      not_associates_of_untyped typesSet namesSet
    constructor
    · intro name type
      obtain ⟨error, isError⟩ := refused name
      simp [isError, unknown]
    · exact fun inconsistent => ⟨refused, new_of_inconsistent inconsistent⟩
    · intro name panics
      obtain ⟨error, isError⟩ := refused name
      rw [isError] at panics
      cases panics

/-- With types but without names, the service refuses or knows nothing. -/
theorem not_associates_of_unnamed (namesSet : env.qpuResources = .ok [])
    (typesSet : env.qpuTypes = .ok types) (given : types ≠ []) (name : Text)
    (type : ResourceType) : ¬ Associates factory env name type := by
  have namesRead : jobEnvList env "QRMI_JOB_QPU_RESOURCES" env.qpuResources = .ok [] := by
    rw [namesSet]
    rfl
  obtain ⟨first, rest, typesRead⟩ : ∃ first rest,
      jobEnvList env "QRMI_JOB_QPU_TYPES" (.ok types) = .ok (first :: rest) :=
    jobEnvList_eq_ok_cons _ given
  rw [← typesSet] at typesRead
  obtain ⟨error, failed⟩ : ∃ error, QRMIService.new factory env = .error error :=
    new_of_inconsistent ⟨[], first :: rest, namesRead, typesRead, by simp⟩
  exact not_associates_of_error failed name type

/-- The pieces that the empty delimiter leaves are no types. -/
theorem readEntry_of_empty {qpus : List Text} {types : Text} :
    (qpus.zip (Text.split [] types)).filterMap readEntry = [] := by
  refine List.filterMap_eq_nil_iff.mpr fun entry member => ?_
  have piece : entry.2 ∈ Text.split [] types := (List.of_mem_zip member).2
  have short : entry.2.length ≤ 1 := by
    simp only [Text.split, if_true, List.cons_append, List.mem_cons, List.mem_append,
      List.mem_map, List.not_mem_nil, or_false] at piece
    rcases piece with empty | ⟨char, -, single⟩ | empty
    · simp [empty]
    · simp [← single]
    · simp [empty]
  cases parsed : ResourceType.fromQpuTypeStr entry.2 with
  | none => simp [readEntry, parsed]
  | some type =>
      rw [ResourceType.fromQpuTypeStr_eq_some_iff.mp parsed] at short
      have long : 1 < type.asStr.length := by cases type <;> decide
      omega

/-- Split by the empty delimiter, the service associates nothing. -/
theorem not_associates_of_undelimited (online : factory.Online)
    (namesSet : env.qpuResources = .ok names) (typesSet : env.qpuTypes = .ok types)
    (named : names ≠ []) (given : types ≠ [])
    (undelimited : env "QRMI_LIST_DELIMITER".toList = .ok []) (name : Text)
    (type : ResourceType) : ¬ Associates factory env name type := by
  have namesRead := jobEnvList_of_empty "QRMI_JOB_QPU_RESOURCES" named undelimited
  have typesRead := jobEnvList_of_empty "QRMI_JOB_QPU_TYPES" given undelimited
  rw [← namesSet] at namesRead
  rw [← typesSet] at typesRead
  by_cases sameLength : (Text.split [] names).length = (Text.split [] types).length
  · rw [associates_iff online namesRead typesRead sameLength, readEntry_of_empty]
    simp
  · obtain ⟨error, failed⟩ : ∃ error, QRMIService.new factory env = .error error :=
      new_of_inconsistent ⟨_, _, namesRead, typesRead, sameLength⟩
    exact not_associates_of_error failed name type

/-- What the runner resolves, in terms of the entries that it reads. -/
theorem resolveType_eq_ok_iff (namesSet : env.qpuResources = .ok names)
    (typesSet : env.qpuTypes = .ok types) (given : types ≠ [])
    (supported : env.ListsSupportedTypes)
    (sameLength : (Text.split (listDelimiter env) names).length =
      (Text.split (listDelimiter env) types).length) (name : Text) (type : ResourceType) :
    resolveType env name = .returned (.ok type) ↔
      (((Text.split (listDelimiter env) names).zip
        (Text.split (listDelimiter env) types)).lookup name).bind
          ResourceType.fromQpuTypeStr = some type := by
  rw [resolveType_of_lists namesSet typesSet, findQpuType_eq_lookup name sameLength]
  cases found : ((Text.split (listDelimiter env) names).zip
      (Text.split (listDelimiter env) types)).lookup name with
  | none => simp
  | some qpuType =>
      obtain ⟨front, tail, shape, -⟩ := List.lookup_eq_some_iff.mp found
      have listed : qpuType ∈ Text.split (listDelimiter env) types :=
        (List.of_mem_zip (a := name) (by rw [shape]; simp)).2
      obtain ⟨known, member, rfl⟩ := supported types typesSet given qpuType listed
      have selected : selectType known.asStr = .ok known :=
        selectType_eq_ok_iff.mpr ⟨member, rfl⟩
      simp [selected, ResourceType.fromQpuTypeStr_asStr]

/-- Types are compared by their names. -/
theorem eq_of_parsed {found other : Option Text}
    (foundParses : ∀ qpuType ∈ found, (ResourceType.fromQpuTypeStr qpuType).isSome)
    (otherParses : ∀ qpuType ∈ other, (ResourceType.fromQpuTypeStr qpuType).isSome)
    (same : ∀ type, found.bind ResourceType.fromQpuTypeStr = some type ↔
      other.bind ResourceType.fromQpuTypeStr = some type) : found = other := by
  cases found with
  | none =>
      cases other with
      | none => rfl
      | some qpuType =>
          obtain ⟨type, parsed⟩ := Option.isSome_iff_exists.mp (otherParses qpuType rfl)
          simpa [parsed] using same type
  | some qpuType =>
      obtain ⟨type, parsed⟩ := Option.isSome_iff_exists.mp (foundParses qpuType rfl)
      have otherParsed := (same type).mp (by simp [parsed])
      obtain ⟨otherType, rfl, parsedSame⟩ := Option.bind_eq_some_iff.mp otherParsed
      rw [ResourceType.fromQpuTypeStr_eq_some_iff.mp parsed,
        ResourceType.fromQpuTypeStr_eq_some_iff.mp parsedSame]

/-- Lists of one length that both programs split in the same way. -/
theorem resolvedAlike_of_lists_iff (online : factory.Online)
    (namesSet : env.qpuResources = .ok names) (typesSet : env.qpuTypes = .ok types)
    (named : names ≠ []) (given : types ≠ []) (supported : env.ListsSupportedTypes)
    (delimited : env "QRMI_LIST_DELIMITER".toList ≠ .ok [])
    (sameLength : (Text.split (listDelimiter env) names).length =
      (Text.split (listDelimiter env) types).length) :
    env.ResolvedAlike factory ↔
      WellListed (Text.split (listDelimiter env) names)
        (Text.split (listDelimiter env) types) := by
  have namesRead := jobEnvList_of_delimiter "QRMI_JOB_QPU_RESOURCES" named delimited
  have typesRead := jobEnvList_of_delimiter "QRMI_JOB_QPU_TYPES" given delimited
  rw [← namesSet] at namesRead
  rw [← typesSet] at typesRead
  have runner := resolveType_eq_ok_iff namesSet typesSet given supported sameLength
  have service := associates_iff online namesRead typesRead sameLength
  have panics : ∀ name, resolveType env name ≠ .panicked := by
    intro name
    rw [resolveType_of_lists namesSet typesSet, findQpuType_eq_lookup name sameLength]
    cases ((Text.split (listDelimiter env) names).zip
      (Text.split (listDelimiter env) types)).lookup name <;> simp
  have consistent : ¬ env.Inconsistent := by
    rintro ⟨qpus, qpuTypes, qpusRead, otherRead, different⟩
    rw [namesRead] at qpusRead
    rw [typesRead] at otherRead
    cases qpusRead
    cases otherRead
    exact different sameLength
  have parses : ∀ qpuType ∈ Text.split (listDelimiter env) types,
      (ResourceType.fromQpuTypeStr qpuType).isSome := by
    intro qpuType member
    obtain ⟨type, -, rfl⟩ := supported types typesSet given qpuType member
    rw [ResourceType.fromQpuTypeStr_asStr]
    rfl
  generalize Text.split (listDelimiter env) names = listed at *
  generalize Text.split (listDelimiter env) types = listedTypes at *
  have entriesParse : ∀ entry ∈ listed.zip listedTypes,
      (ResourceType.fromQpuTypeStr entry.2).isSome :=
    fun entry member => parses entry.2 (List.of_mem_zip member).2
  have lookups : (∀ name type, resolveType env name = .returned (.ok type) ↔
        Associates factory env name type) ↔
      ∀ name, (listed.zip listedTypes).lookup name =
        ((listed.zip listedTypes).map (Prod.map Text.trim id)).reverse.lookup name := by
    have reversed (name : Text) :
        ((listed.zip listedTypes).reverse.filterMap readEntry).lookup name =
          (((listed.zip listedTypes).reverse.map (Prod.map Text.trim id)).lookup name).bind
            ResourceType.fromQpuTypeStr :=
      lookup_readEntry (fun entry member => entriesParse entry (List.mem_reverse.mp member)) name
    simp only [List.filterMap_reverse, List.map_reverse] at reversed
    simp only [runner, service, reversed]
    constructor
    · intro same name
      refine eq_of_parsed (fun qpuType found => ?_) (fun qpuType found => ?_) (same name)
      · exact entriesParse _ (mem_of_lookup found)
      · have member := List.mem_reverse.mp (mem_of_lookup found)
        obtain ⟨entry, inZip, equal⟩ := List.mem_map.mp member
        have sameType : entry.2 = qpuType := congrArg Prod.snd equal
        rw [← sameType]
        exact entriesParse entry inZip
    · intro same name type
      rw [same]
  have trimmed : (∀ entry ∈ listed.zip listedTypes, entry.1.trim = entry.1) ↔
      ∀ name ∈ listed, name.trim = name := by
    have keys : (listed.zip listedTypes).map Prod.fst = listed :=
      List.map_fst_zip (le_of_eq sameLength)
    constructor
    · intro kept name member
      rw [← keys] at member
      obtain ⟨entry, inZip, rfl⟩ := List.mem_map.mp member
      exact kept entry inZip
    · exact fun kept entry member => kept entry.1 (List.of_mem_zip member).1
  constructor
  · intro alike
    obtain ⟨kept, firstIsLast⟩ := lookup_trimmed_iff.mp (lookups.mp alike.sameTypes)
    exact ⟨sameLength, trimmed.mp kept, firstIsLast⟩
  · rintro ⟨-, kept, firstIsLast⟩
    exact ⟨lookups.mpr (lookup_trimmed_iff.mpr ⟨trimmed.mpr kept, firstIsLast⟩),
      fun inconsistent => absurd inconsistent consistent, panics⟩

/-- Programs that both refuse agree. -/
theorem resolvedAlike_of_refused
    (refused : ∀ name, ∃ error, resolveType env name = .returned (.error error))
    (failed : ∃ error, QRMIService.new factory env = .error error) :
    env.ResolvedAlike factory := by
  obtain ⟨failure, failed⟩ := failed
  constructor
  · intro name type
    obtain ⟨error, isError⟩ := refused name
    simp [isError, not_associates_of_error failed]
  · exact fun _ => ⟨refused, failure, failed⟩
  · intro name panics
    obtain ⟨error, isError⟩ := refused name
    rw [isError] at panics
    cases panics

/-- With all resources online and of types that both programs support, the runner
resolves the names of a job as the service does exactly when the lists can be read
in one way only. -/
theorem resolvedAlike_iff (factory : ResourceFactory Resource) (online : factory.Online)
    (env : JobVariables) (supported : env.ListsSupportedTypes) :
    env.ResolvedAlike factory ↔ env.ReadsAlike := by
  cases namesSet : env.qpuResources with
  | error error =>
      have failed : QRMIService.new factory env =
          .error (.envVarNotSet "QRMI_JOB_QPU_RESOURCES") := by
        rw [QRMIService.new, getJobQpuResourcesAndTypes, namesSet]
        rfl
      have alike : env.ResolvedAlike factory :=
        resolvedAlike_of_refused (fun name => ⟨_, by rw [resolveType, namesSet]; rfl⟩)
          ⟨_, failed⟩
      refine iff_of_true alike fun names types isSet => ?_
      rw [namesSet] at isSet
      cases isSet
  | ok names =>
      cases typesSet : env.qpuTypes with
      | error error =>
          have unread : ∃ error, QRMIService.new factory env = .error error := by
            rw [QRMIService.new, getJobQpuResourcesAndTypes, typesSet]
            cases jobEnvList env "QRMI_JOB_QPU_RESOURCES" env.qpuResources with
            | error error => exact ⟨error, rfl⟩
            | ok qpus => exact ⟨.envVarNotSet "QRMI_JOB_QPU_TYPES", rfl⟩
          have alike : env.ResolvedAlike factory :=
            resolvedAlike_of_refused
              (fun name => ⟨_, by rw [resolveType, namesSet, typesSet]; rfl⟩) unread
          refine iff_of_true alike fun names types _ isSet => ?_
          rw [typesSet] at isSet
          cases isSet
      | ok types =>
          have condition : env.ReadsAlike ↔
              if types = [] then
                ∀ name ∈ Text.split (listDelimiter env) names,
                  ∀ other ∈ Text.split (listDelimiter env) names, name = other
              else names ≠ [] ∧ env "QRMI_LIST_DELIMITER".toList ≠ .ok [] ∧
                WellListed (Text.split (listDelimiter env) names)
                  (Text.split (listDelimiter env) types) := by
            constructor
            · exact fun reads => reads names types namesSet typesSet
            · intro holds others otherTypes othersSet otherTypesSet
              rw [namesSet] at othersSet
              rw [typesSet] at otherTypesSet
              cases othersSet
              cases otherTypesSet
              exact holds
          rw [condition]
          by_cases untyped : types = []
          · subst untyped
            rw [if_pos rfl]
            exact resolvedAlike_of_untyped_iff namesSet typesSet
          rw [if_neg untyped]
          have unlike : (∀ name type, ¬ Associates factory env name type) →
              ¬ env.ResolvedAlike factory :=
            not_resolvedAlike namesSet typesSet untyped supported
          by_cases named : names = []
          · subst named
            have unknown : ∀ name type, ¬ Associates factory env name type :=
              not_associates_of_unnamed namesSet typesSet untyped
            exact iff_of_false (unlike unknown) fun holds => holds.1 rfl
          by_cases delimited : env "QRMI_LIST_DELIMITER".toList = .ok []
          · have unknown :=
              not_associates_of_undelimited online namesSet typesSet named untyped delimited
            exact iff_of_false (unlike unknown) fun holds => holds.2.1 delimited
          by_cases sameLength : (Text.split (listDelimiter env) names).length =
              (Text.split (listDelimiter env) types).length
          · rw [resolvedAlike_of_lists_iff online namesSet typesSet named untyped supported
              delimited sameLength]
            exact ⟨fun listed => ⟨named, delimited, listed⟩, fun holds => holds.2.2⟩
          · have namesRead := jobEnvList_of_delimiter "QRMI_JOB_QPU_RESOURCES" named delimited
            have typesRead := jobEnvList_of_delimiter "QRMI_JOB_QPU_TYPES" untyped delimited
            rw [← namesSet] at namesRead
            rw [← typesSet] at typesRead
            obtain ⟨error, failed⟩ : ∃ error, QRMIService.new factory env = .error error :=
              new_of_inconsistent ⟨_, _, namesRead, typesRead, sameLength⟩
            exact iff_of_false (unlike (not_associates_of_error failed))
              fun holds => sameLength holds.2.2.sameLength

/-- Resources of every type that are online. -/
def onlineFactory : ResourceFactory (ResourceType × Text) where
  create type name := .ok (type, name)
  status resource :=
    (.ok { status := .online, statusReason := none, healthy := none, busy := none,
           capacity := none, pendingJobCount := none }, resource)
  resourceType resource := resource.1

theorem onlineFactory_online : onlineFactory.Online :=
  fun type name => ⟨(type, name), _, (type, name), rfl, rfl, rfl, rfl⟩

/-- The variables of a job with the given lists. -/
def jobOf (names types : String) : JobVariables := fun name =>
  if name = "QRMI_JOB_QPU_RESOURCES".toList then .ok names.toList
  else if name = "QRMI_JOB_QPU_TYPES".toList then .ok types.toList
  else .error .notPresent

theorem resolvedAlike_of_two_resources :
    (jobOf "fresnel,emulator" "pasqal-cloud,pasqal-local").ResolvedAlike onlineFactory := by
  refine (resolvedAlike_iff onlineFactory onlineFactory_online _ ?_).mpr ?_
  · intro types set _ qpuType member
    cases set
    have pieces : qpuType ∈ ["pasqal-cloud".toList, "pasqal-local".toList] := member
    rcases List.mem_pair.mp pieces with rfl | rfl
    · exact ⟨.pasqalCloud, by decide, rfl⟩
    · exact ⟨.pasqalLocal, by decide, rfl⟩
  · intro names types namesSet typesSet
    cases namesSet
    cases typesSet
    have delimited : jobOf "fresnel,emulator" "pasqal-cloud,pasqal-local"
        "QRMI_LIST_DELIMITER".toList ≠ .ok [] := nofun
    exact ⟨by decide, delimited, rfl, by decide, firstIsLast_of_nodup (by decide)⟩

/-- The runner looks for the type of the second name behind the end of the list. -/
theorem exists_job_of_panic :
    resolveType (jobOf "fresnel,emulator" "pasqal-cloud") "emulator".toList = .panicked ∧
      ¬ (jobOf "fresnel,emulator" "pasqal-cloud").ResolvedAlike onlineFactory := by
  have panics : resolveType (jobOf "fresnel,emulator" "pasqal-cloud") "emulator".toList =
      .panicked := rfl
  exact ⟨panics, fun alike => alike.noPanic _ panics⟩

end Agreement
