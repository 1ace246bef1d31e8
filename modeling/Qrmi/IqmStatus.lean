import Qrmi.DerivedStruct
import Qrmi.QuantumResource

/-!
# The status of an IQM server

The details of a quantum computer are read as the API describes them.  Only if that
fails, they are read as the older shape, which has the health below its status.
-/

open DerivedStruct

/-- The parsers of identifiers and of timestamps, and how a timestamp is printed. -/
structure QcDetailsCodec (DateTime : Type) where
  readUuid : Text → Except String Unit
  readDateTime : Text → Except String DateTime
  showDateTime : DateTime → Text

structure QcHealthDetail (DateTime : Type) where
  healthy : Bool
  updatedAt : DateTime

/-- The fields that the status is made of.  The others are only checked. -/
structure IqmServerQuantumComputerDetails (DateTime : Type) where
  operational : Text
  health : Option (QcHealthDetail DateTime)
  queueLength : Int

/-- `i64::try_into` a `u64`. -/
def toU64 (number : Int) : Option Nat :=
  if 0 ≤ number then some number.toNat else none

namespace IQMServer

section Models

variable {DateTime : Type} (codec : QcDetailsCodec DateTime)

def readUuid : Json → Except DeserializeError Unit
  | .string text =>
      (codec.readUuid text).mapError fun message => .custom s!"UUID parsing failed: {message}"
  | value => .error (.invalidType value "a formatted UUID string")

def readDateTime : Json → Except DeserializeError DateTime
  | .string text => (codec.readDateTime text).mapError .custom
  | value => .error (.invalidType value "an RFC 3339 formatted date and time string")

/-- `QcHealthDetail`. -/
def healthFields : List Field :=
  [field "healthy" readBool, field "updated_at" (readDateTime codec)]

def readHealth (value : Json) : Except DeserializeError (QcHealthDetail DateTime) := do
  let values ← readStruct "QcHealthDetail" (healthFields codec) value
  let healthy ← readBool (values.get "healthy")
  let updatedAt ← readDateTime codec (values.get "updated_at")
  return ⟨healthy, updatedAt⟩

/-- `IqmServerQcLimits`. -/
def limitsFields : List Field :=
  [optionField "max_circuits_per_job" readI32, field "max_executions_per_job" readI64,
    field "max_instructions_per_circuit" readI32,
    optionField "max_shots_per_circuit" readI32]

/-- `IqmServerQcTimeslotPricing`. -/
def timeslotPricingFields : List Field :=
  [field "slot_duration" readString, field "slot_price" readString]

/-- `IqmServerQcPricing`. -/
def pricingFields : List Field :=
  [field "payg_price_per_second" readString,
    optionField "timeslot" (readStruct "IqmServerQcTimeslotPricing" timeslotPricingFields)]

/-- `IqmServerQcAdditionalInfo`. -/
def additionalInfoFields : List Field :=
  [field "academy_url" readString, field "best_suited_for" (readVec readString),
    field "documentation_url" readString, field "mock_url" readString]

/-- `IqmServerQuantumComputerDetails`. -/
def detailsFields : List Field :=
  [field "id" (readUuid codec), field "alias" readString, field "display_name" readString,
    field "description" readString, field "backend_type" readString,
    field "number_of_qubits" readI32, field "pulla_enabled" readBool,
    field "limits" (readStruct "IqmServerQcLimits" limitsFields),
    { field "operational" readString with
      aliases := ["operational_status"]
      absence := .default },
    { field "health" (readOption (readHealth codec)) with absence := .default },
    field "queue_length" readI32,
    field "pricing" (readStruct "IqmServerQcPricing" pricingFields),
    field "additional_info" (readStruct "IqmServerQcAdditionalInfo" additionalInfoFields)]

/-- `default_operational`. -/
def defaultOperational : Text :=
  "online".toList

def readDetails (body : Json) :
    Except DeserializeError (IqmServerQuantumComputerDetails DateTime) := do
  let values ← readStruct "IqmServerQuantumComputerDetails" (detailsFields codec) body
  let operational ← match values.lookup "operational" with
    | some value => readString value
    | none => .ok defaultOperational
  let health ← readOption (readHealth codec) (values.get "health")
  let queueLength ← readI32 (values.get "queue_length")
  return ⟨operational, health, queueLength⟩

/-- `body.pointer("/status/health")`. -/
def legacyHealth (body : Json) : Option Json :=
  (body.member? "status").bind (·.member? "health")

/-- The operational state, the health and the length of the queue. -/
def statusReadings (body : Json) :
    Except QrmiError (Text × Option (QcHealthDetail DateTime) × Option Int) :=
  match readDetails codec body with
  | .ok details => .ok (details.operational, details.health, some details.queueLength)
  | .error specError =>
      match legacyHealth body with
      | none => .error (.invalidJson specError.display)
      | some legacyHealth => do
          let health ← (readOption (readHealth codec) legacyHealth).mapError fun error =>
            .invalidJson error.display
          let queueLength := (body.member? "queue_length").bind Json.asI64
          return ("online".toList, health, queueLength)

/-- `resource_status_from_qc_details`. -/
def resourceStatusFromQcDetails (body : Json) : Except QrmiError ResourceStatus := do
  let (operational, health, queueLength) ← statusReadings codec body
  return {
    status :=
      if operational = "online".toList then .online
      else if operational = "maintenance".toList then .paused
      else .offline
    statusReason := health.map fun detail =>
      "healthy updated at ".toList ++ codec.showDateTime detail.updatedAt
    healthy := health.map (·.healthy)
    busy := none
    capacity := none
    pendingJobCount := queueLength.bind toU64 }

end Models

section Legacy

variable {DateTime : Type} {codec : QcDetailsCodec DateTime}
variable {members health : List (Text × Json)} {healthy : Bool} {updatedAt : Text}
variable {time : DateTime}

theorem distinguished_healthFields : Distinguished (healthFields codec) := by
  change (["healthy", "updated_at"].map String.toList).Nodup
  decide

theorem distinguished_detailsFields : Distinguished (detailsFields codec) := by
  change (["id", "alias", "display_name", "description", "backend_type", "number_of_qubits",
    "pulla_enabled", "limits", "operational", "operational_status", "health",
    "queue_length", "pricing", "additional_info"].map String.toList).Nodup
  decide

/-- A health object of the expected shape is read. -/
theorem readHealth_eq_ok (distinct : (health.map Prod.fst).Nodup)
    (isHealthy : (Json.object health).member? "healthy" = some (.bool healthy))
    (isUpdated : (Json.object health).member? "updated_at" = some (.string updatedAt))
    (valid : codec.readDateTime updatedAt = .ok time) :
    readHealth codec (.object health) = .ok ⟨healthy, time⟩ := by
  have plain : Plain (healthFields codec) health := by
    apply plain_of_aliases
    exact List.forall_mem_nil _
  have fits : ∀ field ∈ healthFields codec, field.Fits (.object health) := by
    rw [healthFields, List.forall_mem_cons, List.forall_mem_singleton]
    constructor
    · rw [Field.Fits, field, isHealthy]
      rfl
    · rw [Field.Fits, field, isUpdated]
      dsimp only [readDateTime]
      rw [valid]
      rfl
  rcases readStruct_object_cases "QcHealthDetail" distinguished_healthFields distinct plain with
    ⟨misfits, -⟩ | ⟨-, values, read, lookups⟩
  · exact absurd fits misfits
  have names : (healthFields codec).map Field.name = ["healthy", "updated_at"] := rfl
  rw [names] at lookups
  have first : values.get "healthy" = .bool healthy := by
    rw [Values.get, lookups _ (by decide), isHealthy]
    rfl
  have second : values.get "updated_at" = .string updatedAt := by
    rw [Values.get, lookups _ (by decide), isUpdated]
    rfl
  rw [readHealth, read]
  change (readBool (values.get "healthy") >>= fun healthy =>
    readDateTime codec (values.get "updated_at") >>= fun updatedAt =>
      pure (QcHealthDetail.mk healthy updatedAt)) = _
  rw [first, second, readDateTime, valid]
  rfl

/-- A body without the keys of the operational state and of the health is refused as
the shape of the API, or read as one without health. -/
theorem readDetails_cases (distinct : (members.map Prod.fst).Nodup)
    (unkeyed : ∀ key ∈ ["operational", "operational_status", "health"],
      (Json.object members).member? key = none) :
    ((¬ ∀ field ∈ detailsFields codec, field.Fits (.object members)) ∧
        ∃ error, readDetails codec (.object members) = .error error) ∨
      ((∀ field ∈ detailsFields codec, field.Fits (.object members)) ∧
        ∃ queueLength, readDetails codec (.object members) =
          .ok ⟨defaultOperational, none, queueLength⟩) := by
  simp only [List.forall_mem_cons] at unkeyed
  obtain ⟨noOperational, noStatus, noHealth, -⟩ := unkeyed
  have plain : Plain (detailsFields codec) members := by
    apply plain_of_aliases
    exact List.forall_mem_singleton.mpr noStatus
  rcases readStruct_object_cases "IqmServerQuantumComputerDetails"
      distinguished_detailsFields distinct plain with
    ⟨misfits, error, failed⟩ | ⟨fits, values, read, lookups⟩
  · refine .inl ⟨misfits, error, ?_⟩
    rw [readDetails, failed]
    rfl
  refine .inr ⟨fits, ?_⟩
  have names : (detailsFields codec).map Field.name =
      ["id", "alias", "display_name", "description", "backend_type", "number_of_qubits",
        "pulla_enabled", "limits", "operational", "health", "queue_length", "pricing",
        "additional_info"] := rfl
  rw [names] at lookups
  have operational : values.lookup "operational" = none := by
    rw [lookups _ (by decide), noOperational]
  have health : values.get "health" = .null := by
    rw [Values.get, lookups _ (by decide), noHealth]
    rfl
  have declared : field "queue_length" readI32 ∈ detailsFields codec := by
    simp [detailsFields]
  obtain ⟨value, queueLength, stored, isLength⟩ := field_fits_iff.mp (fits _ declared)
  have length : values.get "queue_length" = value := by
    rw [Values.get, lookups _ (by decide), stored]
    rfl
  refine ⟨queueLength, ?_⟩
  rw [readDetails, read]
  dsimp only [bind, Except.bind]
  rw [operational, health, length, isLength]
  rfl

/-- The status that the older shape stands for. -/
def legacyStatus (codec : QcDetailsCodec DateTime) (healthy : Bool) (time : DateTime)
    (queueLength : Option Json) : ResourceStatus where
  status := .online
  statusReason := some ("healthy updated at ".toList ++ codec.showDateTime time)
  healthy := some healthy
  busy := none
  capacity := none
  pendingJobCount :=
    match queueLength.bind Json.asI64 with
    | some length => if 0 ≤ length then some length.toNat else none
    | none => none

/-- The health below the status is reported if and only if the body lacks a field that
the API requires, or holds a value that a field of the API does not allow. -/
theorem resourceStatus_legacy_iff (distinct : (members.map Prod.fst).Nodup)
    (distinctHealth : (health.map Prod.fst).Nodup)
    (reported : legacyHealth (.object members) = some (.object health))
    (isHealthy : (Json.object health).member? "healthy" = some (.bool healthy))
    (isUpdated : (Json.object health).member? "updated_at" = some (.string updatedAt))
    (valid : codec.readDateTime updatedAt = .ok time)
    (unkeyed : ∀ key ∈ ["operational", "operational_status", "health"],
      (Json.object members).member? key = none) :
    resourceStatusFromQcDetails codec (.object members) =
        .ok (legacyStatus codec healthy time ((Json.object members).member? "queue_length")) ↔
      ∃ field ∈ detailsFields codec, ¬ field.Fits (.object members) := by
  rw [resourceStatusFromQcDetails, statusReadings]
  rcases readDetails_cases distinct unkeyed with ⟨misfits, error, failed⟩ |
    ⟨fits, queueLength, read⟩
  · have readLegacy := readHealth_eq_ok distinctHealth isHealthy isUpdated valid
    have misfit : ∃ field ∈ detailsFields codec, ¬ field.Fits (.object members) := by
      push Not at misfits
      exact misfits
    rw [failed]
    dsimp only
    rw [reported]
    dsimp only [readOption]
    rw [readLegacy]
    refine ⟨fun _ => misfit, fun _ => ?_⟩
    refine congrArg Except.ok ?_
    cases length : ((Json.object members).member? "queue_length").bind Json.asI64 with
    | none => simp [legacyStatus, length]
    | some queueLength => simp [legacyStatus, length, toU64]
  · rw [read]
    constructor
    · intro equal
      have same := congrArg ResourceStatus.healthy (Except.ok.inj equal)
      cases same
    · rintro ⟨field, declared, misfit⟩
      exact absurd (fits field declared) misfit

end Legacy

namespace OnPremises

/-- Parsers that know the identifier and the timestamp of the server. -/
def codec : QcDetailsCodec Text where
  readUuid text :=
    if text = "0b5a0f36-1a8b-4d57-8a0e-0f6f1f3f6c02".toList then .ok ()
    else .error "invalid length"
  readDateTime text :=
    if text = "2026-09-28T15:16:40Z".toList then .ok "2026-09-28 15:16:40 +00:00".toList
    else .error "input contains invalid characters"
  showDateTime time := time

def health : List (Text × Json) :=
  [("healthy".toList, .bool true), Json.stringMember "updated_at" "2026-09-28T15:16:40Z"]

/-- The details without the length of a queue. -/
def members : List (Text × Json) :=
  [Json.stringMember "id" "0b5a0f36-1a8b-4d57-8a0e-0f6f1f3f6c02",
    Json.stringMember "alias" "default", Json.stringMember "display_name" "On-prem QPU",
    Json.stringMember "description" "20-qubit QPU", Json.stringMember "backend_type" "qpu",
    Json.unsignedMember "number_of_qubits" 20, ("pulla_enabled".toList, .bool true),
    ("limits".toList, .object
      [Json.unsignedMember "max_instructions_per_circuit" 10000,
        Json.unsignedMember "max_executions_per_job" 1000000]),
    ("status".toList, .object [("health".toList, .object health)]),
    ("pricing".toList, .object [Json.stringMember "payg_price_per_second" "0"]),
    ("additional_info".toList, .object
      [Json.stringMember "academy_url" "https://example.com/academy",
        ("best_suited_for".toList, .array []),
        Json.stringMember "documentation_url" "https://example.com/docs",
        Json.stringMember "mock_url" "https://example.com/mock"])]

/-- The details with three jobs in the queue. -/
def queuedMembers : List (Text × Json) :=
  Json.unsignedMember "queue_length" 3 :: members

/-- With the length of the queue the details have the shape of the API. -/
theorem status_queuedMembers : resourceStatusFromQcDetails codec (.object queuedMembers) =
    .ok { status := .online, statusReason := none, healthy := none, busy := none,
          capacity := none, pendingJobCount := some 3 } :=
  rfl

theorem unkeyed_members : ∀ key ∈ ["operational", "operational_status", "health"],
    (Json.object members).member? key = none := by
  simp only [List.forall_mem_cons]
  exact ⟨rfl, rfl, rfl, List.forall_mem_nil _⟩

theorem unkeyed_queuedMembers : ∀ key ∈ ["operational", "operational_status", "health"],
    (Json.object queuedMembers).member? key = none := by
  simp only [List.forall_mem_cons]
  exact ⟨rfl, rfl, rfl, List.forall_mem_nil _⟩

end OnPremises

theorem resourceStatus_legacy_onPremises :
    resourceStatusFromQcDetails OnPremises.codec (.object OnPremises.members) =
      .ok (legacyStatus OnPremises.codec true "2026-09-28 15:16:40 +00:00".toList
        ((Json.object OnPremises.members).member? "queue_length")) := by
  refine (resourceStatus_legacy_iff (by decide) (by decide) rfl rfl rfl rfl
    OnPremises.unkeyed_members).mpr
    ⟨field "queue_length" readI32, by simp [detailsFields], fun fits => ?_⟩
  obtain ⟨value, length, stored, -⟩ := field_fits_iff.mp fits
  cases stored

/-- A body that also has the length of the queue loses its health. -/
theorem exists_lost_health :
    ∃ (codec : QcDetailsCodec Text) (members health : List (Text × Json)) (healthy : Bool)
      (updatedAt time : Text),
      (members.map Prod.fst).Nodup ∧ (health.map Prod.fst).Nodup ∧
        legacyHealth (.object members) = some (.object health) ∧
        (Json.object health).member? "healthy" = some (.bool healthy) ∧
        (Json.object health).member? "updated_at" = some (.string updatedAt) ∧
        codec.readDateTime updatedAt = .ok time ∧
        (∀ key ∈ ["operational", "operational_status", "health"],
          (Json.object members).member? key = none) ∧
        ∃ status, resourceStatusFromQcDetails codec (.object members) = .ok status ∧
          status.healthy = none ∧
          status ≠ legacyStatus codec healthy time
            ((Json.object members).member? "queue_length") := by
  refine ⟨OnPremises.codec, OnPremises.queuedMembers, OnPremises.health, true, _,
    "2026-09-28 15:16:40 +00:00".toList, by decide, by decide, rfl, rfl, rfl, rfl,
    OnPremises.unkeyed_queuedMembers, _, OnPremises.status_queuedMembers, rfl, ?_⟩
  intro same
  have lost := congrArg ResourceStatus.healthy same
  cases lost

end IQMServer
