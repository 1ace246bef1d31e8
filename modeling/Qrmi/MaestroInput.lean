import Qrmi.JsonValue

/-!
# The two readers of Maestro input

The command line runner and the Python package each read a JSON value as a native
request, a wrapped request or a legacy job.  Both are given the value as their own
JSON library holds it.
-/

namespace MaestroInput

/-- A text of the payload: one that is taken over, or what the JSON library
writes for a document. -/
inductive PayloadText
  | text (content : Text)
  | document (value : Json)

/-- The Maestro payload. -/
structure MaestroPayload where
  input : PayloadText
  jobType : Text
  qubits : UInt32
  simulatorType : UInt32
  simulationMethod : UInt32
  observables : Text
  config : PayloadText

def legacyFields : List Text :=
  ["input", "job_type", "qubits", "simulator_type", "simulation_method", "observables",
    "config"].map String.toList

def foreignFields : List Text :=
  ["job_spec", "program_id", "parameters", "job_runs", "sequence", "human_qir",
    "input_params", "iqmjson", "use_timeslot", "tag"].map String.toList

/-- The payload of a native request. -/
def requestPayload (request : Json) : MaestroPayload where
  input := .document request
  jobType := "request".toList
  qubits := 0
  simulatorType := 0
  simulationMethod := 0
  observables := []
  config := .text "{}".toList

/-- A request is given as a document or as the text of one. -/
def deserialized {ε : Type} (read : Text → Except String Json) (wrap : String → ε)
    (request : Json) : Except ε Json :=
  match request.asString with
  | some serialized => (read serialized).mapError wrap
  | none => .ok request

/-- An error of `maestro_input`: a report, or one of `serde_json`. -/
inductive InputError
  | report (text : String)
  | malformed (message : String)
  | missingField (field : String)
  | invalidType (field expected : String)

section Runner

variable (fromStr : Text → Except String Json)

/-- The native branch of `maestro_input`. -/
def nativeInput (request : Json) : Except InputError MaestroPayload := do
  let request ← deserialized fromStr .malformed request
  if !request.isObject ∨ (request.get "schema_version").asU64 ≠ some 2 then
    .error (.report "Maestro request requires schema_version=2")
  else if request.keys.any fun key =>
      key ∈ foreignFields ∨ key = "request".toList ∨
        (key ≠ "observables".toList ∧ key ∈ legacyFields) then
    .error (.report "Native Maestro request cannot mix payload envelopes")
  else .ok (requestPayload request)

/-- The request that a value asks for, if it is no legacy job. -/
def nativeRequest (value : Json) : Except InputError (Option Json) :=
  match value.member? "request" with
  | some request => .ok (some request)
  | none =>
      if (value.member? "schema_version").isSome then .ok (some value)
      else if ((value.member? "job_type").bind Json.asString).any fun kind =>
          Text.eqIgnoreAsciiCase kind "request".toList then
        match value.member? "input" with
        | some input => .ok (some input)
        | none => .error (.report "Missing request input")
      else .ok none

/-- A member that must have the expected type when it is present. -/
def readMember {α : Type} (value : Json) (field expected : String)
    (read : Json → Option α) : Except InputError (Option α) :=
  match value.member? field with
  | none => .ok none
  | some member =>
      match read member with
      | some content => .ok (some content)
      | none => .error (.invalidType field expected)

def required {α : Type} (field : String) : Option α → Except InputError α
  | some content => .ok content
  | none => .error (.missingField field)

/-- The fields of a legacy job. -/
structure Input where
  input : Json
  jobType : Text
  qubits : UInt32
  simulatorType : UInt32
  simulationMethod : UInt32
  observables : Text
  config : Json

/-- `from_value`.  The members are read in the order of their keys, and missing
ones are reported in the order of the fields. -/
def Input.fromValue (value : Json) : Except InputError Input := do
  let jobType ← readMember value "job_type" "a string" Json.asString
  let observables ← readMember value "observables" "a string" Json.asString
  let qubits ← readMember value "qubits" "u32" Json.asU32
  let simulationMethod ← readMember value "simulation_method" "u32" Json.asU32
  let simulatorType ← readMember value "simulator_type" "u32" Json.asU32
  let input ← required "input" (value.member? "input")
  let jobType ← required "job_type" jobType
  let qubits ← required "qubits" qubits
  let simulatorType ← required "simulator_type" simulatorType
  let simulationMethod ← required "simulation_method" simulationMethod
  return {
    input := input
    jobType := jobType
    qubits := qubits
    simulatorType := simulatorType
    simulationMethod := simulationMethod
    observables := observables.getD []
    config := (value.member? "config").getD .null }

/-- Strings are taken over, and other values are serialised. -/
def serialize (value : Json) : PayloadText :=
  match value.asString with
  | some content => .text content
  | none => .document value

/-- The legacy branch of `maestro_input`. -/
def legacyInput (value : Json) : Except InputError MaestroPayload := do
  let parsed ← Input.fromValue value
  if !(["execute".toList, "estimate".toList].any (Text.eqIgnoreAsciiCase parsed.jobType)) then
    .error (.report "Unknown Maestro job_type")
  else if !parsed.config.isNull && !parsed.config.isObject && !parsed.config.isString then
    .error (.report "Maestro config must be an object or serialized object")
  else if parsed.qubits = 0 ∨ !parsed.input.isString then
    .error (.report "Legacy Maestro jobs require positive qubits and string input")
  else
    return {
      input := serialize parsed.input
      jobType := parsed.jobType
      qubits := parsed.qubits
      simulatorType := parsed.simulatorType
      simulationMethod := parsed.simulationMethod
      observables := parsed.observables
      config := if parsed.config.isNull then .text "{}".toList else serialize parsed.config }

def maestroInput (value : Json) : Except InputError MaestroPayload := do
  if !value.isObject then .error (.report "Maestro payload must be an object")
  else if value.keys.any (· ∈ foreignFields) then
    .error (.report "Maestro payload cannot contain another backend's fields")
  else if "request".toList ∈ value.keys ∧ value.keys.length ≠ 1 then
    .error (.report "Wrapped Maestro requests accept only the request field")
  else if "request".toList ∉ value.keys ∧ "schema_version".toList ∉ value.keys ∧
      value.keys.any (· ∉ legacyFields) then
    .error (.report "Unknown Maestro payload field")
  else
    match ← nativeRequest value with
    | some request => nativeInput fromStr request
    | none => legacyInput value

end Runner

/-- An exception of `payload_from_input`. -/
inductive PayloadError
  | valueError (text : String)
  | typeError (argument : String)

/-- An integer of Python that is no Boolean. -/
def asInt : Json → Option Int
  | .number (.unsigned value) => some value
  | .number (.negative magnitude) => some (-magnitude)
  | _ => none

/-- `value == number`: Booleans and doubles are compared as numbers. -/
def equalsInteger (doubles : Doubles) (number : Int) : Json → Bool
  | .number value => value.value doubles = some (number : Rat)
  | .bool value => (if value then 1 else 0) = number
  | _ => false

section Package

variable (doubles : Doubles) (loads : Text → Except String Json) (lower : Text → Text)

/-- `_native_document`. -/
def nativeDocument (request : Json) : Except PayloadError Json := do
  let request ← deserialized loads .valueError request
  if !request.isObject ∨
      ¬ (request.member? "schema_version").any (equalsInteger doubles 2) then
    .error (.valueError "Maestro request must be an object with schema_version=2")
  else if request.keys.any fun key =>
      key ∈ foreignFields ∨
        (key ∈ legacyFields ∧ key ≠ "observables".toList) ∨ key = "request".toList then
    .error (.valueError "Native Maestro request cannot mix payload envelopes")
  else .ok request

/-- `json.dumps(value, allow_nan=False)`. -/
def dumps (value : Json) : Except PayloadError PayloadText :=
  if value.isFinite doubles then .ok (.document value)
  else .error (.valueError "Out of range float values are not JSON compliant")

/-- `request_payload`. -/
def pythonRequestPayload (request : Json) : Except PayloadError MaestroPayload := do
  let document ← nativeDocument doubles loads request
  let input ← dumps doubles document
  return { requestPayload document with input := input }

/-- The check of one integer field of a legacy job. -/
def legacyInteger (field : String) (minimum : Int) (value : Json) :
    Except PayloadError UInt32 :=
  match asInt value with
  | some number =>
      if minimum ≤ number ∧ number ≤ 4294967295 then .ok (UInt32.ofNat number.toNat)
      else .error (.valueError
        s!"Legacy Maestro {field} must be an integer in {minimum}..4294967295")
  | none => .error (.valueError
      s!"Legacy Maestro {field} must be an integer in {minimum}..4294967295")

/-- The serialised configuration of a legacy job. -/
def legacyConfig (config : Json) : Except PayloadError PayloadText :=
  match config with
  | .null => dumps doubles (.object [])
  | .string content => .ok (.text content)
  | .object entries => dumps doubles (.object entries)
  | _ => .error (.valueError "Maestro config must be an object or serialized object")

/-- The part of `payload_from_input` for legacy jobs, whose kind is known. -/
def legacyPayload (taskInput : Json) (jobType : Text) : Except PayloadError MaestroPayload :=
  let missing := ["input", "qubits", "simulator_type", "simulation_method"].filter fun field =>
    (taskInput.member? field).isNone
  if missing ≠ [] then
    .error (.valueError ("Missing legacy Maestro fields: " ++ ", ".intercalate missing))
  else
    match (taskInput.get "input").asString with
    | none => .error (.valueError "Legacy Maestro jobs require string input")
    | some input => do
        let qubits ← legacyInteger "qubits" 1 (taskInput.get "qubits")
        let simulatorType ← legacyInteger "simulator_type" 0 (taskInput.get "simulator_type")
        let simulationMethod ←
          legacyInteger "simulation_method" 0 (taskInput.get "simulation_method")
        let config ← legacyConfig doubles (taskInput.get "config")
        match ((taskInput.member? "observables").getD (.string [])).asString with
        | none => .error (.typeError "observables")
        | some observables =>
            return {
              input := .text input
              jobType := jobType
              qubits := qubits
              simulatorType := simulatorType
              simulationMethod := simulationMethod
              observables := observables
              config := config }

def payloadFromInput (taskInput : Json) : Except PayloadError MaestroPayload :=
  if !taskInput.isObject then .error (.valueError "Maestro payload must be an object")
  else if taskInput.keys.any (· ∈ foreignFields) then
    .error (.valueError "Maestro payload cannot contain another backend's fields")
  else
    match taskInput.member? "request" with
    | some request =>
        if taskInput.keys.any (· ≠ "request".toList) then
          .error (.valueError "Wrapped Maestro requests accept only the request field")
        else pythonRequestPayload doubles loads request
    | none =>
        if (taskInput.member? "schema_version").isSome then
          pythonRequestPayload doubles loads taskInput
        else if taskInput.keys.any (· ∉ legacyFields) then
          .error (.valueError "Unknown Maestro payload field")
        else
          match (taskInput.member? "job_type").bind Json.asString with
          | none => .error (.valueError "Maestro job_type must be a string")
          | some jobType =>
              let kind := lower jobType
              if kind = "request".toList then
                match taskInput.member? "input" with
                | none => .error (.valueError "Missing Maestro request field: input")
                | some input => pythonRequestPayload doubles loads input
              else if kind ∉ ["execute".toList, "estimate".toList] then
                .error (.valueError "Unknown Maestro job_type")
              else legacyPayload doubles taskInput jobType

end Package

end MaestroInput
