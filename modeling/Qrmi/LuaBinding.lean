import Qrmi.CMemory

/-!
# The Lua binding

`lua_qrmi.c` wraps the C interface for Lua.  A resource is a userdata object with a
handle and the acquisition token that it keeps for its finalizer; both live on the heap
of the process.  A method returns values, returns nil and a message, or raises an error
of Lua, which leaves the function at that point.

Tables are plain tables without metatables, and Lua's own allocations succeed.
-/

open Interaction

/-! ## Values -/

/-- What the runtime decides: the integer that a string is converted to, and which
requests for memory the C library refuses. -/
structure LuaRuntime where
  stringToInteger : List UInt8 → Option Int64
  refusesMemory : Nat → Bool

/-- The values of Lua.  A number stands with its text and the integer that it is
converted to, and a table with its entries in the order of its traversal. -/
inductive LuaValue
  | nil
  | boolean (value : Bool)
  | number (text : List UInt8) (integer : Option Int64)
  | string (bytes : List UInt8)
  | table (entries : List (LuaValue × LuaValue))
  | userdata (object : Nat)
  | other

/-- An error that is raised. -/
inductive LuaError
  | badArgument (index : Int) (expected : String)
  | message (text : String)

/-- The C string at a sequence of bytes: what stands in front of its first zero. -/
def CStr.ofBytes (bytes : List UInt8) : CStr where
  bytes := bytes.takeWhile (· ≠ 0)
  noNul := fun member => by simpa using List.mem_takeWhile_imp member

namespace LuaValue

def ofText (text : String) : LuaValue :=
  string (Text.utf8 text.toList)

/-- `lua_pushstring`. -/
def ofCStr : Option (Owned CStr) → LuaValue
  | some pointer => string pointer.value.bytes
  | none => nil

/-- `lua_pushinteger`. -/
def ofInteger (value : Int64) : LuaValue :=
  number (Text.utf8 (Text.showInt value.toInt)) (some value)

def isNil : LuaValue → Bool
  | nil => true
  | _ => false

/-- `lua_toboolean`. -/
def toBoolean : LuaValue → Bool
  | nil | boolean false => false
  | _ => true

def isString (bytes : List UInt8) : LuaValue → Bool
  | string own => own = bytes
  | _ => false

/-- `lua_getfield`. -/
def getField (entries : List (LuaValue × LuaValue)) (name : String) : LuaValue :=
  ((entries.find? fun entry => entry.1.isString (Text.utf8 name.toList)).map Prod.snd).getD nil

/-- `lua_settable` with a string for a key. -/
def setTable (entries : List (LuaValue × LuaValue)) (key : List UInt8) (value : LuaValue) :
    List (LuaValue × LuaValue) :=
  entries.filter (fun entry => !entry.1.isString key) ++
    if value.isNil then [] else [(string key, value)]

/-- A new table with some fields. -/
def ofFields (fields : List (String × LuaValue)) : LuaValue :=
  table (fields.foldl (fun entries field =>
    setTable entries (Text.utf8 field.1.toList) field.2) [])

end LuaValue

/-! ## Objects -/

/-- `lua_qrmi_resource_t`. -/
structure LuaQrmiResource where
  handle : Option (Owned Nat)
  acquisitionToken : Option (Owned CStr)

/-- `lua_qrmi_config_t`. -/
structure LuaQrmiConfig where
  handle : Option (Owned Config)

/-- A userdata object. -/
inductive UserData
  | resource (payload : LuaQrmiResource)
  | config (payload : LuaQrmiConfig)

/-- The state of a process beside its heap: the thread of the C interface, and the
objects in the order of their creation. -/
structure LuaState where
  thread : CThread
  objects : List UserData

abbrev LuaMethod (α : Type) : Type :=
  Method Invocation Invocation.Answer (Stored CBlock LuaState) (Halt LuaError) α

namespace LuaBinding

variable {α : Type}

/-- Call into the C interface. -/
def inC (function : CMemory LuaError α) : LuaMethod α :=
  Method.onPart LuaState.thread (fun thread state => { state with thread := thread }) function

/-- `luaL_error`. -/
def raise (text : String) : LuaMethod α :=
  Method.throw (.failed (.message text))

/-- `luaL_argerror`. -/
def badArgument (index : Int) (expected : String) : LuaMethod α :=
  Method.throw (.failed (.badArgument index expected))

/-- Write the payload of an object. -/
def setObject (object : Nat) (payload : UserData) : LuaMethod Unit :=
  Method.modify fun state =>
    { state with rest := { state.rest with objects := state.rest.objects.set object payload } }

/-- `lua_newuserdata` with its metatable. -/
def newUserdata (payload : UserData) : LuaMethod LuaValue := do
  let state ← Method.self
  Method.modify fun state =>
    { state with rest := { state.rest with objects := state.rest.objects ++ [payload] } }
  return .userdata state.rest.objects.length

section Memory

variable (runtime : LuaRuntime)

/-- `strdup`. -/
def strdup (text : CStr) : LuaMethod (Option (Owned CStr)) := do
  let block ← Method.tryAllocate runtime.refusesMemory .malloc
  return block.map fun block => ⟨block.address, text⟩

end Memory

/-- `free`, which takes a null pointer too. -/
def free (pointer : Option (Owned CStr)) : LuaMethod Unit :=
  match pointer with
  | some pointer => Method.giveBack (pointer.block .malloc)
  | none => return ()

/-! ### Arguments -/

/-- The value at an index of the stack. -/
def argument (arguments : List LuaValue) (index : Nat) : Option LuaValue :=
  arguments[index - 1]?

/-- `luaL_checkstring`. -/
def checkString (index : Int) : Option LuaValue → LuaMethod CStr
  | some (.string bytes) => return .ofBytes bytes
  | some (.number text _) => return .ofBytes text
  | _ => badArgument index "string"

/-- `luaL_optstring`. -/
def optString (index : Int) (default : Option CStr) : Option LuaValue →
    LuaMethod (Option CStr)
  | none | some .nil => return default
  | value => some <$> checkString index value

/-- `luaL_checkinteger`. -/
def checkInteger (runtime : LuaRuntime) (index : Int) : Option LuaValue → LuaMethod Int64
  | some (.number _ (some value)) => return value
  | some (.string bytes) =>
      match runtime.stringToInteger bytes with
      | some value => return value
      | none => badArgument index "integer"
  | _ => badArgument index "integer"

/-- `luaL_optinteger`. -/
def optInteger (runtime : LuaRuntime) (index : Int) (default : Int64) :
    Option LuaValue → LuaMethod Int64
  | none | some .nil => return default
  | value => checkInteger runtime index value

/-- `luaL_checktype` with `LUA_TTABLE`. -/
def checkTable (index : Int) : Option LuaValue → LuaMethod (List (LuaValue × LuaValue))
  | some (.table entries) => return entries
  | _ => badArgument index "table"

/-- `luaL_checkudata`, with the payload of the object. -/
def checkUserdata (read : UserData → Option α) (name : String) (value : Option LuaValue) :
    LuaMethod (Nat × α) := do
  let state ← Method.self
  match value with
  | some (.userdata object) =>
      match state.rest.objects[object]?.bind read with
      | some payload => return (object, payload)
      | none => badArgument 1 name
  | _ => badArgument 1 name

def resourceOf : UserData → Option LuaQrmiResource
  | .resource payload => some payload
  | .config _ => none

def configOf : UserData → Option LuaQrmiConfig
  | .config payload => some payload
  | .resource _ => none

/-! ### Shared helpers -/

end LuaBinding

/-- The numbers of the codes. -/
def ReturnCode.number : ReturnCode → Nat
  | .success => 0
  | .error => 100
  | .nullPointerError => 101
  | .envVarNotSetError => 102
  | .parseError => 103
  | .unsupportedResourceTypeError => 104
  | .unsupportedFunctionError => 105
  | .unsupportedPayloadError => 106
  | .taskNotReadyError => 107
  | .missingConfigKeyError => 108
  | .invalidInputError => 109
  | .resourceNotFoundError => 111
  | .taskNotFoundError => 112
  | .authenticationFailedError => 113
  | .invalidConfigError => 114

namespace LuaBinding

open CMemory

/-- Give a string back where there is one. -/
def freeGiven : Option (Owned CStr) → LuaMethod Unit
  | some pointer => do
      let _ ← inC (qrmiStringFree (some pointer))
  | none => return ()

/-- `push_qrmi_error`. -/
def pushQrmiError (code : ReturnCode) : LuaMethod (List LuaValue) := do
  let err ← inC qrmiGetLastError
  match err with
  | some err => do
      let _ ← inC (qrmiStringFree (some err))
      return [.nil, .string err.value.bytes]
  | none => return [.nil, .ofText s!"qrmi error (code={code.number})"]

/-- `g_all_resource_types`. -/
def allResourceTypes : List ResourceType :=
  [.ibmQuantumSystem, .ibmQuantumComputeService, .qiskitRuntimeService, .pasqalCloud,
    .pasqalLocal, .aliceBobFelis, .iqmServer, .oqtopus, .maestroLocal]

/-- `resource_type_from_string`: none of the names is given back. -/
def resourceTypeFromString (text : CStr) : List ResourceType → LuaMethod (Option ResourceType)
  | [] => return none
  | resourceType :: rest => do
      let name ← inC (qrmiConfigResourceTypeToStr resourceType)
      if name.map (fun name => name.value.bytes) = some text.bytes then
        return some resourceType
      else resourceTypeFromString text rest

/-- `task_status_to_string`. -/
def taskStatusToString : Option TaskStatus → String
  | some .queued => "queued"
  | some .running => "running"
  | some .completed => "completed"
  | some .failed => "failed"
  | some .cancelled => "cancelled"
  | none => "unknown"

/-! ### Creating resources -/

def unknownResourceType (text : CStr) : List LuaValue :=
  [.nil, .string (Text.utf8 "unknown resource type '".toList ++ text.bytes ++
    Text.utf8 "'".toList)]

/-- `l_qrmi_new`. -/
def lQrmiNew (arguments : List LuaValue) : LuaMethod (List LuaValue) := do
  let resourceId ← checkString 1 (argument arguments 1)
  let typeStr ← checkString 2 (argument arguments 2)
  match ← resourceTypeFromString typeStr allResourceTypes with
  | none => return unknownResourceType typeStr
  | some resourceType => do
      match ← inC (qrmiResourceNew resourceId resourceType) with
      | none => do
          let err ← inC qrmiGetLastError
          freeGiven err
          return [.nil, err.elim (.ofText "qrmi_resource_new failed") fun err =>
            .string err.value.bytes]
      | some handle => do
          let object ← newUserdata (.resource ⟨some handle, none⟩)
          return [object]

/-- The array of `build_config_map_from_table` and the strings in it. -/
structure ConfigPairs where
  array : Block CBlock
  entries : List (Option (Owned CStr) × Option (Owned CStr))

def ConfigPairs.variables (pairs : ConfigPairs) : EnvironmentVariables :=
  pairs.entries.map fun entry => (entry.1.map Owned.value, entry.2.map Owned.value)

def freeEntries : List (Option (Owned CStr) × Option (Owned CStr)) → LuaMethod Unit
  | [] => return ()
  | entry :: rest => do
      free entry.1
      free entry.2
      freeEntries rest

/-- `free_config_pairs`. -/
def freeConfigPairs : Option ConfigPairs → LuaMethod Unit
  | none => return ()
  | some pairs => do
      freeEntries pairs.entries
      Method.giveBack pairs.array

/-- The second traversal of `build_config_map_from_table`. -/
def fillConfigPairs (runtime : LuaRuntime) (pairs : ConfigPairs) :
    List (LuaValue × LuaValue) → LuaMethod ConfigPairs
  | [] => return pairs
  | (.string key, .string value) :: rest => do
      let key ← strdup runtime (.ofBytes key)
      let value ← strdup runtime (.ofBytes value)
      let filled : ConfigPairs := { pairs with entries := pairs.entries ++ [(key, value)] }
      if key.isNone || value.isNone then do
        freeConfigPairs (some filled)
        raise "out of memory building config map"
      else fillConfigPairs runtime filled rest
  | _ :: _ => do
      freeConfigPairs (some pairs)
      raise "QRMI config table keys and values must be strings"

/-- `build_config_map_from_table`. -/
def buildConfigMapFromTable (runtime : LuaRuntime) (entries : List (LuaValue × LuaValue)) :
    LuaMethod (Option ConfigPairs) :=
  if entries.isEmpty then return none
  else do
    match ← Method.tryAllocate runtime.refusesMemory .malloc with
    | none => raise "out of memory building config map"
    | some array => some <$> fillConfigPairs runtime ⟨array, []⟩ entries

/-- `l_qrmi_new_from_config`: the message of a failure is not given back. -/
def lQrmiNewFromConfig (runtime : LuaRuntime) (arguments : List LuaValue) :
    LuaMethod (List LuaValue) := do
  let resourceId ← checkString 1 (argument arguments 1)
  let typeStr ← checkString 2 (argument arguments 2)
  let table ← checkTable 3 (argument arguments 3)
  match ← resourceTypeFromString typeStr allResourceTypes with
  | none => return unknownResourceType typeStr
  | some resourceType => do
      let pairs ← buildConfigMapFromTable runtime table
      let handle ← inC (qrmiResourceNewFromConfig resourceId resourceType
        (pairs.elim [] ConfigPairs.variables))
      freeConfigPairs pairs
      match handle with
      | none => do
          let err ← inC qrmiGetLastError
          return [.nil, err.elim (.ofText "qrmi_resource_new_from_config failed") fun err =>
            .string err.value.bytes]
      | some handle => do
          let object ← newUserdata (.resource ⟨some handle, none⟩)
          return [object]

/-! ### Methods of resources -/

/-- A resource that is not freed. -/
structure CheckedResource where
  object : Nat
  handle : Owned Nat
  acquisitionToken : Option (Owned CStr)

/-- `check_resource`. -/
def checkResource (arguments : List LuaValue) : LuaMethod CheckedResource := do
  let found ← checkUserdata resourceOf "qrmi.resource" (argument arguments 1)
  match found.2.handle with
  | some handle => return ⟨found.1, handle, found.2.acquisitionToken⟩
  | none => raise "qrmi resource already freed"

/-- The end of the methods that hand out a string. -/
def pushText (answer : ReturnCode × Option (Owned CStr)) : LuaMethod (List LuaValue) :=
  if answer.1 ≠ .success then pushQrmiError answer.1
  else do
    let _ ← inC (qrmiStringFree answer.2)
    return [.ofCStr answer.2]

/-- The end of the methods that hand out another value. -/
def pushValue (answer : ReturnCode × α) (push : α → LuaValue) : LuaMethod (List LuaValue) :=
  if answer.1 ≠ .success then pushQrmiError answer.1 else return [push answer.2]

/-- `l_is_accessible`. -/
def lIsAccessible (arguments : List LuaValue) : LuaMethod (List LuaValue) := do
  let ud ← checkResource arguments
  let answer ← inC (qrmiResourceIsAccessible ud.handle)
  pushValue answer fun accessible => .boolean (accessible.getD false)

/-- `l_resource_id`. -/
def lResourceId (arguments : List LuaValue) : LuaMethod (List LuaValue) := do
  let ud ← checkResource arguments
  let answer ← inC (qrmiResourceId ud.handle)
  pushText answer

/-- The name of a type, which is not given back. -/
def pushTypeName (resourceType : Option ResourceType) : LuaMethod LuaValue := do
  match resourceType with
  | some resourceType => do
      let name ← inC (qrmiConfigResourceTypeToStr resourceType)
      return name.elim (.ofText "unknown") fun name => .string name.value.bytes
  | none => return .ofText "unknown"

/-- `l_resource_type`. -/
def lResourceType (arguments : List LuaValue) : LuaMethod (List LuaValue) := do
  let ud ← checkResource arguments
  let answer ← inC (qrmiResourceType ud.handle)
  if answer.1 ≠ .success then pushQrmiError answer.1
  else do
    let name ← pushTypeName answer.2
    return [name]

/-- The second half of `l_acquire`.  A null pointer cannot be duplicated. -/
def acquireNew (runtime : LuaRuntime) (ud : CheckedResource) : LuaMethod (List LuaValue) := do
  let answer ← inC (qrmiResourceAcquire ud.handle)
  if answer.1 ≠ .success then pushQrmiError answer.1
  else
    match answer.2 with
    | none => Method.throw .panic
    | some token => do
        let copy ← strdup runtime token.value
        setObject ud.object (.resource ⟨some ud.handle, copy⟩)
        let _ ← inC (qrmiStringFree (some token))
        return [.string token.value.bytes]

/-- The first half of `l_acquire`: the cached token is dropped, whether or not it could
be released. -/
def dropCached (ud : CheckedResource) (token : Owned CStr) : LuaMethod ReturnCode := do
  Method.borrow (token.block .malloc)
  let released ← inC (qrmiResourceRelease ud.handle token.value)
  free (some token)
  setObject ud.object (.resource ⟨some ud.handle, none⟩)
  return released

/-- `l_acquire`. -/
def lAcquire (runtime : LuaRuntime) (arguments : List LuaValue) :
    LuaMethod (List LuaValue) := do
  let ud ← checkResource arguments
  match ud.acquisitionToken with
  | none => acquireNew runtime ud
  | some token => do
      let released ← dropCached ud token
      if released ≠ .success then pushQrmiError released else acquireNew runtime ud

/-- The token of `l_release`: the one that is given, or else the cached one. -/
def tokenToRelease (ud : CheckedResource) (given : Option CStr) : LuaMethod (Option CStr) :=
  match given, ud.acquisitionToken with
  | some token, _ => return some token
  | none, some cached => do
      Method.borrow (cached.block .malloc)
      return some cached.value
  | none, none => return none

/-- `l_release`. -/
def lRelease (arguments : List LuaValue) : LuaMethod (List LuaValue) := do
  let ud ← checkResource arguments
  let given ← optString 2 none (argument arguments 2)
  match ← tokenToRelease ud given with
  | none => return [.nil, .ofText "no acquisition token to release"]
  | some token => do
      let released ← inC (qrmiResourceRelease ud.handle token)
      if released ≠ .success then pushQrmiError released
      else do
        free ud.acquisitionToken
        setObject ud.object (.resource ⟨some ud.handle, none⟩)
        return [.boolean true]

/-- `l_detach`. -/
def lDetach (arguments : List LuaValue) : LuaMethod (List LuaValue) := do
  let ud ← checkResource arguments
  match ud.acquisitionToken with
  | none => return [.nil]
  | some token => do
      free (some token)
      setObject ud.object (.resource ⟨some ud.handle, none⟩)
      return [.string token.value.bytes]

/-! ### Tasks -/

/-- A field of a payload that must be a string. -/
def stringField (entries : List (LuaValue × LuaValue)) (name : String) : LuaMethod CStr :=
  checkString (-1) (some (LuaValue.getField entries name))

/-- The fields of `submit_qiskit_primitive_payload`. -/
def qiskitPrimitivePayload (entries : List (LuaValue × LuaValue)) : LuaMethod CPayload := do
  let input ← stringField entries "input"
  let programId ← stringField entries "program_id"
  return .qiskitPrimitive input programId

/-- The fields of `submit_iqm_server_payload`. -/
def iqmServerPayload (entries : List (LuaValue × LuaValue)) : LuaMethod CPayload := do
  let iqmjson ← stringField entries "iqmjson"
  let jobType ← stringField entries "job_type"
  let useTimeslot := if (LuaValue.getField entries "use_timeslot").toBoolean then 1 else 0
  let tag ← optString (-1) none (some (LuaValue.getField entries "tag"))
  return .iqmServer iqmjson jobType useTimeslot tag

/-- The fields of `submit_oqtopus_payload`. -/
def oqtopusPayload (entries : List (LuaValue × LuaValue)) : LuaMethod CPayload := do
  let jobSpec ← stringField entries "job_spec"
  return .oqtopus jobSpec

/-- The fields of `submit_pasqal_payload`: the number of runs is cast. -/
def pasqalPayload (runtime : LuaRuntime) (entries : List (LuaValue × LuaValue)) :
    LuaMethod CPayload := do
  let sequence ← stringField entries "sequence"
  let jobRuns ← checkInteger runtime (-1) (some (LuaValue.getField entries "job_runs"))
  return .pasqalCloud sequence jobRuns.toInt32.toInt

/-- The fields of `submit_alice_bob_felis_payload`. -/
def aliceBobFelisPayload (entries : List (LuaValue × LuaValue)) : LuaMethod CPayload := do
  let humanQir ← stringField entries "human_qir"
  let inputParams ← stringField entries "input_params"
  return .aliceBobFelis humanQir inputParams

/-- `maestro_u32`. -/
def maestroU32 (value : Int64) (field : String) : LuaMethod UInt32 :=
  if value < 0 ∨ UInt32.size ≤ value.toUInt64.toNat then
    raise s!"Maestro {field} must be an integer in 0..4294967295"
  else return value.toUInt64.toUInt32

/-- `strcasecmp` with an ASCII text. -/
def equalsIgnoringCase (text : CStr) (word : String) : Bool :=
  text.bytes.map (fun byte => if 65 ≤ byte ∧ byte ≤ 90 then byte + 32 else byte) =
    Text.utf8 word.toList

/-- The integers of a Maestro payload: those of a native request are not read. -/
def maestroIntegers (jobType : CStr) (qubits simulatorType simulationMethod : Int64) :
    LuaMethod (UInt32 × UInt32 × UInt32) :=
  if equalsIgnoringCase jobType "request" then
    return (qubits.toUInt64.toUInt32, simulatorType.toUInt64.toUInt32,
      simulationMethod.toUInt64.toUInt32)
  else do
    let qubits ← maestroU32 qubits "qubits"
    let simulatorType ← maestroU32 simulatorType "simulator_type"
    let simulationMethod ← maestroU32 simulationMethod "simulation_method"
    return (qubits, simulatorType, simulationMethod)

/-- A constant C string of the source. -/
def literal (text : String) : CStr :=
  .ofBytes (Text.utf8 text.toList)

/-- The fields of `qrmi_lua_submit_maestro_payload`. -/
def maestroPayload (runtime : LuaRuntime) (entries : List (LuaValue × LuaValue)) :
    LuaMethod CPayload := do
  let field := fun (name : String) => some (LuaValue.getField entries name)
  let input ← stringField entries "input"
  let jobType ← optString (-1) (some (literal "execute")) (field "job_type")
  let qubits ← optInteger runtime (-1) 0 (field "qubits")
  let simulatorType ← optInteger runtime (-1) 0 (field "simulator_type")
  let simulationMethod ← optInteger runtime (-1) 0 (field "simulation_method")
  let observables ← optString (-1) (some (literal "")) (field "observables")
  let config ← optString (-1) (some (literal "\x7b\x7d")) (field "config")
  let integers ← maestroIntegers (jobType.getD (literal "execute")) qubits simulatorType
    simulationMethod
  return .maestroLocal (some input) jobType integers.1 integers.2.1 integers.2.2
    observables config

/-- The payload tables in the order in which they are looked for. -/
def variants (runtime : LuaRuntime) :
    List (String × (List (LuaValue × LuaValue) → LuaMethod CPayload)) :=
  [("qiskit_primitive", qiskitPrimitivePayload), ("iqm_server", iqmServerPayload),
    ("pasqal_cloud", pasqalPayload runtime), ("alice_bob_felis", aliceBobFelisPayload),
    ("maestro_local", maestroPayload runtime), ("oqtopus", oqtopusPayload)]

/-- The first field that is a table. -/
def findVariant (entries : List (LuaValue × LuaValue)) :
    List (String × (List (LuaValue × LuaValue) → LuaMethod CPayload)) →
    Option (LuaMethod CPayload)
  | [] => none
  | (name, read) :: rest =>
      match LuaValue.getField entries name with
      | .table fields => some (read fields)
      | _ => findVariant entries rest

def missingVariant : List LuaValue :=
  [.nil, .ofText ("task_start: payload table must contain one of 'qiskit_primitive', " ++
    "'iqm_server', 'pasqal_cloud' (used for both Pasqal Cloud and " ++
    "Pasqal Local resources), 'alice_bob_felis', 'oqtopus', or 'maestro_local'")]

/-- `l_task_start`. -/
def lTaskStart (runtime : LuaRuntime) (arguments : List LuaValue) :
    LuaMethod (List LuaValue) := do
  let ud ← checkResource arguments
  let entries ← checkTable 2 (argument arguments 2)
  match findVariant entries (variants runtime) with
  | none => return missingVariant
  | some read => do
      let payload ← read
      let answer ← inC (qrmiResourceTaskStart ud.handle payload)
      pushText answer

/-- `l_task_status`. -/
def lTaskStatus (arguments : List LuaValue) : LuaMethod (List LuaValue) := do
  let ud ← checkResource arguments
  let taskId ← checkString 2 (argument arguments 2)
  let answer ← inC (qrmiResourceTaskStatus ud.handle taskId)
  pushValue answer fun status => .ofText (taskStatusToString status)

/-- `l_task_result`. -/
def lTaskResult (arguments : List LuaValue) : LuaMethod (List LuaValue) := do
  let ud ← checkResource arguments
  let taskId ← checkString 2 (argument arguments 2)
  let answer ← inC (qrmiResourceTaskResult ud.handle taskId)
  pushText answer

/-- `l_task_logs`. -/
def lTaskLogs (arguments : List LuaValue) : LuaMethod (List LuaValue) := do
  let ud ← checkResource arguments
  let taskId ← checkString 2 (argument arguments 2)
  let answer ← inC (qrmiResourceTaskLogs ud.handle taskId)
  pushText answer

/-- `l_task_stop`. -/
def lTaskStop (arguments : List LuaValue) : LuaMethod (List LuaValue) := do
  let ud ← checkResource arguments
  let taskId ← checkString 2 (argument arguments 2)
  let stopped ← inC (qrmiResourceTaskStop ud.handle taskId)
  pushValue (stopped, ()) fun _ => .boolean true

/-! ### Descriptions -/

/-- The loop of `l_metadata`. -/
def pushEntries (metadata : Option (Owned (List (Text × Text)))) :
    List (Owned CStr) → List (LuaValue × LuaValue) → LuaMethod (List (LuaValue × LuaValue))
  | [], entries => return entries
  | key :: rest, entries => do
      let value ← inC (qrmiResourceMetadataValue metadata key)
      freeGiven value
      pushEntries metadata rest (LuaValue.setTable entries key.value.bytes (.ofCStr value))

/-- The end of `l_metadata`. -/
def pushMetadata (answer : ReturnCode × Option (Owned (List (Text × Text)))) :
    LuaMethod (List LuaValue) :=
  if answer.1 ≠ .success then pushQrmiError answer.1
  else do
    let keys ← inC (qrmiResourceMetadataKeys answer.2)
    match keys.2 with
    | none => do
        let _ ← inC (qrmiResourceMetadataFree answer.2)
        pushQrmiError keys.1
    | some keys => do
        let entries ← pushEntries answer.2 keys.strings []
        let _ ← inC (qrmiStringArrayFree keys)
        let _ ← inC (qrmiResourceMetadataFree answer.2)
        return [.table entries]

/-- `l_metadata`. -/
def lMetadata (arguments : List LuaValue) : LuaMethod (List LuaValue) := do
  let ud ← checkResource arguments
  let answer ← inC (qrmiResourceMetadata ud.handle)
  pushMetadata answer

/-- A member that may not be reported. -/
def pushReported (answer : ReturnCode × Option α) (push : α → LuaValue) : LuaValue :=
  if answer.1 = .success then answer.2.elim .nil push else .nil

/-- The capacity of a status.  It is followed without a check. -/
def pushCapacity (status : Option (Owned CResourceStatus)) : LuaMethod LuaValue := do
  let answer ← inC (qrmiResourceStatusCapacity status)
  if answer.1 ≠ .success then return .nil
  else
    match answer.2 with
    | none => Method.throw .panic
    | some capacity => do
        Method.borrow (capacity.block .capacity)
        let _ ← inC (qrmiResourceCapacityFree capacity)
        return .ofFields
          [("available_slots", .ofInteger (.ofNat capacity.value.availableSlots)),
            ("max_slots", .ofInteger (.ofNat capacity.value.maxSlots))]

/-- `l_status`. -/
def lStatus (arguments : List LuaValue) : LuaMethod (List LuaValue) := do
  let ud ← checkResource arguments
  let answer ← inC (qrmiResourceStatus ud.handle)
  if answer.1 ≠ .success then pushQrmiError answer.1
  else do
    let code ← inC (qrmiResourceStatusCode answer.2)
    if code.1 ≠ .success then do
      let _ ← inC (qrmiResourceStatusFree answer.2)
      pushQrmiError code.1
    else do
      let codeText ← inC (qrmiResourceStatusCodeToString (code.2.getD .online))
      let reason ← inC (qrmiResourceStatusReason answer.2)
      freeGiven reason
      let busy ← inC (qrmiResourceStatusBusy answer.2)
      let healthy ← inC (qrmiResourceStatusHealthy answer.2)
      let pending ← inC (qrmiResourceStatusPendingJobCount answer.2)
      let capacity ← pushCapacity answer.2
      let _ ← inC (qrmiResourceStatusFree answer.2)
      return [.ofFields
        [("status", codeText.elim .nil fun text => .string (Text.utf8 text)),
          ("status_reason", .ofCStr reason),
          ("busy", pushReported busy .boolean),
          ("healthy", pushReported healthy .boolean),
          ("pending_job_count",
            pushReported pending fun count => .ofInteger (.ofNat count)),
          ("capacity", capacity)]]

/-- `l_target`. -/
def lTarget (arguments : List LuaValue) : LuaMethod (List LuaValue) := do
  let ud ← checkResource arguments
  let answer ← inC (qrmiResourceTarget ud.handle)
  pushText answer

/-! ### The end of a resource -/

/-- Release a cached token.  The code of the release is not looked at. -/
def releaseCached (handle : Owned Nat) : Option (Owned CStr) → LuaMethod Unit
  | some token => do
      Method.borrow (token.block .malloc)
      let _ ← inC (qrmiResourceRelease handle token.value)
      free (some token)
  | none => return ()

/-- `release_resource`. -/
def releaseResource (object : Nat) (ud : LuaQrmiResource) : LuaMethod Unit :=
  match ud.handle with
  | none => return ()
  | some handle => do
      releaseCached handle ud.acquisitionToken
      let _ ← inC (qrmiResourceFree handle)
      setObject object (.resource ⟨none, none⟩)

/-- `l_resource_free` and `l_resource_gc`. -/
def lResourceFree (arguments : List LuaValue) : LuaMethod (List LuaValue) := do
  let found ← checkUserdata resourceOf "qrmi.resource" (argument arguments 1)
  releaseResource found.1 found.2
  return []

/-! ### Configurations -/

/-- `l_qrmi_load_config`. -/
def lQrmiLoadConfig (arguments : List LuaValue) : LuaMethod (List LuaValue) := do
  let filename ← checkString 1 (argument arguments 1)
  match ← inC (qrmiConfigLoad filename) with
  | none => do
      let err ← inC qrmiGetLastError
      freeGiven err
      return [.nil, err.elim (.ofText "qrmi_config_load failed") fun err =>
        .string err.value.bytes]
  | some handle => do
      let object ← newUserdata (.config ⟨some handle⟩)
      return [object]

/-- `check_config`. -/
def checkConfig (arguments : List LuaValue) : LuaMethod (Owned Config) := do
  let found ← checkUserdata configOf "qrmi.config" (argument arguments 1)
  match found.2.handle with
  | some handle => return handle
  | none => raise "qrmi config already freed"

/-- The table of a resource definition. -/
def pushEnvironment (environment : List (Text × Text)) : LuaValue :=
  .table (environment.foldl (fun entries entry =>
    LuaValue.setTable entries (Text.utf8 entry.1) (.string (Text.utf8 entry.2))) [])

/-- `l_config_resource_def`. -/
def lConfigResourceDef (arguments : List LuaValue) : LuaMethod (List LuaValue) := do
  let config ← checkConfig arguments
  let resourceId ← checkString 2 (argument arguments 2)
  match ← inC (qrmiConfigResourceDefGet config resourceId) with
  | none => do
      let err ← inC qrmiGetLastError
      freeGiven err
      return [.nil, err.elim (.ofText "qrmi_config_resource_def_get failed") fun err =>
        .string err.value.bytes]
  | some resource => do
      Method.borrow (resource.block .resourceDef)
      let typeName ← pushTypeName (some resource.value.resourceType)
      let _ ← inC (qrmiConfigResourceDefFree resource)
      return [.ofFields
        [("name", .string (Text.utf8 resource.value.name)), ("type", typeName),
          ("is_dynamic", .boolean resource.value.isDynamic),
          ("environments", pushEnvironment resource.value.environment)]]

/-- `release_config`. -/
def releaseConfig (object : Nat) (ud : LuaQrmiConfig) : LuaMethod Unit :=
  match ud.handle with
  | none => return ()
  | some handle => do
      let _ ← inC (qrmiConfigFree handle)
      setObject object (.config ⟨none⟩)

/-- `l_config_free` and `l_config_gc`. -/
def lConfigFree (arguments : List LuaValue) : LuaMethod (List LuaValue) := do
  let found ← checkUserdata configOf "qrmi.config" (argument arguments 1)
  releaseConfig found.1 found.2
  return []

end LuaBinding

/-- What Lua can call: the functions of the module and the methods of its objects.  The
finalizers are methods, too. -/
inductive LuaFunction
  | new
  | newFromConfig
  | loadConfig
  | isAccessible
  | status
  | id
  | type
  | acquire
  | release
  | detach
  | taskStart
  | taskStatus
  | taskResult
  | taskLogs
  | taskStop
  | metadata
  | target
  | free
  | gc
  | resourceDef
  | configFree
  | configGc
  deriving DecidableEq

open LuaBinding in
/-- Call a function. -/
def LuaFunction.call (runtime : LuaRuntime) (arguments : List LuaValue) :
    LuaFunction → LuaMethod (List LuaValue)
  | new => lQrmiNew arguments
  | newFromConfig => lQrmiNewFromConfig runtime arguments
  | loadConfig => lQrmiLoadConfig arguments
  | isAccessible => lIsAccessible arguments
  | status => lStatus arguments
  | id => lResourceId arguments
  | type => lResourceType arguments
  | acquire => lAcquire runtime arguments
  | release => lRelease arguments
  | detach => lDetach arguments
  | taskStart => lTaskStart runtime arguments
  | taskStatus => lTaskStatus arguments
  | taskResult => lTaskResult arguments
  | taskLogs => lTaskLogs arguments
  | taskStop => lTaskStop arguments
  | metadata => lMetadata arguments
  | target => lTarget arguments
  | free | gc => lResourceFree arguments
  | resourceDef => lConfigResourceDef arguments
  | configFree | configGc => lConfigFree arguments
