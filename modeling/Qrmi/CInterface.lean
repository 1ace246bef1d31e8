import Qrmi.CString
import Qrmi.InteractionMethod
import Qrmi.KeyedStore
import Qrmi.QuantumResource
import Qrmi.ResourceType

/-!
# The C interface

A function of the C interface runs on one thread.  The thread remembers the message
and the kind of its last error in two cells of their own, and what a call stores
through its out-pointers is kept in order.  Everything behind the interface answers
as it likes.

A pointer is null or points to a valid object.  Handles of resources and providers
are numbers; other objects never change and stand for their pointers.
-/

open Interaction

/-- Return codes. -/
inductive ReturnCode
  | success
  | error
  | nullPointerError
  | envVarNotSetError
  | parseError
  | unsupportedResourceTypeError
  | unsupportedFunctionError
  | unsupportedPayloadError
  | taskNotReadyError
  | missingConfigKeyError
  | invalidInputError
  | resourceNotFoundError
  | taskNotFoundError
  | authenticationFailedError
  | invalidConfigError
  deriving DecidableEq

/-- `impl From<QrmiErrorKind> for ReturnCode`. -/
def ReturnCode.ofKind : QrmiErrorKind → ReturnCode
  | .envVarNotSet => .envVarNotSetError
  | .parseError => .parseError
  | .unsupportedResourceType => .unsupportedResourceTypeError
  | .unsupportedPayload => .unsupportedPayloadError
  | .unsupportedFunction => .unsupportedFunctionError
  | .taskNotReady => .taskNotReadyError
  | .missingConfigKey => .missingConfigKeyError
  | .invalidConfig => .invalidConfigError
  | .resourceNotFound => .resourceNotFoundError
  | .taskNotFound => .taskNotFoundError
  | .authenticationFailed => .authenticationFailedError
  | .invalidInput => .invalidInputError
  | .other => .error

theorem ReturnCode.ofKind_ne_success (kind : QrmiErrorKind) : ofKind kind ≠ .success := by
  cases kind <;> nofun

/-- The object behind a status handle. -/
structure CResourceStatus where
  inner : ResourceStatus

/-- A resource definition. -/
structure ResourceDef where
  name : Text
  resourceType : ResourceType
  isDynamic : Bool
  environment : List (Text × Text)

/-- A configuration: its resource map in the order of its iteration. -/
structure Config where
  resourceMap : List (Text × ResourceDef)

/-- The C payloads.  Pointers that are followed without a check are valid strings. -/
inductive CPayload
  | qiskitPrimitive (input programId : CStr)
  | pasqalCloud (sequence : CStr) (jobRuns : Int)
  | aliceBobFelis (humanQir inputParams : CStr)
  | iqmServer (iqmjson jobType : CStr) (useTimeslot : Int) (tag : Option CStr)
  | oqtopus (jobSpec : CStr)
  | maestroLocal (input jobType : Option CStr)
      (qubits simulatorType simulationMethod : UInt32)
      (observables config : Option CStr)

/-- A key-value map of the C interface, entry by entry. -/
abbrev EnvironmentVariables : Type :=
  List (Option CStr × Option CStr)

/-- The methods of the resource interface. -/
inductive ResourceMethod
  | resourceId
  | resourceType
  | isAccessible
  | status
  | acquire
  | release (token : Text)
  | taskStart (payload : Payload)
  | taskStop (taskId : Text)
  | taskStatus (taskId : Text)
  | taskResult (taskId : Text)
  | taskLogs (taskId : Text)
  | target
  | metadata

/-- The value of a successful method. -/
def ResourceMethod.Value : ResourceMethod → Type
  | .resourceType => ResourceType
  | .isAccessible => Bool
  | .status => CResourceStatus
  | .release _ | .taskStop _ => Unit
  | .taskStatus _ => TaskStatus
  | .metadata => List (Text × Text)
  | .resourceId | .acquire | .taskStart _ | .taskResult _ | .taskLogs _ | .target => Text

/-- The outcome of a method.  Metadata cannot fail. -/
def ResourceMethod.Answer : ResourceMethod → Type
  | .metadata => List (Text × Text)
  | method => Except QrmiError method.Value

/-- What a function of the interface asks of the code behind it. -/
inductive Invocation
  | resource (handle : Nat) (method : ResourceMethod)
  | loadConfig (file : Text)
  | createResource (resourceType : ResourceType) (resourceId : Text)
  | createResourceFromConfig (resourceType : ResourceType) (resourceId : Text)
      (config : KeyedStore Text Text)
  | createProvider (resourceType : ResourceType) (environment : KeyedStore Text Text)
  | providerResources (provider : Nat) (filters : Option Text)
  | providerLeastBusy (provider : Nat) (filters : Option Text)
  | serviceResources
  | setLogSink (registered : Bool)

/-- The answers.  An `anyhow` error is its text. -/
def Invocation.Answer : Invocation → Type
  | .resource _ method => method.Answer
  | .loadConfig _ => Except String Config
  | .createResource .. | .createResourceFromConfig .. | .createProvider .. =>
      Except QrmiError Nat
  | .providerResources .. | .serviceResources => Except QrmiError (List Nat)
  | .providerLeastBusy .. => Except QrmiError (Option Nat)
  | .setLogSink _ => Except Unit Unit

/-- What is stored through an out-pointer. -/
inductive Output
  | bool (value : Bool)
  | count (value : Nat)
  | text (value : Text)
  | texts (values : List Text)
  | resourceType (value : ResourceType)
  | status (value : CResourceStatus)
  | statusCode (value : ResourceStatusCode)
  | capacity (value : ResourceCapacity)
  | taskStatus (value : TaskStatus)
  | metadata (value : List (Text × Text))
  | resource (handle : Option Nat)
  | resources (handles : List Nat)

/-- The state of a thread: `LAST_ERROR`, `LAST_ERROR_KIND` and the stored outputs. -/
structure CThread where
  lastError : Option Text
  lastErrorKind : QrmiErrorKind
  outputs : List Output

namespace CThread

/-- A thread that has not called anything. -/
def initial : CThread where
  lastError := none
  lastErrorKind := .other
  outputs := []

/-- `CString::new(msg)` with the replacement for messages that contain a nul. -/
def message (text : String) : Text :=
  if '\x00' ∈ text.toList then "Failed to generate a C-compatible string".toList
  else text.toList

def setLastError (text : String) (thread : CThread) : CThread :=
  { thread with lastError := some (message text) }

def setLastErrorKind (kind : QrmiErrorKind) (thread : CThread) : CThread :=
  { thread with lastErrorKind := kind }

def store (output : Output) (thread : CThread) : CThread :=
  { thread with outputs := thread.outputs ++ [output] }

/-- The two cells of the last error. -/
def cells (thread : CThread) : Option Text × QrmiErrorKind :=
  (thread.lastError, thread.lastErrorKind)

@[simp]
theorem cells_store (output : Output) (thread : CThread) :
    (thread.store output).cells = thread.cells :=
  rfl

end CThread

/-- A function of the C interface.  It returns, or the process is aborted. -/
abbrev CFunction (α : Type) : Type :=
  Method Invocation Invocation.Answer CThread Empty α

/-- An object behind a returned handle. -/
inductive Handle
  | config (value : Config)
  | resourceDef (value : ResourceDef)
  | resource (handle : Nat)
  | provider (handle : Nat)

/-- What a function returns: a code, a handle, a string, or the kind of the last
error. -/
inductive Returned
  | code (code : ReturnCode)
  | handle (handle : Option Handle)
  | text (text : Option Text)
  | kind (code : ReturnCode)

/-- A failure code or a null handle. -/
def Returned.fails : Returned → Bool
  | .code returned => returned ≠ .success
  | .handle pointer => pointer.isNone
  | .text _ | .kind _ => false

/-- The null handle. -/
def Returned.null : Returned :=
  .handle none

namespace CFunction

variable {α : Type}

/-- Ask the code behind the interface. -/
def invoke (invocation : Invocation) : CFunction invocation.Answer :=
  Method.lift (Program.question invocation)

/-- A panic in a function of the interface aborts the process. -/
def abort : CFunction α :=
  fun _ => .pending

/-- `_set_last_error`. -/
def setLastError (text : String) : CFunction Unit :=
  Method.modify (CThread.setLastError text)

/-- `_record_error`. -/
def recordError (error : QrmiError) : CFunction Unit := do
  Method.modify (CThread.setLastErrorKind error.kind)
  setLastError error.display

/-- `_fail`. -/
def fail (error : QrmiError) : CFunction Returned := do
  recordError error
  return .code (.ofKind error.kind)

/-- Store an output and succeed. -/
def succeedWith (output : Output) : CFunction Returned := do
  Method.modify (CThread.store output)
  return .code .success

/-- Hand out a string, which must not contain a nul. -/
def succeedWithText (text : Text) : CFunction Returned :=
  if '\x00' ∈ text then return .code .error else succeedWith (.text text)

/-- Convert the answer of a fallible invocation to a return code. -/
def orFail (succeed : α → CFunction Returned) :
    Except QrmiError α → CFunction Returned
  | .ok value => succeed value
  | .error error => fail error

/-- Return a handle, or record the error and return a null handle. -/
def orNull (handle : α → Handle) : Except QrmiError α → CFunction Returned
  | .ok value => return .handle (some (handle value))
  | .error error => do
      recordError error
      return .null

end CFunction
