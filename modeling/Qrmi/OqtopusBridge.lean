import Qrmi.ConfigBoundary
import Qrmi.InteractionHeap

/-!
# The Python bridge of OQTOPUS

The bridge is a library of its own.  Its entry points call the OQTOPUS client in a Python
interpreter, which answers as it likes, and hand the outcome out as a C string that the
caller gives back.
-/

open Interaction

/-- An object of the interpreter. -/
structure PyObject where
  handle : Nat
  deriving DecidableEq

/-- An exception. -/
structure PyErr where
  handle : Nat
  deriving DecidableEq

inductive PyArgument
  | object (object : PyObject)
  | text (value : Text)

/-- How an operation of the interpreter ends without a value. -/
inductive PyFailure
  | raised (error : PyErr)
  | panicked

/-- What the bridge does with the interpreter. -/
inductive PyAction
  | importModule (name : String)
  | newDict
  | getattr (object : PyObject) (name : String)
  | hasattr (object : PyObject) (name : String)
  | call (callable : PyObject) (args : List PyArgument) (kwargs : Option PyObject)
  | callMethod (object : PyObject) (name : String) (args : List PyArgument)
      (kwargs : Option PyObject)
  | castDict (object : PyObject)
  | getItem (dict : PyObject) (key : String)
  | setItem (dict : PyObject) (key : Text) (value : PyArgument)
  | items (dict : PyObject)
  | extractString (object : PyObject)
  | extractI64 (object : PyObject)
  | newValueError (message : String)
  | valueOf (error : PyErr)
  | formatTraceback (error : PyErr)
  | display (error : PyErr)

/-- An exception without a traceback has nothing to format, and the `Display` of an
exception panics where the name of its type cannot be read. -/
abbrev PyAction.Answer : PyAction → Type
  | importModule _ | getattr .. | call .. | callMethod .. => Except PyFailure PyObject
  | newDict | valueOf _ => PyObject
  | newValueError _ => PyErr
  | hasattr .. => Except PyFailure Bool
  | castDict _ | setItem .. => Except PyFailure Unit
  | getItem .. => Except PyFailure (Option PyObject)
  | items _ => List (PyObject × PyObject)
  | extractString _ => Except PyFailure Text
  | extractI64 _ => Except PyFailure Int
  | formatTraceback _ => Except PyFailure (Option Text)
  | display _ => Option Text

/-- Code that holds the interpreter. -/
abbrev PyMethod (α : Type) : Type :=
  Method PyAction PyAction.Answer Unit PyFailure α

namespace PyMethod

def importModule (name : String) : PyMethod PyObject := do
  let answer ← Method.lift (Program.question (.importModule name))
  Method.ofExcept answer

def newDict : PyMethod PyObject :=
  Method.lift (Program.question PyAction.newDict)

def getattr (object : PyObject) (name : String) : PyMethod PyObject := do
  let answer ← Method.lift (Program.question (.getattr object name))
  Method.ofExcept answer

def hasattr (object : PyObject) (name : String) : PyMethod Bool := do
  let answer ← Method.lift (Program.question (.hasattr object name))
  Method.ofExcept answer

def call (callable : PyObject) (args : List PyArgument) (kwargs : Option PyObject) :
    PyMethod PyObject := do
  let answer ← Method.lift (Program.question (.call callable args kwargs))
  Method.ofExcept answer

def callMethod (object : PyObject) (name : String) (args : List PyArgument)
    (kwargs : Option PyObject) : PyMethod PyObject := do
  let answer ← Method.lift (Program.question (.callMethod object name args kwargs))
  Method.ofExcept answer

def castDict (object : PyObject) : PyMethod Unit := do
  let answer ← Method.lift (Program.question (.castDict object))
  Method.ofExcept answer

def getItem (dict : PyObject) (key : String) : PyMethod (Option PyObject) := do
  let answer ← Method.lift (Program.question (.getItem dict key))
  Method.ofExcept answer

def setItem (dict : PyObject) (key : Text) (value : PyArgument) : PyMethod Unit := do
  let answer ← Method.lift (Program.question (.setItem dict key value))
  Method.ofExcept answer

def items (dict : PyObject) : PyMethod (List (PyObject × PyObject)) :=
  Method.lift (Program.question (PyAction.items dict))

def extractString (object : PyObject) : PyMethod Text := do
  let answer ← Method.lift (Program.question (.extractString object))
  Method.ofExcept answer

def extractI64 (object : PyObject) : PyMethod Int := do
  let answer ← Method.lift (Program.question (.extractI64 object))
  Method.ofExcept answer

/-- `Result::ok`: an exception is dropped, a panic is not. -/
def ok {α : Type} (method : PyMethod α) : PyMethod (Option α) := do
  let outcome ← method.attempt
  match outcome with
  | .ok value => return some value
  | .error (.raised _) => return none
  | .error .panicked => Method.throw .panicked

/-- `Display` of an exception, which panics where it cannot be written. -/
def display (error : PyErr) : PyMethod Text := do
  let shown ← Method.lift (Program.question (PyAction.display error))
  match shown with
  | some text => return text
  | none => Method.throw .panicked

end PyMethod

namespace OqtopusBridge

open PyMethod

/-- A list of the configuration is made a frozen set. -/
def freezeItem (builtins kwargs : PyObject) (key : String) : PyMethod Unit := do
  let present ← getItem kwargs key
  match present with
  | some value => do
      let frozenset ← callMethod builtins "frozenset" [.object value] none
      setItem kwargs key.toList (.object frozenset)
  | none => return ()

/-- `build_client`. -/
def buildClient (configJson : Text) : PyMethod PyObject := do
  let oqtopus ← importModule "oqtopus_client"
  let jsonMod ← importModule "json"
  let kwargs ← callMethod jsonMod "loads" [.text configJson] none
  castDict kwargs
  let builtins ← importModule "builtins"
  freezeItem builtins kwargs "retry_status_codes"
  freezeItem builtins kwargs "retry_methods"
  let services ← getattr oqtopus "services"
  let configModule ← getattr services "config"
  let configCls ← getattr configModule "OqtopusConfig"
  let config ← call configCls [] (some kwargs)
  let services ← getattr oqtopus "services"
  let clientModule ← getattr services "client"
  let clientCls ← getattr clientModule "OqtopusClient"
  call clientCls [.object config] none

/-- `job_spec_cls`. -/
def jobSpecCls : PyMethod PyObject := do
  let oqtopus ← importModule "oqtopus_client"
  let services ← getattr oqtopus "services"
  let jobSpec ← getattr services "job_spec"
  getattr jobSpec "OqtopusJobSpec"

/-- `value.model_dump(mode="json")`. -/
def modelDump (value : PyObject) : PyMethod PyObject := do
  let kwargs ← newDict
  setItem kwargs "mode".toList (.text "json".toList)
  callMethod value "model_dump" [] (some kwargs)

/-- `normalize_value`. -/
def normalizeValue (value : PyObject) : PyMethod PyObject := do
  let dumps ← hasattr value "model_dump"
  if dumps then modelDump value
  else
    let converts ← hasattr value "to_dict"
    if converts then callMethod value "to_dict" [] none else return value

/-- `json.dumps(value, default=str)`. -/
def dumpJson (jsonMod strFn value : PyObject) : PyMethod Text := do
  let kwargs ← newDict
  setItem kwargs "default".toList (.object strFn)
  let dumped ← callMethod jsonMod "dumps" [.object value] (some kwargs)
  extractString dumped

/-- The embedded document of a device takes the place of its text, where it is one. -/
def nestDeviceInfo (jsonMod deviceDict : PyObject) : PyMethod Unit := do
  let present ← getItem deviceDict "device_info"
  match present with
  | none => return ()
  | some deviceInfo =>
      let text ← ok (extractString deviceInfo)
      match text with
      | none => return ()
      | some deviceInfoStr =>
          let parsed ← ok (callMethod jsonMod "loads" [.text deviceInfoStr] none)
          match parsed with
          | none => return ()
          | some parsed => setItem deviceDict "device_info".toList (.object parsed)

/-- `device_to_json`. -/
def deviceToJson (device : PyObject) : PyMethod Text := do
  let raw ← getattr device "raw"
  let deviceDict ← modelDump raw
  castDict deviceDict
  let jsonMod ← importModule "json"
  let builtins ← importModule "builtins"
  nestDeviceInfo jsonMod deviceDict
  let strFn ← getattr builtins "str"
  dumpJson jsonMod strFn deviceDict

/-- The attributes of a job result, without the client. -/
def copyAttributes (resultDict : PyObject) : List (PyObject × PyObject) → PyMethod Unit
  | [] => return ()
  | (key, value) :: rest => do
      let keyStr ← extractString key
      let name := keyStr.dropWhile (· = '_')
      if name = "client".toList then copyAttributes resultDict rest
      else do
        let normalized ← normalizeValue value
        setItem resultDict name (.object normalized)
        copyAttributes resultDict rest

/-- The first of the keys that a dict maps to a string. -/
def findString (dict : PyObject) : List String → PyMethod (Option Text)
  | [] => return none
  | key :: keys => do
      let present ← getItem dict key
      match present with
      | some value => do
          let text ← ok (extractString value)
          match text with
          | some text => return some text
          | none => findString dict keys
      | none => findString dict keys

/-- The job ID in the response to a submission: its attribute, or an entry of its dict. -/
def submittedJobId (response : PyObject) : PyMethod Text := do
  let direct ← ok (getattr response "job_id")
  let jobId ←
    match direct with
    | some jobId => ok (extractString jobId)
    | none => pure none
  match jobId with
  | some jobId => return jobId
  | none =>
      let asDict ← callMethod response "to_dict" [] none
      castDict asDict
      let found ← findString asDict ["job_id", "id", "jobId"]
      match found with
      | some jobId => return jobId
      | none =>
          let error ← Method.lift (Program.question (PyAction.newValueError
            "could not find job_id in submit_job response"))
          Method.throw (.raised error)

/-- The entry points that take one argument beside the configuration. -/
inductive EntryPoint
  | getDeviceStatus
  | cancelJob
  | getJobStatus
  | getDeviceJson
  | getJobResultJson
  | submitJob
  deriving DecidableEq

namespace EntryPoint

/-- The symbol of an entry point. -/
def symbol : EntryPoint → String
  | getDeviceStatus => "get_device_status"
  | cancelJob => "cancel_job"
  | getJobStatus => "get_job_status"
  | getDeviceJson => "get_device_json"
  | getJobResultJson => "get_job_result_json"
  | submitJob => "submit_job"

/-- The closure that an entry point runs under the lock of the interpreter. -/
def run (entryPoint : EntryPoint) (arg configJson : Text) : PyMethod Text := do
  let client ← buildClient configJson
  match entryPoint with
  | getDeviceStatus =>
      let device ← callMethod client "get_device" [.text arg] none
      let status ← getattr device "status"
      extractString status
  | cancelJob =>
      let response ← callMethod client "cancel_job" [.text arg] none
      let message ← getattr response "message"
      extractString message
  | getJobStatus =>
      let response ← callMethod client "get_job_status" [.text arg] none
      let status ← getattr response "status"
      extractString status
  | getDeviceJson =>
      let device ← callMethod client "get_device" [.text arg] none
      deviceToJson device
  | getJobResultJson =>
      let jobResult ← callMethod client "get_job_result" [.text arg] none
      let builtins ← importModule "builtins"
      let rawVars ← callMethod builtins "vars" [.object jobResult] none
      castDict rawVars
      let resultDict ← newDict
      let attributes ← items rawVars
      copyAttributes resultDict attributes
      let strFn ← getattr builtins "str"
      let kwargs ← newDict
      setItem kwargs "default".toList (.object strFn)
      let jsonMod ← importModule "json"
      let dumped ← callMethod jsonMod "dumps" [.object resultDict] (some kwargs)
      extractString dumped
  | submitJob =>
      let jsonMod ← importModule "json"
      let specDict ← callMethod jsonMod "loads" [.text arg] none
      castDict specDict
      let jobSpecCls ← jobSpecCls
      let jobSpec ← call jobSpecCls [] (some specDict)
      let response ← callMethod client "submit_job" [.object jobSpec] none
      submittedJobId response

end EntryPoint

/-- `extract_user_api_error`. -/
def extractUserApiError (error : PyErr) : PyMethod (Option (Int × Text)) := do
  let value ← Method.lift (Program.question (PyAction.valueOf error))
  ok do
    let statusCode ← getattr value "status_code"
    let statusCode ← extractI64 statusCode
    let message ← getattr value "message"
    let message ← extractString message
    return (statusCode, message)

/-- The message of the `PyRuntimeError` that an exception is replaced by. -/
def describeError (error : PyErr) : PyMethod Text := do
  let apiError ← extractUserApiError error
  match apiError with
  | some (statusCode, message) =>
      return "api error: status=".toList ++ Text.showInt statusCode ++
        " message=".toList ++ message
  | none =>
      let formatted ← Method.lift (Program.question (PyAction.formatTraceback error))
      match formatted with
      | .error .panicked => Method.throw .panicked
      | .error (.raised _) =>
          let shown ← display error
          return shown ++ ['\n']
      | .ok traceback =>
          let shown ← display error
          return shown ++ '\n' :: traceback.getD []

/-- The closure of an entry point, with the message of its exception. -/
def describedRun (entryPoint : EntryPoint) (arg configJson : Text) :
    PyMethod (Except Text Text) := do
  let outcome ← (entryPoint.run arg configJson).attempt
  match outcome with
  | .ok value => return .ok value
  | .error (.raised error) =>
      let message ← describeError error
      return .error message
  | .error .panicked => Method.throw .panicked

/-- What is allocated in the bridge is given back to it. -/
inductive BridgeBlock
  | string
  deriving DecidableEq

/-- A pointer to a string of the bridge. -/
structure BridgeString where
  address : Nat
  value : CStr

def BridgeString.block (pointer : BridgeString) : Block BridgeBlock :=
  ⟨pointer.address, .string⟩

/-- Code that uses strings of the bridge. -/
abbrev BridgeMemory (Error α : Type) : Type :=
  Method PyAction PyAction.Answer (Stored BridgeBlock Unit) (Halt Error) α

/-- `CString::new`, with another text for those that contain a nul. -/
def cstringOr (fallback : CStr) (text : Text) : CStr :=
  if noNul : 0 ∉ Text.utf8 text then ⟨Text.utf8 text, noNul⟩ else fallback

def invalidData : CStr :=
  ⟨Text.utf8 "(contains invalid data)".toList, by decide⟩

def invalidError : CStr :=
  ⟨Text.utf8 "error (invalid utf8)".toList, by decide⟩

/-- What an entry point returns, and what it stores through its out-pointers. -/
structure BridgeReturn where
  code : Int
  out : Option BridgeString
  error : Option BridgeString

section Calls

variable {Error : Type}

/-- `CString::into_raw`. -/
def intoRaw (string : CStr) : BridgeMemory Error BridgeString := do
  let block ← Method.allocate BridgeBlock.string
  return ⟨block.address, string⟩

/-- `set_error`.  Without a place for it the message is printed. -/
def setError (hasError : Bool) (msg : Text) : BridgeMemory Error (Option BridgeString) :=
  if hasError then some <$> intoRaw (cstringOr invalidError msg) else return none

/-- The end of `run_bridge_call`.  `hasOut` and `hasError` tell whether the out-pointers are
not null; a value is stored without a look at the pointer. -/
def storeOutcome (hasOut hasError : Bool) :
    Except PyFailure (Except Text Text) → BridgeMemory Error BridgeReturn
  | .ok (.ok value) => do
      let string ← intoRaw (cstringOr invalidData value)
      if hasOut then return ⟨0, some string, none⟩ else Method.throw .panic
  | .ok (.error message) => do
      let error ← setError hasError ("python error: RuntimeError: ".toList ++ message)
      return ⟨-1, none, error⟩
  | .error _ => do
      let error ← setError hasError "panicked while calling python".toList
      return ⟨-1, none, error⟩

/-- `run_bridge_call`. -/
def runBridgeCall (entryPoint : EntryPoint) (arg configJson : CStr) (hasOut hasError : Bool) :
    BridgeMemory Error BridgeReturn := do
  let result ← Method.onRest
    (describedRun entryPoint arg.toStringLossy configJson.toStringLossy).attempt
  storeOutcome hasOut hasError result

/-- `py_bridge_free_string`. -/
def pyBridgeFreeString : Option BridgeString → BridgeMemory Error Unit
  | none => return ()
  | some pointer => Method.giveBack pointer.block

end Calls

end OqtopusBridge
