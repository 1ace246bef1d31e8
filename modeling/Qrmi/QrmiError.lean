import Qrmi.RustText

/-!
# The error type of the resource interface

Every method of a quantum resource fails with a `QrmiError`.  Its kind is a
contract with the caller: after `task_start`, any kind other than `Other`
promises that no task was created.
-/

/-- Conditions specific to the IBM backends. -/
inductive IbmError
  | unknownProgramId (program : String)
  | invalidSessionMode (mode : String)
  deriving DecidableEq

/-- Conditions specific to the Pasqal backends. -/
inductive PasqalError
  | invalidDeviceType (message : String)
  | invalidCudaqSequence (message : String)
  deriving DecidableEq

/-- Errors raised by the resource interface.  An `anyhow` error is represented
by its message. -/
inductive QrmiError
  | envVarNotSet (name : String)
  | parseError (name value : String)
  | unsupportedResourceType (resourceType : String)
  | unsupportedPayload (payload : String)
  | unsupportedFunction (function : String)
  | taskNotReady (taskId reason : String)
  | missingConfigKey (key : String)
  | invalidConfig (message : String)
  | resourceNotFound (name : String)
  | taskNotFound (name : String)
  | authenticationFailed (message : String)
  | invalidInput (message : String)
  | invalidJson (message : String)
  | invalidUtf8 (message : String)
  | ibm (error : IbmError)
  | pasqal (error : PasqalError)
  | other (message : String)
  deriving DecidableEq

/-- The variant tag exposed to the C and Python bindings. -/
inductive QrmiErrorKind
  | envVarNotSet
  | parseError
  | unsupportedResourceType
  | unsupportedPayload
  | unsupportedFunction
  | taskNotReady
  | missingConfigKey
  | invalidConfig
  | resourceNotFound
  | taskNotFound
  | authenticationFailed
  | invalidInput
  | other
  deriving DecidableEq

namespace IbmError

def kind : IbmError → QrmiErrorKind
  | unknownProgramId _ => .invalidInput
  | invalidSessionMode _ => .invalidInput

def display : IbmError → String
  | unknownProgramId program => s!"unknown program ID: {program}"
  | invalidSessionMode mode => s!"invalid session mode: {mode}"

end IbmError

namespace PasqalError

def kind : PasqalError → QrmiErrorKind
  | invalidDeviceType _ => .invalidInput
  | invalidCudaqSequence _ => .invalidInput

def display : PasqalError → String
  | invalidDeviceType message => message
  | invalidCudaqSequence message =>
      s!"failed to parse CUDA-Q sequence payload: {message}"

end PasqalError

namespace QrmiError

def kind : QrmiError → QrmiErrorKind
  | envVarNotSet _ => .envVarNotSet
  | parseError .. => .parseError
  | unsupportedResourceType _ => .unsupportedResourceType
  | unsupportedPayload _ => .unsupportedPayload
  | unsupportedFunction _ => .unsupportedFunction
  | taskNotReady .. => .taskNotReady
  | missingConfigKey _ => .missingConfigKey
  | invalidConfig _ => .invalidConfig
  | resourceNotFound _ => .resourceNotFound
  | taskNotFound _ => .taskNotFound
  | authenticationFailed _ => .authenticationFailed
  | invalidInput _ => .invalidInput
  | invalidJson _ => .invalidInput
  | invalidUtf8 _ => .invalidInput
  | ibm error => error.kind
  | pasqal error => error.kind
  | other _ => .other

def display : QrmiError → String
  | envVarNotSet name => s!"{name} environment variable is not set"
  | parseError name value =>
      s!"failed to parse {name} value {Text.debug value.toList}"
  | unsupportedResourceType resourceType =>
      "unsupported resource type for dynamic resource discovery: " ++
        resourceType
  | unsupportedPayload payload => s!"payload type is not supported: {payload}"
  | unsupportedFunction function => s!"unsupported function: {function}"
  | taskNotReady taskId reason =>
      s!"unable to retrieve result for task {taskId}: {reason}"
  | missingConfigKey key => s!"missing required config key: '{key}'"
  | invalidConfig message => s!"invalid configuration: {message}"
  | resourceNotFound name => s!"resource not found: {name}"
  | taskNotFound name => s!"task not found: {name}"
  | authenticationFailed message => s!"authentication failed: {message}"
  | invalidInput message => s!"invalid input: {message}"
  | invalidJson message => s!"invalid JSON: {message}"
  | invalidUtf8 message => s!"invalid UTF-8: {message}"
  | ibm error => error.display
  | pasqal error => error.display
  | other message => message

end QrmiError
