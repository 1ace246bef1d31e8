import Qrmi.QrmiError

/-!
# The filters of the backend providers

A filter is a text of `key=value` segments joined by `&`.  The two IBM providers
parse it in the same way, up to the integer type of the number of qubits.
-/

/-- The glob patterns of the `glob` library: compiling one, and matching names
with the outcome. -/
structure GlobLibrary where
  compile : Text → Except String (Text → Bool)

/-- The fields of a backend configuration that a filter reads. -/
structure BackendConfiguration where
  nQubits : Nat
  maxShots : Nat
  simulator : Bool

inductive StatusFilter
  | any
  | online
  deriving DecidableEq

structure BackendFilter where
  numQubits : Option Nat
  maxShots : Option Nat
  namePattern : Option (Text → Bool)
  isSimulator : Bool
  status : StatusFilter

namespace BackendFilter

def default : BackendFilter where
  numQubits := none
  maxShots := none
  namePattern := none
  isSimulator := false
  status := .any

/-- The error for a value that its key does not allow. -/
def invalidValue (key : String) (value : Text) (expected : String) : QrmiError :=
  .invalidInput
    s!"invalid value for filter '{key}': {Text.debug value} ({expected})"

/-- A number below the bound of its integer type. -/
def parseNumber (key : String) (bound : Nat) (value : Text) : Except QrmiError Nat :=
  match Text.parseUnsigned bound value.trim with
  | some number => .ok number
  | none => .error (invalidValue key value "expected a non-negative integer")

/-- The effect of one recognised or unrecognised key. -/
def assign (glob : GlobLibrary) (qubitBound : Nat) (filter : BackendFilter)
    (key value : Text) : Except QrmiError BackendFilter :=
  if key = "num_qubits".toList then do
    let number ← parseNumber "num_qubits" qubitBound value
    return { filter with numQubits := some number }
  else if key = "max_shots".toList then do
    let number ← parseNumber "max_shots" (2 ^ 64) value
    return { filter with maxShots := some number }
  else if key = "name".toList then
    match glob.compile value.trim with
    | .ok pattern => .ok { filter with namePattern := some pattern }
    | .error message => .error (.invalidInput
        ("invalid glob pattern for 'name' filter " ++
          s!"{Text.debug value}: {message}"))
  else if key = "is_simulator".toList then
    if value.trim = "true".toList then .ok { filter with isSimulator := true }
    else if value.trim = "false".toList then .ok { filter with isSimulator := false }
    else .error (invalidValue "is_simulator" value "expected 'true' or 'false'")
  else if key = "status".toList then
    if value.trim = "online".toList then .ok { filter with status := .online }
    else .error (invalidValue "status" value "supported: 'online'")
  else .ok filter

/-- The effect of one segment. -/
def readSegment (glob : GlobLibrary) (qubitBound : Nat) (filter : BackendFilter)
    (pair : Text) : Except QrmiError BackendFilter :=
  let pair := pair.trim
  if pair = [] then .ok filter
  else
    match Text.splitOnce '=' pair with
    | none => .error (.invalidInput
        s!"invalid filter segment {Text.debug pair}: expected 'key=value'")
    | some (key, value) => assign glob qubitBound filter key.trim value

/-- The loop of both parsers. -/
def parseWith (glob : GlobLibrary) (qubitBound : Nat) (filters : Text) :
    Except QrmiError BackendFilter :=
  (filters.splitOn '&').foldlM (readSegment glob qubitBound) default

def matchesName (filter : BackendFilter) (name : Text) : Bool :=
  match filter.namePattern with
  | some pattern => pattern name
  | none => true

def matchesConfig (filter : BackendFilter) (config : BackendConfiguration) : Bool :=
  if config.simulator ≠ filter.isSimulator then false
  else if filter.numQubits.any (config.nQubits < ·) then false
  else if filter.maxShots.any (config.maxShots < ·) then false
  else true

end BackendFilter
