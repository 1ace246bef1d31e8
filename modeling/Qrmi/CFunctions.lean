import Qrmi.CInterface

/-!
# The functions of the C interface

One definition for each exported function, in the order of its checks.  A pointer
argument is an option, and an out-pointer says whether it is given.
-/

open Interaction

namespace CFunction

/-- `envvars_to_hashmap`: entries with a null key or value are skipped. -/
def envvarsToHashmap : EnvironmentVariables → KeyedStore Text Text →
    Except String (KeyedStore Text Text)
  | [], map => .ok map
  | (some key, some value) :: rest, map =>
      match key.toStr with
      | none => .error s!"Invalid UTF-8 in env key: {key.utf8Error}"
      | some keyText =>
          match value.toStr with
          | none => .error s!"Invalid UTF-8 in env value: {value.utf8Error}"
          | some valueText => envvarsToHashmap rest (map.insert keyText valueText)
  | _ :: rest, map => envvarsToHashmap rest map

/-- The functions that release an object differ in their object only. -/
def free (given : Bool) : CFunction Returned :=
  if !given then return .code .nullPointerError
  else return .code .success

def qrmiLogCallbackSet (registered : Bool) : CFunction Returned := do
  match ← invoke (.setLogSink registered) with
  | .ok () => return .code .success
  | .error () => return .code .error

def qrmiStringFree (given : Bool) : CFunction Returned :=
  free given

def qrmiStringArrayFree (given : Bool) : CFunction Returned :=
  free given

def qrmiConfigLoad (filename : Option CStr) : CFunction Returned :=
  match filename with
  | none => return .null
  | some filename =>
      match filename.toStr with
      | some file => do
          match ← invoke (.loadConfig file) with
          | .ok config => return .handle (some (.config config))
          | .error error => do
              setLastError error
              return .null
      | none => return .null

def qrmiConfigFree (given : Bool) : CFunction Returned :=
  free given

/-- A definition whose strings can be converted to C strings. -/
def ResourceDef.isConvertible (resource : ResourceDef) : Bool :=
  '\x00' ∉ resource.name &&
    resource.environment.all fun entry => '\x00' ∉ entry.1 && '\x00' ∉ entry.2

def qrmiConfigResourceDefGet (config : Option Config) (resourceId : Option CStr) :
    CFunction Returned :=
  match config with
  | none => return .null
  | some config =>
      match resourceId with
      | none => return .null
      | some resourceId =>
          match resourceId.toStr with
          | none => return .null
          | some id =>
              match config.resourceMap.lookup id with
              | none => return .null
              | some resource =>
                  if ResourceDef.isConvertible resource then
                    return .handle (some (.resourceDef resource))
                  else abort

def qrmiConfigResourceTypeToStr (resourceType : ResourceType) : CFunction Returned :=
  return .text (some resourceType.asStr)

def qrmiConfigResourceTypeFromStr (typeStr : Option CStr) (outp : Bool) :
    CFunction Returned :=
  match typeStr with
  | none => return .code .nullPointerError
  | some typeStr =>
      if !outp then return .code .nullPointerError
      else
        let value := typeStr.toStringLossy
        match ResourceType.fromQpuTypeStr value with
        | some resourceType => succeedWith (.resourceType resourceType)
        | none => fail (.invalidInput s!"unknown resource type: {String.ofList value}")

def qrmiConfigResourceDefFree (given : Bool) : CFunction Returned :=
  free given

def qrmiConfigResourceNamesGet (config : Option Config) (names : Bool) :
    CFunction Returned :=
  match config with
  | none => return .code .nullPointerError
  | some config =>
      if !names then return .code .nullPointerError
      else
        let keys := config.resourceMap.map Prod.fst
        if keys.all fun key => '\x00' ∉ key then do
          Method.modify (CThread.store (.count keys.length))
          succeedWith (.texts keys)
        else abort

def qrmiGetLastError : CFunction Returned := do
  let thread ← Method.self
  return .text thread.lastError

def qrmiGetLastErrorKind : CFunction Returned := do
  let thread ← Method.self
  return .kind (.ofKind thread.lastErrorKind)

def qrmiResourceNew (resourceId : Option CStr) (resourceType : ResourceType) :
    CFunction Returned :=
  match resourceId with
  | none => return .null
  | some resourceId =>
      match resourceId.toStr with
      | some id => do
          let created ← invoke (.createResource resourceType id)
          orNull .resource created
      | none => return .null

def qrmiResourceNewFromConfig (resourceId : Option CStr) (resourceType : ResourceType)
    (config : Option EnvironmentVariables) : CFunction Returned :=
  match resourceId with
  | none => return .null
  | some resourceId =>
      match config with
      | none => do
          setLastError "config is NULL"
          return .null
      | some config =>
          match envvarsToHashmap config .empty with
          | .error error => do
              setLastError error
              return .null
          | .ok configMap =>
              match resourceId.toStr with
              | some id => do
                  let created ← invoke (.createResourceFromConfig resourceType id configMap)
                  orNull .resource created
              | none => return .null

def qrmiResourceFree (given : Bool) : CFunction Returned :=
  free given

/-- Call a method of a resource whose handle and out-pointer are checked first. -/
def callMethod (qrmi : Option Nat) (outp : Bool) (noOutp : ReturnCode)
    (method : ResourceMethod)
    (conclude : method.Answer → CFunction Returned) :
    CFunction Returned :=
  match qrmi with
  | none => return .code .nullPointerError
  | some qrmi =>
      if !outp then return .code noOutp
      else do
        let answer ← invoke (.resource qrmi method)
        conclude answer

def qrmiResourceIsAccessible (qrmi : Option Nat) (outp : Bool) : CFunction Returned :=
  callMethod qrmi outp .error .isAccessible (orFail fun value => succeedWith (.bool value))

def qrmiResourceStatus (qrmi : Option Nat) (outp : Bool) : CFunction Returned :=
  callMethod qrmi outp .nullPointerError .status
    (orFail fun value => succeedWith (.status value))

def qrmiResourceId (qrmi : Option Nat) (outp : Bool) : CFunction Returned :=
  callMethod qrmi outp .nullPointerError .resourceId (orFail succeedWithText)

def qrmiResourceType (qrmi : Option Nat) (outp : Bool) : CFunction Returned :=
  callMethod qrmi outp .error .resourceType
    (orFail fun value => succeedWith (.resourceType value))

def qrmiResourceAcquire (qrmi : Option Nat) (acquisitionToken : Bool) :
    CFunction Returned :=
  callMethod qrmi acquisitionToken .nullPointerError .acquire (orFail succeedWithText)

/-- A token that is not UTF-8 falls through to the last line. -/
def qrmiResourceRelease (qrmi : Option Nat) (acquisitionToken : Option CStr) :
    CFunction Returned :=
  match qrmi with
  | none => return .code .nullPointerError
  | some qrmi =>
      match acquisitionToken with
      | none => return .code .error
      | some acquisitionToken =>
          match acquisitionToken.toStr with
          | some token => do
              match ← invoke (.resource qrmi (.release token)) with
              | .ok () => return .code .success
              | .error error => fail error
          | none => return .code .success

/-- `string_or` of the Maestro payloads. -/
def stringOr (pointer : Option CStr) (default : Option Text) : Option Text :=
  match pointer with
  | none => default
  | some string => string.toStr

/-- `maestro::payload_from_c` and the other branches of `qrmi_resource_task_start`. -/
def payloadFromC : CPayload → Option Payload
  | .maestroLocal input jobType qubits simulatorType simulationMethod observables config =>
      match stringOr input none, stringOr jobType none, stringOr observables (some []),
        stringOr config (some ['\x7b', '\x7d']) with
      | some input, some jobType, some observables, some config =>
          some (.maestroLocal input jobType qubits simulatorType simulationMethod
            observables config)
      | _, _, _, _ => none
  | .qiskitPrimitive input programId =>
      match programId.toStr, input.toStr with
      | some programId, some input => some (.qiskitPrimitive input programId)
      | _, _ => none
  | .pasqalCloud sequence jobRuns =>
      match sequence.toStr with
      | some sequence => some (.pasqalCloud sequence jobRuns)
      | none => none
  | .aliceBobFelis humanQir inputParams =>
      match humanQir.toStr, inputParams.toStr with
      | some humanQir, some inputParams => some (.aliceBobFelis humanQir inputParams)
      | _, _ => none
  | .iqmServer iqmjson jobType useTimeslot tag =>
      match iqmjson.toStr, jobType.toStr with
      | some iqmjson, some jobType =>
          -- A tag that is not UTF-8 is dropped like an absent one.
          some (.iqmServer iqmjson jobType (some (useTimeslot = 1))
            (tag.bind CStr.toStr))
      | _, _ => none
  | .oqtopus jobSpec =>
      match jobSpec.toStr with
      | some jobSpec => some (.oqtopus jobSpec)
      | none => none

def qrmiResourceTaskStart (qrmi : Option Nat) (payload : Option CPayload)
    (taskId : Bool) : CFunction Returned :=
  match qrmi with
  | none => return .code .nullPointerError
  | some qrmi =>
      match payload with
      | none => return .code .nullPointerError
      | some payload =>
          if !taskId then return .code .nullPointerError
          else
            match payloadFromC payload with
            | none => fail (.invalidInput "payload strings must be valid UTF-8")
            | some payload => do
                let started ← invoke (.resource qrmi (.taskStart payload))
                orFail succeedWithText started

/-- Call a method that names a task, with the checks of these functions. -/
def callTaskMethod (qrmi : Option Nat) (taskId : Option CStr) (outp : Bool)
    (method : Text → ResourceMethod)
    (conclude : ∀ id, (method id).Answer → CFunction Returned) :
    CFunction Returned :=
  match qrmi with
  | none => return .code .nullPointerError
  | some qrmi =>
      match taskId with
      | none => return .code .error
      | some taskId =>
          if !outp then return .code .error
          else
            match taskId.toStr with
            | some id => do
                let answer ← invoke (.resource qrmi (method id))
                conclude id answer
            | none => return .code .error

def qrmiResourceTaskStop (qrmi : Option Nat) (taskId : Option CStr) :
    CFunction Returned :=
  callTaskMethod qrmi taskId true .taskStop fun _ =>
    orFail fun _ => return .code .success

def qrmiResourceTaskStatus (qrmi : Option Nat) (taskId : Option CStr) (status : Bool) :
    CFunction Returned :=
  callTaskMethod qrmi taskId status .taskStatus fun _ =>
    orFail fun value => succeedWith (.taskStatus value)

def qrmiResourceTaskResult (qrmi : Option Nat) (taskId : Option CStr) (outp : Bool) :
    CFunction Returned :=
  callTaskMethod qrmi taskId outp .taskResult fun _ => orFail succeedWithText

def qrmiResourceTaskLogs (qrmi : Option Nat) (taskId : Option CStr) (outp : Bool) :
    CFunction Returned :=
  callTaskMethod qrmi taskId outp .taskLogs fun _ => orFail succeedWithText

/-- The out-pointer is not checked. -/
def qrmiResourceTarget (qrmi : Option Nat) : CFunction Returned :=
  match qrmi with
  | none => return .code .error
  | some qrmi => do
      let target ← invoke (.resource qrmi .target)
      orFail succeedWithText target

def qrmiResourceMetadata (qrmi : Option Nat) (outp : Bool) : CFunction Returned :=
  callMethod qrmi outp .nullPointerError .metadata fun metadata =>
    succeedWith (.metadata metadata)

/-- Read a member of a status, with the checks of these functions. -/
def readStatus (status : Option CResourceStatus) (outp : Bool)
    (read : CResourceStatus → CFunction Returned) : CFunction Returned :=
  match status with
  | none => return .code .nullPointerError
  | some status => if !outp then return .code .nullPointerError else read status

/-- Hand out a member that a vendor may not report. -/
def reported {α : Type} (output : α → Output) (unreported : String) :
    Option α → CFunction Returned
  | some value => succeedWith (output value)
  | none => fail (.unsupportedFunction unreported)

def qrmiResourceStatusFree (given : Bool) : CFunction Returned :=
  free given

def qrmiResourceStatusCode (status : Option CResourceStatus) (outp : Bool) :
    CFunction Returned :=
  readStatus status outp fun status => succeedWith (.statusCode status.inner.status)

def qrmiResourceStatusCodeToString (code : ResourceStatusCode) : CFunction Returned :=
  match code with
  | .online => return .text (some "online".toList)
  | .offline => return .text (some "offline".toList)
  | .paused => return .text (some "paused".toList)

def qrmiResourceStatusReason (status : Option CResourceStatus) : CFunction Returned :=
  match status with
  | none => return .text none
  | some status =>
      match status.inner.statusReason with
      | some reason =>
          if '\x00' ∈ reason then return .text none else return .text (some reason)
      | none => return .text none

def qrmiResourceStatusHealthy (status : Option CResourceStatus) (outp : Bool) :
    CFunction Returned :=
  readStatus status outp fun status =>
    reported .bool "this vendor does not report health information" status.inner.healthy

def qrmiResourceStatusBusy (status : Option CResourceStatus) (outp : Bool) :
    CFunction Returned :=
  readStatus status outp fun status =>
    reported .bool "this vendor does not report busy information" status.inner.busy

def qrmiResourceStatusPendingJobCount (status : Option CResourceStatus) (outp : Bool) :
    CFunction Returned :=
  readStatus status outp fun status =>
    reported .count "this resource has no queue / does not report pending job count"
      status.inner.pendingJobCount

def qrmiResourceStatusCapacity (status : Option CResourceStatus) (outp : Bool) :
    CFunction Returned :=
  readStatus status outp fun status =>
    reported .capacity "this vendor does not report capacity information"
      status.inner.capacity

def qrmiResourceCapacityFree (given : Bool) : CFunction Returned :=
  free given

def qrmiResourceMetadataFree (given : Bool) : CFunction Returned :=
  free given

def qrmiResourceMetadataValue (metadata : Option (List (Text × Text)))
    (key : Option CStr) : CFunction Returned :=
  match metadata with
  | none => return .text none
  | some metadata =>
      match key with
      | none => return .text none
      | some key =>
          match key.toStr.bind fun key => metadata.lookup key with
          | some value =>
              if '\x00' ∈ value then return .text none else return .text (some value)
          | none => return .text none

def qrmiResourceMetadataKeys (metadata : Option (List (Text × Text))) :
    CFunction Returned :=
  match metadata with
  | none => return .code .nullPointerError
  | some metadata =>
      let keys := metadata.map Prod.fst
      if keys.all fun key => '\x00' ∉ key then do
        Method.modify (CThread.store (.count keys.length))
        succeedWith (.texts keys)
      else abort

def qrmiProviderNew (resourceType : ResourceType)
    (environments : Option EnvironmentVariables) : CFunction Returned :=
  match environments with
  | none => do
      setLastError "environments is NULL"
      return .null
  | some environments =>
      match envvarsToHashmap environments .empty with
      | .error error => do
          setLastError error
          return .null
      | .ok envMap =>
          match resourceType with
          | .qiskitRuntimeService | .ibmQuantumComputeService | .ibmQuantumSystem => do
              let created ← invoke (.createProvider resourceType envMap)
              orNull .provider created
          | _ => do
              recordError (.unsupportedResourceType resourceType.debug)
              return .null

def qrmiProviderFree (given : Bool) : CFunction Returned :=
  free given

/-- The optional filters of a provider function. -/
def withFilters (provider : Option Nat) (filters : Option CStr) (out : Bool)
    (query : Nat → Option Text → CFunction Returned) : CFunction Returned :=
  match provider with
  | none => return .code .nullPointerError
  | some provider =>
      if !out then return .code .nullPointerError
      else
        match filters with
        | none => query provider none
        | some filters =>
            match filters.toStr with
            | some text => query provider (some text)
            | none => do
                setLastError "filters: invalid UTF-8 string"
                return .code .error

def qrmiProviderResources (provider : Option Nat) (filters : Option CStr)
    (resourcesOut : Bool) : CFunction Returned :=
  withFilters provider filters resourcesOut fun provider filters => do
    let found ← invoke (.providerResources provider filters)
    orFail (fun handles => succeedWith (.resources handles)) found

def qrmiProviderResourcesFree (given : Bool) : CFunction Returned :=
  free given

def qrmiProviderLeastBusy (provider : Option Nat) (filters : Option CStr)
    (resourceOut : Bool) : CFunction Returned :=
  withFilters provider filters resourceOut fun provider filters => do
    let found ← invoke (.providerLeastBusy provider filters)
    orFail (fun handle => succeedWith (.resource handle)) found

def qrmiServiceResources (resourcesOut : Bool) : CFunction Returned :=
  if !resourcesOut then return .code .nullPointerError
  else do
    let found ← invoke .serviceResources
    orFail (fun handles => succeedWith (.resources handles)) found

def qrmiServiceResourcesFree (given : Bool) : CFunction Returned :=
  qrmiProviderResourcesFree given

end CFunction

/-- A call of the C interface with its arguments. -/
inductive CCall
  | logCallbackSet (registered : Bool)
  | stringFree (given : Bool)
  | stringArrayFree (given : Bool)
  | configLoad (filename : Option CStr)
  | configFree (given : Bool)
  | configResourceDefGet (config : Option Config) (resourceId : Option CStr)
  | configResourceTypeToStr (resourceType : ResourceType)
  | configResourceTypeFromStr (typeStr : Option CStr) (outp : Bool)
  | configResourceDefFree (given : Bool)
  | configResourceNamesGet (config : Option Config) (names : Bool)
  | getLastError
  | getLastErrorKind
  | resourceNew (resourceId : Option CStr) (resourceType : ResourceType)
  | resourceNewFromConfig (resourceId : Option CStr) (resourceType : ResourceType)
      (config : Option EnvironmentVariables)
  | resourceFree (given : Bool)
  | resourceIsAccessible (qrmi : Option Nat) (outp : Bool)
  | resourceStatus (qrmi : Option Nat) (outp : Bool)
  | resourceId (qrmi : Option Nat) (outp : Bool)
  | resourceType (qrmi : Option Nat) (outp : Bool)
  | resourceAcquire (qrmi : Option Nat) (acquisitionToken : Bool)
  | resourceRelease (qrmi : Option Nat) (acquisitionToken : Option CStr)
  | resourceTaskStart (qrmi : Option Nat) (payload : Option CPayload) (taskId : Bool)
  | resourceTaskStop (qrmi : Option Nat) (taskId : Option CStr)
  | resourceTaskStatus (qrmi : Option Nat) (taskId : Option CStr) (status : Bool)
  | resourceTaskResult (qrmi : Option Nat) (taskId : Option CStr) (outp : Bool)
  | resourceTaskLogs (qrmi : Option Nat) (taskId : Option CStr) (outp : Bool)
  | resourceTarget (qrmi : Option Nat)
  | resourceMetadata (qrmi : Option Nat) (outp : Bool)
  | resourceStatusFree (given : Bool)
  | resourceStatusCode (status : Option CResourceStatus) (outp : Bool)
  | resourceStatusCodeToString (code : ResourceStatusCode)
  | resourceStatusReason (status : Option CResourceStatus)
  | resourceStatusHealthy (status : Option CResourceStatus) (outp : Bool)
  | resourceStatusBusy (status : Option CResourceStatus) (outp : Bool)
  | resourceStatusPendingJobCount (status : Option CResourceStatus) (outp : Bool)
  | resourceStatusCapacity (status : Option CResourceStatus) (outp : Bool)
  | resourceCapacityFree (given : Bool)
  | resourceMetadataFree (given : Bool)
  | resourceMetadataValue (metadata : Option (List (Text × Text))) (key : Option CStr)
  | resourceMetadataKeys (metadata : Option (List (Text × Text)))
  | providerNew (resourceType : ResourceType) (environments : Option EnvironmentVariables)
  | providerFree (given : Bool)
  | providerResources (provider : Option Nat) (filters : Option CStr) (resourcesOut : Bool)
  | providerResourcesFree (given : Bool)
  | providerLeastBusy (provider : Option Nat) (filters : Option CStr) (resourceOut : Bool)
  | serviceResources (resourcesOut : Bool)
  | serviceResourcesFree (given : Bool)

open CFunction in
/-- Perform a call. -/
def CCall.perform : CCall → CFunction Returned
  | logCallbackSet registered => qrmiLogCallbackSet registered
  | stringFree given => qrmiStringFree given
  | stringArrayFree given => qrmiStringArrayFree given
  | configLoad filename => qrmiConfigLoad filename
  | configFree given => qrmiConfigFree given
  | configResourceDefGet config name => qrmiConfigResourceDefGet config name
  | configResourceTypeToStr type => qrmiConfigResourceTypeToStr type
  | configResourceTypeFromStr typeStr outp => qrmiConfigResourceTypeFromStr typeStr outp
  | configResourceDefFree given => qrmiConfigResourceDefFree given
  | configResourceNamesGet config names => qrmiConfigResourceNamesGet config names
  | getLastError => qrmiGetLastError
  | getLastErrorKind => qrmiGetLastErrorKind
  | resourceNew name type => qrmiResourceNew name type
  | resourceNewFromConfig name type config => qrmiResourceNewFromConfig name type config
  | resourceFree given => qrmiResourceFree given
  | resourceIsAccessible qrmi outp => qrmiResourceIsAccessible qrmi outp
  | resourceStatus qrmi outp => qrmiResourceStatus qrmi outp
  | resourceId qrmi outp => qrmiResourceId qrmi outp
  | resourceType qrmi outp => qrmiResourceType qrmi outp
  | resourceAcquire qrmi acquisitionToken => qrmiResourceAcquire qrmi acquisitionToken
  | resourceRelease qrmi acquisitionToken => qrmiResourceRelease qrmi acquisitionToken
  | resourceTaskStart qrmi payload taskId => qrmiResourceTaskStart qrmi payload taskId
  | resourceTaskStop qrmi taskId => qrmiResourceTaskStop qrmi taskId
  | resourceTaskStatus qrmi taskId status => qrmiResourceTaskStatus qrmi taskId status
  | resourceTaskResult qrmi taskId outp => qrmiResourceTaskResult qrmi taskId outp
  | resourceTaskLogs qrmi taskId outp => qrmiResourceTaskLogs qrmi taskId outp
  | resourceTarget qrmi => qrmiResourceTarget qrmi
  | resourceMetadata qrmi outp => qrmiResourceMetadata qrmi outp
  | resourceStatusFree given => qrmiResourceStatusFree given
  | resourceStatusCode status outp => qrmiResourceStatusCode status outp
  | resourceStatusCodeToString code => qrmiResourceStatusCodeToString code
  | resourceStatusReason status => qrmiResourceStatusReason status
  | resourceStatusHealthy status outp => qrmiResourceStatusHealthy status outp
  | resourceStatusBusy status outp => qrmiResourceStatusBusy status outp
  | resourceStatusPendingJobCount status outp =>
      qrmiResourceStatusPendingJobCount status outp
  | resourceStatusCapacity status outp => qrmiResourceStatusCapacity status outp
  | resourceCapacityFree given => qrmiResourceCapacityFree given
  | resourceMetadataFree given => qrmiResourceMetadataFree given
  | resourceMetadataValue metadata key => qrmiResourceMetadataValue metadata key
  | resourceMetadataKeys metadata => qrmiResourceMetadataKeys metadata
  | providerNew type environments => qrmiProviderNew type environments
  | providerFree given => qrmiProviderFree given
  | providerResources provider filters resourcesOut =>
      qrmiProviderResources provider filters resourcesOut
  | providerResourcesFree given => qrmiProviderResourcesFree given
  | providerLeastBusy provider filters resourceOut =>
      qrmiProviderLeastBusy provider filters resourceOut
  | serviceResources resourcesOut => qrmiServiceResources resourcesOut
  | serviceResourcesFree given => qrmiServiceResourcesFree given
