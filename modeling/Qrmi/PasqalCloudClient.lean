import Qrmi.PasqalCloudAuth

/-!
# Endpoints of the Pasqal Cloud client

Every endpoint builds an address, sends one request and reads the reply.  Public
endpoints are asked without the authorization header.
-/

open Interaction

namespace PasqalCloud

inductive DeviceType
  | fresnel
  | fresnelCan1
  | emuMps
  | emuFree
  | emuFresnel
  deriving DecidableEq

def DeviceType.display : DeviceType → String
  | fresnel => "FRESNEL"
  | fresnelCan1 => "FRESNEL_CAN1"
  | emuMps => "EMU_MPS"
  | emuFree => "EMU_FREE"
  | emuFresnel => "EMU_FRESNEL"

def DeviceType.debug : DeviceType → String
  | fresnel => "Fresnel"
  | fresnelCan1 => "FresnelCan1"
  | emuMps => "EmuMps"
  | emuFree => "EmuFree"
  | emuFresnel => "EmuFresnel"

inductive JobStatus
  | pending
  | running
  | canceling
  | done
  | canceled
  | error
  deriving DecidableEq

structure Response (α : Type) where
  data : α

structure GetDeviceResponseData where
  status : Text
  availability : Text

structure GetDeviceSpecsResponseData where
  deviceType : Text
  specs : Text

def GetDeviceSpecsResponseData.toJson (data : GetDeviceSpecsResponseData) : Json :=
  .object [("device_type".toList, .string data.deviceType),
    ("specs".toList, .string data.specs)]

structure CreateBatchResponseData where
  id : Text

structure CreateCudaqJobResponseData where
  id : Text

structure GetBatchResponseData where
  status : JobStatus
  jobIds : List Text

structure GetCudaqJobResponseData where
  status : Text
  result : Json

structure GetJobResponseData where
  status : JobStatus

structure CancelBatchResponseData where

/-- The counter is a hash map from bit strings to counts. -/
structure JobResult where
  counter : List (Text × Nat)

def JobResult.toJson (result : JobResult) : Json :=
  .object [("counter".toList,
    .object (result.counter.map fun entry => (entry.1, .number (.unsigned entry.2))))]

/-- An `i32` as a JSON number. -/
def integer : Int → Json
  | .ofNat value => .number (.unsigned value)
  | .negSucc value => .number (.negative (value + 1))

structure Batch where
  sequenceBuilder : Text
  jobs : List Int
  deviceType : Text
  projectId : Text

def Batch.toJson (batch : Batch) : Json :=
  .object [("sequence_builder".toList, .string batch.sequenceBuilder),
    ("jobs".toList, .array (batch.jobs.map fun runs => .object [("runs".toList, integer runs)])),
    ("device_type".toList, .string batch.deviceType),
    ("project_id".toList, .string batch.projectId)]

/-- The deserialisers of the replies, and the serialiser. -/
structure CloudLibrary (HeaderValue : Type) extends AuthLibrary HeaderValue where
  readDevices : Text → Except String (Response (List GetDeviceResponseData))
  readPublicSpecs : Text → Except String (Response (List GetDeviceSpecsResponseData))
  readSpecs : Text → Except String (Response GetDeviceSpecsResponseData)
  readCreatedBatch : Text → Except String (Response CreateBatchResponseData)
  readCreatedCudaqJob : Text → Except String (Response CreateCudaqJobResponseData)
  readCanceledBatch : Text → Except String (Response CancelBatchResponseData)
  readBatch : Text → Except String (Response GetBatchResponseData)
  readCudaqJob : Text → Except String (Response GetCudaqJobResponseData)
  readJob : Text → Except String (Response GetJobResponseData)
  readResults : Text → Except String (Response (List (Text × JobResult)))
  dump : Json → Text

namespace Client

open Method

/-- `handle_request`. -/
def handleRequest {α : Type} (parse : Text → Except String α)
    (response : HttpResponse) : Except CloudError α :=
  if response.status.isSuccess then (response.text.bind parse).mapError .message
  else
    match response.text with
    | .ok body => .error (.message
        s!"Status: {response.status.display}, Fail {String.ofList body}")
    | .error text => .error (.message text)

section Requests

variable {HeaderValue α : Type} (library : AuthLibrary HeaderValue)
variable (parse : Text → Except String α)

def send (request : CloudRequest HeaderValue) : CloudMethod HeaderValue α := do
  let reply ← lift (Program.question (CloudAction.send request))
  ofExcept ((reply.mapError .message).bind (handleRequest parse))

def get (url : Text) : CloudMethod HeaderValue α := do
  let request ← authenticated library (.new .get url)
  send parse request

def getUnauthenticated (url : Text) : CloudMethod HeaderValue α :=
  send parse (.new .get url)

def patch (url : Text) : CloudMethod HeaderValue α := do
  let request ← authenticated library (.new .patch url)
  send parse request

def post (url : Text) (body : Json) : CloudMethod HeaderValue α := do
  let request ← authenticated library (.new .post url)
  send parse { request with body := some body }

end Requests

section Endpoints

variable {HeaderValue : Type} (library : CloudLibrary HeaderValue)

/-- The address of a resource of the service. -/
def url (client : Client HeaderValue) (path : String) (id : Text) : Text :=
  client.baseUrl ++ "/core-fast/api/".toList ++ path.toList ++ id

def getDevice (deviceType : DeviceType) : CloudMethod HeaderValue GetDeviceResponseData := do
  let client ← self
  let resp ← getUnauthenticated library.readDevices
    (client.url "v1/devices?device_type=" deviceType.display.toList)
  match resp.data with
  | device :: _ => return device
  | [] => throw (.message s!"No devices found for type {deviceType.debug}")

def createBatch (sequence : Text) (jobRuns : Int) (deviceType : DeviceType) :
    CloudMethod HeaderValue (Response CreateBatchResponseData) := do
  let client ← self
  let batch : Batch :=
    { sequenceBuilder := sequence
      jobs := [jobRuns]
      deviceType := deviceType.display.toList
      projectId := client.projectId }
  post library.toAuthLibrary library.readCreatedBatch (client.url "v1/batches" [])
    batch.toJson

def createCudaqJob (sequence : Json) (shots : Int) (deviceType : DeviceType) :
    CloudMethod HeaderValue (Response CreateCudaqJobResponseData) := do
  let client ← self
  let payload := Json.object [("machine".toList, .string deviceType.display.toList),
    ("project_id".toList, .string client.projectId), ("sequence".toList, sequence),
    ("shots".toList, integer shots)]
  post library.toAuthLibrary library.readCreatedCudaqJob (client.url "v1/cudaq/job" [])
    payload

def cancelBatch (batchId : Text) :
    CloudMethod HeaderValue (Response CancelBatchResponseData) := do
  let client ← self
  patch library.toAuthLibrary library.readCanceledBatch
    (client.url "v2/batches/" (batchId ++ "/cancel".toList))

def getBatch (batchId : Text) : CloudMethod HeaderValue (Response GetBatchResponseData) := do
  let client ← self
  get library.toAuthLibrary library.readBatch (client.url "v2/batches/" batchId)

def getCudaqJob (jobId : Text) :
    CloudMethod HeaderValue (Response GetCudaqJobResponseData) := do
  let client ← self
  get library.toAuthLibrary library.readCudaqJob (client.url "v1/cudaq/job/" jobId)

def getJob (jobId : Text) : CloudMethod HeaderValue (Response GetJobResponseData) := do
  let client ← self
  get library.toAuthLibrary library.readJob (client.url "v2/jobs/" jobId)

/-- The results of a batch of exactly one job. -/
def singleResult : List (Text × JobResult) → Except CloudError Text
  | [] => .error (.message "No results found")
  | [entry] => .ok (library.dump entry.2.toJson)
  | _ => .error (.message "Unexpected multiple jobs in one Pasqal cloud batch")

def getBatchResults (batchId : Text) : CloudMethod HeaderValue Text := do
  let client ← self
  let resp ← get library.toAuthLibrary library.readResults
    (client.url "v1/batches/" (batchId ++ "/full_results".toList))
  ofExcept (singleResult library resp.data)

/-- The specifications of emulators are public. -/
def getDeviceSpecs (deviceType : DeviceType) : CloudMethod HeaderValue Text := do
  let client ← self
  if "EMU".toList.isPrefixOf deviceType.display.toList then
    let rawResponse ← getUnauthenticated library.readPublicSpecs
      (client.url "v1/devices/public-specs" [])
    return library.dump (.array (rawResponse.data.map (·.toJson)))
  else
    let rawResponse ← get library.toAuthLibrary library.readSpecs
      (client.url "v1/devices/specs/" deviceType.display.toList)
    return library.dump (.array [rawResponse.data.toJson])

end Endpoints

end Client

structure ClientBuilder where
  baseUrl : Text
  token : Text
  projectId : Text
  authEndpoint : Text
  username : Option Text
  password : Option Text
  clientId : Option Text
  clientSecret : Option Text

namespace ClientBuilder

def new (projectId : Text) : ClientBuilder where
  baseUrl := "https://apis.pasqal.cloud".toList
  token := []
  projectId := projectId
  authEndpoint := []
  username := none
  password := none
  clientId := none
  clientSecret := none

def withBaseUrl (builder : ClientBuilder) (baseUrl : Text) : ClientBuilder :=
  { builder with baseUrl := baseUrl }

def withAuthEndpoint (builder : ClientBuilder) (authEndpoint : Text) : ClientBuilder :=
  { builder with authEndpoint := authEndpoint }

def withToken (builder : ClientBuilder) (token : Text) : ClientBuilder :=
  { builder with token := token }

def withCredentials (builder : ClientBuilder) (username password : Text) :
    ClientBuilder :=
  { builder with username := some username, password := some password }

def withServiceAccountCredentials (builder : ClientBuilder)
    (clientId clientSecret : Text) : ClientBuilder :=
  { builder with clientId := some clientId, clientSecret := some clientSecret }

/-- `build`, given what becomes of the HTTP client underneath. -/
def build {HeaderValue : Type} (library : AuthLibrary HeaderValue)
    (httpClient : Except String Unit) (builder : ClientBuilder) :
    Except CloudError (Client HeaderValue) := do
  httpClient.mapError .message
  let authHeader ← makeAuthHeader library builder.token
  return {
    baseUrl := builder.baseUrl
    projectId := builder.projectId
    authToken := builder.token
    authHeader := authHeader
    authEndpoint := builder.authEndpoint
    username := builder.username
    password := builder.password
    clientId := builder.clientId
    clientSecret := builder.clientSecret }

end ClientBuilder

/-- A request of the client's interface. -/
inductive Endpoint
  | getDevice (deviceType : DeviceType)
  | createBatch (sequence : Text) (jobRuns : Int) (deviceType : DeviceType)
  | createCudaqJob (sequence : Json) (shots : Int) (deviceType : DeviceType)
  | cancelBatch (batchId : Text)
  | getBatch (batchId : Text)
  | getCudaqJob (jobId : Text)
  | getJob (jobId : Text)
  | getBatchResults (batchId : Text)
  | getDeviceSpecs (deviceType : DeviceType)

namespace Endpoint

abbrev Result : Endpoint → Type
  | getDevice _ => GetDeviceResponseData
  | createBatch .. => Response CreateBatchResponseData
  | createCudaqJob .. => Response CreateCudaqJobResponseData
  | cancelBatch _ => Response CancelBatchResponseData
  | getBatch _ => Response GetBatchResponseData
  | getCudaqJob _ => Response GetCudaqJobResponseData
  | getJob _ => Response GetJobResponseData
  | getBatchResults _ => Text
  | getDeviceSpecs _ => Text

def call {HeaderValue : Type} (library : CloudLibrary HeaderValue) :
    (endpoint : Endpoint) → CloudMethod HeaderValue endpoint.Result
  | getDevice deviceType => Client.getDevice library deviceType
  | createBatch sequence jobRuns deviceType =>
      Client.createBatch library sequence jobRuns deviceType
  | createCudaqJob sequence shots deviceType =>
      Client.createCudaqJob library sequence shots deviceType
  | cancelBatch batchId => Client.cancelBatch library batchId
  | getBatch batchId => Client.getBatch library batchId
  | getCudaqJob jobId => Client.getCudaqJob library jobId
  | getJob jobId => Client.getJob library jobId
  | getBatchResults batchId => Client.getBatchResults library batchId
  | getDeviceSpecs deviceType => Client.getDeviceSpecs library deviceType

end Endpoint

/-- One call of the client: what was exchanged, and what was returned. -/
structure Call (HeaderValue : Type) where
  endpoint : Endpoint
  events : List (CloudEvent HeaderValue)
  outcome : Except CloudError endpoint.Result

/-- A call takes the client from one state to the next. -/
def Call.Steps {HeaderValue : Type} (library : CloudLibrary HeaderValue)
    (before : Client HeaderValue) (call : Call HeaderValue)
    (after : Client HeaderValue) : Prop :=
  (call.endpoint.call library).Executes before call.events call.outcome after

end PasqalCloud
