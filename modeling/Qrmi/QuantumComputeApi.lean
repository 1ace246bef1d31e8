import Qrmi.RestClient

/-!
# The generated client of the quantum compute service

One function per endpoint that the resource uses.  Every request carries the
bearer token that the configuration holds at that moment.  The response models
are generated code whose deserialisers stay parameters; they keep the fields
that the resource reads.
-/

namespace QuantumCompute

/-- The configuration fields that build a request. -/
structure Configuration where
  basePath : Text
  userAgent : Option Text
  bearerAccessToken : Option Text
  crn : Option Text

/-- `Configuration::new`. -/
def Configuration.new : Configuration where
  basePath := "/api".toList
  userAgent := some "SLURM-QRMI-QRS".toList
  bearerAccessToken := none
  crn := some "crn:v1".toList

/-- `job_response::Status`. -/
inductive JobStatus
  | queued
  | running
  | completed
  | cancelled
  | cancelledRanTooLong
  | failed
  deriving DecidableEq

def JobStatus.debug : JobStatus → String
  | queued => "Queued"
  | running => "Running"
  | completed => "Completed"
  | cancelled => "Cancelled"
  | cancelledRanTooLong => "CancelledRanTooLong"
  | failed => "Failed"

structure JobResponse where
  status : JobStatus
  sessionId : Option Text

structure JobsResponse where
  jobs : Option (List JobResponse)

inductive SessionState
  | open
  | active
  | inactive
  | closed
  deriving DecidableEq

inductive SessionMode
  | batch
  | dedicated
  deriving DecidableEq

structure SessionResponse where
  id : Text
  mode : SessionMode
  state : Option SessionState
  maxTtl : Option Int
  activeTtl : Option Int

structure BackendStatusResponse where
  status : Option Text

inductive DeviceStatusName
  | online
  | paused
  | offline
  deriving DecidableEq

structure Device where
  name : Text
  status : DeviceStatusName
  reason : Option Text
  isSimulator : Option Bool
  queueLength : Int

structure BackendsResponse where
  devices : Option (List Device)

structure TokenResponse where
  accessToken : Text
  expiration : Nat
  expiresIn : Nat

/-- The deserialisers of the response models, the JSON library, and the Unicode
lowercasing of the standard library. -/
structure Codec where
  readJob : Text → Except String JobResponse
  readJobs : Text → Except String JobsResponse
  readCreatedJob : Text → Except String Text
  readSession : Text → Except String SessionResponse
  readBackendStatus : Text → Except String BackendStatusResponse
  readBackends : Text → Except String BackendsResponse
  readProperties : Text → Except String Json
  readString : Text → Except String Text
  readToken : Text → Except String TokenResponse
  samplerInput : Json → Except String Json
  estimatorInput : Json → Except String Json
  noiseLearnerInput : Json → Except String Json
  json : JsonLibrary
  toLowercase : Text → Text

namespace Configuration

/-- The request that the client functions build: the path below the base, the
query, and the headers in no particular order. -/
def request (config : Configuration) (method : HttpMethod) (path : Text)
    (query : List (String × Option Text)) (apiVersion : Option String)
    (body : Option Json) : HttpRequest where
  method := method
  url := config.basePath ++ path
  query := query.filterMap fun entry => entry.2.map fun value => (entry.1, value)
  headers :=
    [("Accept", "application/json".toList)] ++
      (config.userAgent.map fun agent => ("User-Agent", agent)).toList ++
      (apiVersion.map fun version => ("IBM-API-Version", version.toList)).toList ++
      (config.crn.map fun crn => ("Service-CRN", crn)).toList
  authorization := match config.bearerAccessToken with
    | some token => .bearer token
    | none => .absent
  body := body

@[simp]
theorem request_authorization {config : Configuration} {method : HttpMethod}
    {path : Text} {query : List (String × Option Text)}
    {apiVersion : Option String} {body : Option Json} :
    (config.request method path query apiVersion body).authorization =
      match config.bearerAccessToken with
      | some token => .bearer token
      | none => .absent :=
  rfl

end Configuration

def jobPath (id : Text) : Text :=
  "/jobs/".toList ++ Text.urlencode id

/-- The query parameters of `list_jobs` that the resource passes. -/
structure ListJobs where
  limit : Option Int
  offset : Option Int
  pending : Option Bool
  backend : Option Text
  sort : Option Text
  sessionId : Option Text
  excludeParams : Option Bool

def showBool (value : Bool) : Text :=
  (toString value).toList

section Endpoints

variable (codec : Codec) (config : Configuration)

def listJobs (apiVersion : Option String) (query : ListJobs) :
    WebProgram (Except ApiError JobsResponse) :=
  fetch
    (config.request .get "/jobs".toList
      [("limit", query.limit.map Text.showInt),
        ("offset", query.offset.map Text.showInt),
        ("pending", query.pending.map showBool), ("backend", query.backend),
        ("sort", query.sort), ("session_id", query.sessionId),
        ("exclude_params", query.excludeParams.map showBool)]
      apiVersion none)
    (HttpReply.readJson "application/json" "models::JobsResponse" codec.readJobs)

def createJob (request : Json) : WebProgram (Except ApiError Text) :=
  fetch (config.request .post "/jobs".toList [] none (some request))
    (HttpReply.readJson "application/json" "models::CreateJob200Response"
      codec.readCreatedJob)

def getJob (id : Text) : WebProgram (Except ApiError JobResponse) :=
  fetch (config.request .get (jobPath id) [] none none)
    (HttpReply.readJson "application/json" "models::JobResponse" codec.readJob)

def cancelJobJid (id : Text) : WebProgram (Except ApiError Unit) :=
  let request :=
    config.request .post (jobPath id ++ "/cancel".toList) [] none none
  fetch
    { request with
      headers := request.headers ++ [("Content-Length", "0".toList)] }
    HttpReply.readUnit

def getJobResultsJid (id : Text) : WebProgram (Except ApiError Text) :=
  fetch (config.request .get (jobPath id ++ "/results".toList) [] none none)
    (HttpReply.readText "application/json" codec.readString)

def getJobLogsJid (id : Text) : WebProgram (Except ApiError Text) :=
  fetch (config.request .get (jobPath id ++ "/logs".toList) [] none none)
    (HttpReply.readText "application/json" codec.readString)

def sessionPath (id : Text) : Text :=
  "/sessions/".toList ++ Text.urlencode id

def createSession (request : Json) :
    WebProgram (Except ApiError SessionResponse) :=
  fetch (config.request .post "/sessions".toList [] none (some request))
    (HttpReply.readJson "application/json" "models::CreateSession200Response"
      codec.readSession)

def getSession (apiVersion : Option String) (id : Text) :
    WebProgram (Except ApiError SessionResponse) :=
  fetch (config.request .get (sessionPath id) [] apiVersion none)
    (HttpReply.readJson "application/json" "models::CreateSession200Response"
      codec.readSession)

def deleteSessionClose (id : Text) : WebProgram (Except ApiError Unit) :=
  fetch
    (config.request .delete (sessionPath id ++ "/close".toList) [] none none)
    HttpReply.readUnit

/-- `update_session` with `accepting_jobs`. -/
def updateSession (id : Text) (acceptingJobs : Bool) :
    WebProgram (Except ApiError Unit) :=
  fetch
    (config.request .patch (sessionPath id) [] none
      (some (.object [("accepting_jobs".toList, .bool acceptingJobs)])))
    HttpReply.readUnit

def backendPath (id : Text) : Text :=
  "/backends/".toList ++ Text.urlencode id

def listBackendsRequest (apiVersion : Option String) : HttpRequest :=
  config.request .get "/backends".toList [] apiVersion none

def readBackendsReply : HttpReply → Except ApiError BackendsResponse :=
  HttpReply.readJson "application/json" "models::BackendsResponseV2"
    codec.readBackends

def getBackendStatus (id : Text) :
    WebProgram (Except ApiError BackendStatusResponse) :=
  fetch (config.request .get (backendPath id ++ "/status".toList) [] none none)
    (HttpReply.readJson "application/json" "models::BackendStatusResponse"
      codec.readBackendStatus)

def propertiesType : String :=
  "std::collections::HashMap<String, serde_json::Value>"

def getBackendConfiguration (apiVersion : Option String) (id : Text) :
    WebProgram (Except ApiError Json) :=
  fetch
    (config.request .get (backendPath id ++ "/configuration".toList) [] apiVersion
      none)
    (HttpReply.readJson "application/json" propertiesType codec.readProperties)

def getBackendProperties (id : Text) (calibrationId : Option Text) :
    WebProgram (Except ApiError Json) :=
  fetch
    (config.request .get (backendPath id ++ "/properties".toList)
      [("calibration_id", calibrationId)] none none)
    (HttpReply.readJson "application/json" propertiesType codec.readProperties)

end Endpoints

/-- The reply of the identity service: `error_for_status` and then the token
fields of the JSON body, whatever its content type.  Its errors are only
logged. -/
def readTokenReply (codec : Codec) (reply : HttpReply) : Option TokenResponse :=
  match reply with
  | .error _ => none
  | .ok response =>
      if response.status.isError then none
      else
        match response.text with
        | .error _ => none
        | .ok content => (codec.readToken content).toOption

/-- The address and the form of `fetch_access_token`. -/
def tokenUrl (iamEndpoint : Text) : Text :=
  iamEndpoint ++ "/identity/token".toList

def tokenForm (apiKey : Text) : List (String × Text) :=
  [("grant_type", "urn:ibm:params:oauth:grant-type:apikey".toList),
    ("apikey", apiKey)]

end QuantumCompute
