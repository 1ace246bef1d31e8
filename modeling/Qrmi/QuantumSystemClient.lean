import Qrmi.QuantumSystemMiddleware

/-!
# The client of the quantum system

`run_primitive` uploads the input of a job, presigns the addresses of its files,
and submits it under an identifier of its own.  Whatever goes wrong becomes a
`QuantumSystemError`.
-/

open Interaction

/-- Errors of the client.  The error below `Other` is part of its message. -/
inductive QuantumSystemError
  | request (message : String)
  | authenticationFailed (message : String)
  | accessDenied (message : String)
  | backendNotFound (message : String)
  | jobNotFound (message : String)
  | requestTimeout (message : String)
  | invalidJobInput (message : String)
  | executionLanesFull (message : String)
  | serverError (message : String)
  | api (status : HttpStatus) (body : String)
  | jobNotReady (message : String)
  | reqwest (message : String)
  | json (message : String)
  | io (message : String)
  | other (message : String)

namespace QuantumSystem

/-- The kind of resource that a request was about. -/
inductive ResourceKind
  | backend
  | job
  | other

/-- `explain_reqwest_middleware_error`.  The transport reports its errors with
their causes, and an error of the middleware has none. -/
def explainReqwestMiddlewareError : MiddlewareError → String
  | .middleware message => s!"Middleware error: {message}"
  | .reqwest message => message

end QuantumSystem

namespace QuantumSystemError

open QuantumSystem

def display : QuantumSystemError → String
  | request message => s!"request failed: {message}"
  | authenticationFailed message => s!"authentication failed: {message}"
  | accessDenied message => s!"access denied: {message}"
  | backendNotFound message => s!"backend not found: {message}"
  | jobNotFound message => s!"job not found: {message}"
  | requestTimeout message => s!"request timeout: {message}"
  | invalidJobInput message => s!"invalid job input: {message}"
  | executionLanesFull message => s!"execution lanes full: {message}"
  | serverError message => s!"server error: {message}"
  | api status body => s!"API error ({status.display}): {body}"
  | jobNotReady message | reqwest message | json message | io message
  | other message => message

/-- `From<QuantumSystemError>` for the error of the resource interface. -/
def toQrmiError : QuantumSystemError → QrmiError
  | backendNotFound message => .resourceNotFound message
  | jobNotFound message => .taskNotFound message
  | authenticationFailed message => .authenticationFailed message
  | invalidJobInput message => .invalidInput message
  | error => .other error.display

/-- `from_middleware_error`. -/
def fromMiddlewareError (error : MiddlewareError) : QuantumSystemError :=
  let message := explainReqwestMiddlewareError error
  match error with
  | .middleware _ => authenticationFailed message
  | .reqwest _ => request message

/-- `extract_body`. -/
def extractBody (codec : Codec) (response : HttpResponse) (url : Text) : String :=
  match readBody codec.readError response with
  | .ok body => body
  | .error _ => s!"(no error body available; request URL: {String.ofList url})"

/-- `from_response`. -/
def fromResponse (codec : Codec) (response : HttpResponse) (url : Text)
    (resourceKind : QuantumSystem.ResourceKind) : QuantumSystemError :=
  let body := extractBody codec response url
  let status := response.status
  if status.code = 401 then authenticationFailed body
  else if status.code = 403 then accessDenied body
  else if status.code = 404 then
    match resourceKind with
    | .backend => backendNotFound body
    | .job => jobNotFound body
    | .other => api status body
  else if status.code = 408 then requestTimeout body
  else if status.code ∈ [400, 409, 413, 422] then invalidJobInput body
  else if status.code = 429 then executionLanesFull body
  else if status.isServerError then serverError body
  else api status body

end QuantumSystemError

namespace QuantumSystem

inductive ProgramId
  | estimator
  | sampler
  | executor

/-- `ProgramId::from_str`. -/
def ProgramId.fromStr (text : Text) : Option ProgramId :=
  if text = "estimator".toList then some estimator
  else if text = "sampler".toList then some sampler
  else if text = "executor".toList then some executor
  else none

def ProgramId.display : ProgramId → String
  | estimator => "estimator"
  | sampler => "sampler"
  | executor => "executor"

inductive LogLevel
  | critical
  | error
  | warning
  | info
  | debug

def LogLevel.display : LogLevel → String
  | critical => "critical"
  | error => "error"
  | warning => "warning"
  | info => "info"
  | debug => "debug"

/-- `Client`.  `iqpRetryPolicy` is the compile-time feature of that name. -/
structure Client where
  baseUrl : Text
  serviceCrn : Text
  tokenManager : TokenManager
  retryPolicy : Option RetryPolicy
  iqpRetryPolicy : Bool
  s3Config : Option S3Config
  s3Bucket : Option Text
  s3ConfigForQsapi : Option S3Config

/-- A method of the client. -/
abbrev ClientMethod (α : Type) : Type :=
  Method SystemAction SystemAction.Answer Client QuantumSystemError α

namespace Client

open Method

variable (codec : Codec) (fuel : Nat)

/-- The layers below `AuthMiddleware`.  Rate limits are waited out without a
bound by the innermost one. -/
def sendThroughRetries (client : Client) (request : HttpRequest) : SystemProgram Outcome :=
  let transmitted := transmit (.send request) id
  match client.retryPolicy with
  | none => transmitted
  | some policy =>
      if client.iqpRetryPolicy then
        TransparentRetryMiddleware.handle policy
          (RetryStrategyExcept429 codec.defaultRetryableStrategy)
          (TransparentRetryMiddleware.handle ⟨none⟩ RetryStrategy429 transmitted fuel)
          fuel
      else
        TransparentRetryMiddleware.handle policy codec.defaultRetryableStrategy
          transmitted fuel

def withTokenManager (client : Client) (manager : TokenManager) : Client :=
  { client with tokenManager := manager }

/-- Send a request through all layers. -/
def send (request : HttpRequest) : ClientMethod Outcome := do
  let client ← self
  (zoom tokenManager withTokenManager
    (AuthMiddleware.handle codec fuel (client.sendThroughRetries codec fuel) request)).attempt

def jobsUrl (client : Client) : Text :=
  client.baseUrl ++ "/v1/jobs".toList

def runJobRequest (client : Client) (payload : Json) : HttpRequest where
  method := .post
  url := client.jobsUrl
  query := []
  headers := [("Accept", "application/json".toList),
    ("Service-CRN", client.serviceCrn), ("Content-Type", "application/json".toList)]
  authorization := .absent
  body := some payload

/-- `run_job`. -/
def runJob (payload : Json) : ClientMethod Text := do
  let client ← self
  let outcome ← send codec fuel (client.runJobRequest payload)
  match outcome with
  | .ok response =>
      if response.status.code = 204 then
        match (payload.get "id").asString with
        | some id => return id
        | none => panicking
      else throw (.fromResponse codec response client.jobsUrl .job)
  | .error error => throw (.fromMiddlewareError error)

/-- `QuantumSystemError::other`. -/
def otherError (context : String) (source : String) : QuantumSystemError :=
  .other s!"{context}: {source}"

def presignError (service : String) : PresignError → QuantumSystemError
  | .duration message => otherError "invalid presigning duration" message
  | .service message => otherError service message

/-- `get_presigned_url` and `get_presigned_url_for_put`. -/
def presignedUrl (config : S3Config) (bucket key : Text) (operation : S3Operation)
    (expiration : Nat) : ClientMethod Text := do
  let presigned ← lift (Program.question
    (SystemAction.presign config bucket key operation expiration))
  match operation with
  | .getObject =>
      ofExcept (presigned.mapError (presignError "failed to presign GET request"))
  | .putObject =>
      ofExcept (presigned.mapError (presignError "failed to presign PUT request"))

/-- The identifier of a job, drawn at random unless the caller gave one. -/
def chooseId (jobId : Option Text) : ClientMethod Text :=
  match jobId with
  | some id => pure id
  | none => lift (Program.question SystemAction.newUuid)

/-- The entry of one file in the description of a job. -/
def storageEntry (name : String) (url : Text) : Text × Json :=
  (name.toList, .object
    [("presigned_url".toList, .string url), Json.stringMember "type" "s3_compatible"])

/-- What `run_primitive` does before it submits the job: upload the input, presign
the addresses, and describe the job. -/
def describeJob (backend : Text) (programId : ProgramId) (timeoutSecs : Nat)
    (logLevel : LogLevel) (payload : Json) (jobId : Option Text) :
    ClientMethod Json := do
  let client ← self
  match client.s3Config, client.s3Bucket with
  | none, _ => throw (.other
      ("S3 bucket is not configured. " ++
        "Use ClientBuilder.with_s3_bucket() to use this function."))
  | some _, none => panicking
  | some s3Config, some s3Bucket =>
      let s3ConfigRemote := client.s3ConfigForQsapi.getD s3Config
      let id ← chooseId jobId
      let jobParamKey := "input_".toList ++ id ++ ".json".toList
      let uploaded ← lift (Program.question
        (SystemAction.putObject s3Config s3Bucket jobParamKey
          (codec.json.dump payload)))
      ofExcept (uploaded.mapError (otherError "failed to upload to S3"))
      let inputUrl ←
        presignedUrl s3ConfigRemote s3Bucket jobParamKey .getObject timeoutSecs
      let resultsUrl ← presignedUrl s3ConfigRemote s3Bucket
        ("results_".toList ++ id ++ ".json".toList) .putObject timeoutSecs
      let logsUrl ← presignedUrl s3ConfigRemote s3Bucket
        ("logs_".toList ++ id ++ ".json".toList) .putObject timeoutSecs
      return .object
        [("id".toList, .string id), ("backend".toList, .string backend),
          Json.stringMember "program_id" programId.display,
          Json.stringMember "log_level" logLevel.display,
          Json.unsignedMember "timeout_secs" timeoutSecs,
          ("storage".toList, .object
            [storageEntry "input" inputUrl, storageEntry "results" resultsUrl,
              storageEntry "logs" logsUrl])]

/-- `run_primitive`, down to the identifier of the job. -/
def runPrimitive (backend : Text) (programId : ProgramId) (timeoutSecs : Nat)
    (logLevel : LogLevel) (payload : Json) (jobId : Option Text) :
    ClientMethod Text := do
  let jobParam ←
    describeJob codec backend programId timeoutSecs logLevel payload jobId
  runJob codec fuel jobParam

end Client

end QuantumSystem
