import Qrmi.InteractionRetry
import Qrmi.RestClient

/-!
# The middleware of the quantum system client

A request of the client passes two layers.  `AuthMiddleware` adds a bearer token
and sends the request once more with a new token if the first one was rejected.
Below it, `TransparentRetryMiddleware` repeats a request whose outcome looks
transient and hands back the last outcome as it is.  Where the source panics,
the model is cut off.
-/

open Interaction

namespace QuantumSystem

/-- The connection details of an S3 client. -/
structure S3Config where
  endpoint : Text
  region : Text
  accessKeyId : Text
  secretAccessKey : Text

inductive S3Operation
  | getObject
  | putObject

/-- Why an address could not be presigned. -/
inductive PresignError
  | duration (message : String)
  | service (message : String)

/-- What the client does to its environment.  `overtake` asks the scheduler for the
order of events. -/
inductive SystemAction
  | instant
  | newUuid
  | putObject (config : S3Config) (bucket key body : Text)
  | presign (config : S3Config) (bucket key : Text) (operation : S3Operation)
      (expiration : Nat)
  | postForm (url : Text) (form : List (String × Text))
  | send (request : HttpRequest)
  | overtake

namespace SystemAction

/-- Instants are nanoseconds. -/
abbrev Answer : SystemAction → Type
  | instant => Nat
  | newUuid => Text
  | putObject .. => Except String Unit
  | presign .. => Except PresignError Text
  | postForm .. => HttpReply
  | send _ => HttpReply
  | overtake => Bool

end SystemAction

abbrev SystemEvent : Type :=
  Event SystemAction.Answer

abbrev SystemProgram (α : Type) : Type :=
  Program SystemAction SystemAction.Answer α

/-- `reqwest_middleware::Error`. -/
inductive MiddlewareError
  | middleware (message : String)
  | reqwest (message : String)

/-- What a layer of middleware returns. -/
abbrev Outcome : Type :=
  Except MiddlewareError HttpResponse

/-- Send a request once. -/
def transmit (action : SystemAction) (asReply : action.Answer → HttpReply) :
    SystemProgram Outcome := do
  let answer ← Program.question action
  return (asReply answer).mapError .reqwest

/-- The statuses that ask the client to wait for a lane. -/
def isRateLimit (response : HttpResponse) : Bool :=
  response.status.code = 429 || response.status.code = 423

/-- `RetryStrategyExcept429`, over the strategy that it asks for all other outcomes. -/
def RetryStrategyExcept429 (defaultRetryableStrategy : Outcome → Bool) (outcome : Outcome) :
    Bool :=
  match outcome with
  | .ok response =>
      if isRateLimit response then false else defaultRetryableStrategy outcome
  | .error _ => defaultRetryableStrategy outcome

def RetryStrategy429 : Outcome → Bool
  | .ok response => isRateLimit response
  | .error _ => false

/-- `ExponentialBackoff`, without the lengths of its pauses. -/
structure RetryPolicy where
  maxNRetries : Option Nat

/-- `should_retry`. -/
def RetryPolicy.shouldRetry (policy : RetryPolicy) (nPastRetries : Nat) : Bool :=
  match policy.maxNRetries with
  | some max => nPastRetries < max
  | none => true

theorem RetryPolicy.shouldRetry_of_late {policy : RetryPolicy} {retries nPastRetries : Nat}
    (limited : policy.maxNRetries = some retries) (late : retries ≤ nPastRetries) :
    policy.shouldRetry nPastRetries = false := by
  rw [RetryPolicy.shouldRetry, limited]
  exact decide_eq_false (Nat.not_lt_of_le late)

/-- `TransparentRetryMiddleware::handle`. -/
def TransparentRetryMiddleware.handle (policy : RetryPolicy)
    (strategy : Outcome → Bool) (next : SystemProgram Outcome) (fuel : Nat) :
    SystemProgram Outcome :=
  next.repeatWhile
    (fun nPastRetries result => strategy result && policy.shouldRetry nPastRetries)
    fuel 0

/-- A body that is read as JSON.  Failing to receive it and failing to parse it
are both errors of the transport. -/
def readBody {α : Type} (parse : Text → Except String α) (response : HttpResponse) :
    Except MiddlewareError α :=
  match response.text with
  | .error message => .error (.reqwest message)
  | .ok content => (parse content).mapError .reqwest

/-- `GetAccessTokenResponse`. -/
structure GetAccessTokenResponse where
  accessToken : Text
  expiresIn : Nat

structure IAMErrorResponse where
  code : Text
  message : Text
  details : Option Text

/-- What the client has from other packages: the outcomes that
`DefaultRetryableStrategy` takes for transient, the deserialisers, and the JSON
library.  `readError` gives the text that an error document is reported with. -/
structure Codec where
  defaultRetryableStrategy : Outcome → Bool
  readToken : Text → Except String GetAccessTokenResponse
  readIamError : Text → Except String IAMErrorResponse
  readError : Text → Except String String
  json : JsonLibrary

/-- `canonical_reason().unwrap_or_default()`. -/
def canonicalReason (status : HttpStatus) : String :=
  if status.reason = "<unknown status code>" then "" else status.reason

/-- Round to a significand of 53 bits, halves to even. -/
def roundTo53 (number : Nat) : Nat :=
  let unit := 2 ^ (number.log2 + 1 - 53)
  let quotient := number / unit
  let rest := number % unit
  if unit < 2 * rest ∨ (2 * rest = unit ∧ quotient % 2 = 1) then
    (quotient + 1) * unit
  else quotient * unit

/-- `(seconds as f64 * 0.9) as u64`.  The factor is 8106479329266893 / 2 ^ 53. -/
def nineTenths (seconds : Nat) : Nat :=
  roundTo53 (roundTo53 seconds * 8106479329266893) / 2 ^ 53

example : nineTenths 3600 = 3240 := by decide

/-- `Instant + Duration`, whose seconds are limited to 63 bits. -/
def instantAfter (now seconds : Nat) : Option Nat :=
  let later := now + seconds * 1000000000
  if later < 2 ^ 63 * 1000000000 then some later else none

structure TokenManager where
  accessToken : Option Text
  tokenExpiry : Option Nat
  retryPolicy : RetryPolicy
  tokenUrl : Text
  apiKey : Text

def DEFAULT_RETRIES : Nat := 5

def TokenManager.new (tokenUrl apiKey : Text) (retryPolicy : Option RetryPolicy) :
    TokenManager where
  accessToken := none
  tokenExpiry := none
  retryPolicy := retryPolicy.getD ⟨some DEFAULT_RETRIES⟩
  tokenUrl := tokenUrl
  apiKey := apiKey

/-- A method of the token manager. -/
abbrev TokenMethod (α : Type) : Type :=
  Method SystemAction SystemAction.Answer TokenManager MiddlewareError α

/-- A panic. -/
def panicking {State Error α : Type} :
    Method SystemAction SystemAction.Answer State Error α :=
  fun _ => .pending

namespace TokenManager

open Method

/-- `Instant::now()`. -/
def instantNow : TokenMethod Nat :=
  lift (Program.question SystemAction.instant)

def store (token : Text) (expiry : Nat) (manager : TokenManager) : TokenManager :=
  { manager with accessToken := some token, tokenExpiry := some expiry }

variable (codec : Codec) (fuel : Nat)

/-- Ask the identity service for a token. -/
def requestToken (manager : TokenManager) : SystemProgram Outcome :=
  TransparentRetryMiddleware.handle manager.retryPolicy codec.defaultRetryableStrategy
    (transmit (.postForm manager.tokenUrl
      [("grant_type", "urn:ibm:params:oauth:grant-type:apikey".toList),
        ("apikey", manager.apiKey)]) id)
    fuel

/-- The error for a token request that was refused. -/
def refusalMessage (tokenUrl : Text) (response : HttpResponse) : String :=
  match readBody codec.readIamError response with
  | .ok error =>
      "Failed to obtain access token. reason: " ++
        String.ofList (error.details.getD error.message) ++ " (" ++
        String.ofList error.code ++ ")"
  | .error _ =>
      "Failed to obtain access token. reason: " ++ canonicalReason response.status ++
        " (" ++ response.status.display ++ "), url: " ++ String.ofList tokenUrl

/-- Store a token together with its expiry. -/
def storeToken (token : GetAccessTokenResponse) : TokenMethod Unit := do
  let now ← instantNow
  match instantAfter now (nineTenths token.expiresIn) with
  | some expiry => modify (store token.accessToken expiry)
  | none => panicking

/-- `get_access_token`, for the authentication that the resource uses. -/
def getAccessToken : TokenMethod Unit := do
  let manager ← self
  let outcome ← lift (requestToken codec fuel manager)
  let response ← ofExcept outcome
  if response.status.isSuccess then
    let token ← ofExcept (readBody codec.readToken response)
    storeToken token
  else
    throw (.middleware (refusalMessage codec manager.tokenUrl response))

/-- The stored expiry, or the current time in its place. -/
def expiryOrNow (manager : TokenManager) : TokenMethod Nat :=
  match manager.tokenExpiry with
  | some expiry => pure expiry
  | none => instantNow

/-- `ensure_token_validity`. -/
def ensureTokenValidity : TokenMethod Unit := do
  let manager ← self
  match manager.accessToken with
  | none => getAccessToken codec fuel
  | some _ =>
      let expiry ← expiryOrNow manager
      let now ← instantNow
      if expiry ≤ now then getAccessToken codec fuel else return ()

/-- `get_token`. -/
def getToken : TokenMethod Text := do
  ensureTokenValidity codec fuel
  let manager ← self
  match manager.accessToken with
  | some token => return token
  | none => panicking

end TokenManager

/-- `HeaderValue::from_str`.  Of the bytes below 32 only the tab is allowed, and above
them all but 127, so that every character beyond ASCII is. -/
def isHeaderValue (text : Text) : Bool :=
  text.all fun char =>
    char = '\t' || (32 ≤ char.toNat && char.toNat ≠ 127)

example : isHeaderValue "té\t".toList = true ∧ isHeaderValue "t\n".toList = false := by decide

namespace AuthMiddleware

open Method TokenManager

variable (codec : Codec) (fuel : Nat)

/-- Run the inner layers on the request with the given token. -/
def sendWith (next : HttpRequest → SystemProgram Outcome) (request : HttpRequest)
    (token : Text) : TokenMethod Outcome :=
  if isHeaderValue ("Bearer ".toList ++ token) then
    lift (next { request with authorization := .bearer token })
  else panicking

/-- Whether a new token may help. -/
def isUnauthorized : Outcome → Bool
  | .ok response => response.status.code = 401
  | .error _ => false

/-- `AuthMiddleware::handle`. -/
def handle (next : HttpRequest → SystemProgram Outcome) (request : HttpRequest) :
    TokenMethod HttpResponse := do
  let token ← getToken codec fuel
  let response ← sendWith next request token
  if isUnauthorized response then
    getAccessToken codec fuel
    let token ← getToken codec fuel
    let response ← sendWith next request token
    ofExcept response
  else ofExcept response

end AuthMiddleware

/-- A layer that sends one action, perhaps several times, and returns the last
reply as it is. -/
def Relays (action : SystemAction) (asReply : action.Answer → HttpReply)
    (program : SystemProgram Outcome) : Prop :=
  ∀ trace outcome, program.Runs trace outcome →
    ∃ earlier answer, trace = earlier ++ [⟨action, answer⟩] ∧
      outcome = (asReply answer).mapError .reqwest

theorem runs_transmit_iff {action : SystemAction} {asReply : action.Answer → HttpReply}
    {trace : List SystemEvent} {outcome : Outcome} :
    (transmit action asReply).Runs trace outcome ↔
      ∃ answer, trace = [⟨action, answer⟩] ∧
        outcome = (asReply answer).mapError .reqwest := by
  rw [transmit, Program.runs_question_bind_iff]
  constructor
  · rintro ⟨answer, rest, rfl, returned⟩
    obtain ⟨rfl, rfl⟩ := Program.runs_pure_iff.mp returned
    exact ⟨answer, rfl, rfl⟩
  · rintro ⟨answer, rfl, rfl⟩
    exact ⟨answer, [], rfl, Program.runs_pure_iff.mpr ⟨rfl, rfl⟩⟩

/-- An outcome that is not transient ends the retries. -/
theorem runs_handle_of_final {policy : RetryPolicy} {strategy : Outcome → Bool}
    {action : SystemAction} {asReply : action.Answer → HttpReply} {answer : action.Answer}
    {fuel : Nat} (final : strategy ((asReply answer).mapError .reqwest) = false)
    (fueled : 0 < fuel) :
    (TransparentRetryMiddleware.handle policy strategy (transmit action asReply) fuel).Runs
      [⟨action, answer⟩] ((asReply answer).mapError .reqwest) := by
  obtain ⟨fuel, rfl⟩ := Nat.exists_eq_add_one_of_ne_zero (Nat.ne_of_gt fueled)
  refine (runs_transmit_iff.mpr ⟨answer, rfl, rfl⟩).once ?_
  rw [final, Bool.false_and]

theorem relays_transmit (action : SystemAction)
    (asReply : action.Answer → HttpReply) :
    Relays action asReply (transmit action asReply) := by
  intro trace outcome runs
  obtain ⟨answer, rfl, rfl⟩ := runs_transmit_iff.mp runs
  exact ⟨[], answer, rfl, rfl⟩

theorem Relays.handle {action : SystemAction} {asReply : action.Answer → HttpReply}
    {next : SystemProgram Outcome} (relays : Relays action asReply next)
    (policy : RetryPolicy) (strategy : Outcome → Bool) (fuel : Nat) :
    Relays action asReply
      (TransparentRetryMiddleware.handle policy strategy next fuel) := by
  intro trace outcome runs
  obtain ⟨earlier, last, rfl, attempted⟩ := Program.Runs.exists_last_attempt runs
  obtain ⟨repeated, answer, rfl, equal⟩ := relays last outcome attempted
  exact ⟨earlier ++ repeated, answer, (List.append_assoc ..).symm, equal⟩

theorem TokenManager.relays_requestToken (codec : Codec) (fuel : Nat)
    (manager : TokenManager) :
    ∃ form, Relays (.postForm manager.tokenUrl form) id
      (requestToken codec fuel manager) :=
  ⟨_, (relays_transmit _ _).handle _ _ _⟩

theorem readBody_document {α : Type} (document : Text) (value : α)
    (status : HttpStatus) (contentType : Option Text) :
    readBody (readDocument document value) ⟨status, contentType, .ok document⟩ =
      .ok value :=
  congrArg (Except.mapError MiddlewareError.reqwest) (readDocument_self document value)

end QuantumSystem
