import Qrmi.RestClient

/-!
# Authentication of the Pasqal Cloud client

The client keeps an access token and the header that carries it.  A request that
needs the header first checks the expiry of the token and asks the token endpoint
for a new one when it is due.
-/

open Interaction

namespace PasqalCloud

/-- What the client calls of other libraries: header values, the URL-safe base64
alphabet without padding, and deserialisers that report their own message. -/
structure AuthLibrary (HeaderValue : Type) where
  headerValue : Text → Except String HeaderValue
  decodeUrlSafe : Text → Except String (List UInt8)
  parseJson : List UInt8 → Except String Json
  readAccessToken : Text → Except String Text

inductive AuthError
  | missingCredentialsForRefresh

def AuthError.display : AuthError → String
  | missingCredentialsForRefresh =>
      "auth token is missing or expired and refresh credentials are not configured"

/-- An `anyhow` error: one of the client's own, or a message. -/
inductive CloudError
  | auth (error : AuthError)
  | message (text : String)

structure Client (HeaderValue : Type) where
  baseUrl : Text
  projectId : Text
  authToken : Text
  authHeader : Option HeaderValue
  authEndpoint : Text
  username : Option Text
  password : Option Text
  clientId : Option Text
  clientSecret : Option Text

structure CloudRequest (HeaderValue : Type) where
  method : HttpMethod
  url : Text
  contentType : Option String
  authorization : Option HeaderValue
  body : Option Json

/-- A request as the HTTP client creates it. -/
def CloudRequest.new {HeaderValue : Type} (method : HttpMethod) (url : Text) :
    CloudRequest HeaderValue :=
  ⟨method, url, none, none, none⟩

/-- What the client does to its environment. -/
inductive CloudAction (HeaderValue : Type)
  | now
  | postForm (endpoint : Text) (form : List (String × Text))
  | send (request : CloudRequest HeaderValue)

/-- The clock answers with the seconds since the epoch, or fails before it. -/
abbrev CloudAction.Answer {HeaderValue : Type} : CloudAction HeaderValue → Type
  | now => Except String Nat
  | postForm .. => HttpReply
  | send _ => HttpReply

abbrev CloudEvent (HeaderValue : Type) : Type :=
  Event (@CloudAction.Answer HeaderValue)

abbrev CloudMethod (HeaderValue α : Type) : Type :=
  Method (CloudAction HeaderValue) CloudAction.Answer (Client HeaderValue) CloudError α

def authTokenExpiryGraceSeconds : Int :=
  10

/-- Credentials used to request an access token. -/
inductive AccessTokenRequest
  | usernamePassword (username password : Text)
  | serviceAccount (clientId clientSecret : Text)

def AccessTokenRequest.formParams : AccessTokenRequest → List (String × Text)
  | usernamePassword username password =>
      [("grant_type", "http://auth0.com/oauth/grant-type/password-realm".toList),
        ("realm", "pcs-users".toList),
        ("client_id", "PeZvo7Atx7IVv3iel59asJSb4Ig7vuSB".toList),
        ("audience", "https://apis.pasqal.cloud/account/api/v1".toList),
        ("username", username),
        ("password", password)]
  | serviceAccount clientId clientSecret =>
      [("grant_type", "client_credentials".toList),
        ("client_id", clientId),
        ("client_secret", clientSecret),
        ("audience", "https://apis.pasqal.cloud/account/api/v1".toList)]

/-- The address of the token endpoint.  A scheme is added when there is none. -/
def normalizeAuthEndpoint (authEndpoint : Text) : Except CloudError Text :=
  if Text.trim authEndpoint = [] then
    .error (.message "auth endpoint must be configured when requesting an access token")
  else if Text.contains authEndpoint "://".toList then .ok (Text.trim authEndpoint)
  else .ok ("https://".toList ++ Text.trim authEndpoint)

/-- The token that a reply of the token endpoint grants. -/
def readTokenReply {HeaderValue : Type} (library : AuthLibrary HeaderValue)
    (reply : HttpReply) : Except CloudError Text :=
  match reply with
  | .error text => .error (.message text)
  | .ok response =>
      if response.status.isSuccess then
        (response.text.bind library.readAccessToken).mapError .message
      else
        let body := response.text.toOption.getD []
        .error (.message
          s!"Token request failed: {response.status.display} {String.ofList body}")

section Tokens

variable {HeaderValue : Type} (library : AuthLibrary HeaderValue)

/-- The expiry that a JWT payload states.  A token that is no JWT has none. -/
def jwtExpiryUnixSeconds (token : Text) : Except CloudError (Option Int) :=
  let token := Text.trim token
  if token = [] then .ok none
  else
    match token.splitOn '.' with
    | header :: payload :: _ :: _ =>
        if header = [] ∨ payload = [] then .ok none
        else do
          let payloadBytes ← (library.decodeUrlSafe payload).mapError .message
          let value ← (library.parseJson payloadBytes).mapError .message
          match value.member? "exp" with
          | none => .ok none
          | some exp =>
              match exp.asI64, exp.asString with
              | some seconds, _ => .ok (some seconds)
              | none, some text =>
                  match Text.readI64 text with
                  | .ok seconds => .ok (some seconds)
                  | .error message => .error (.message message)
              | none, none => .ok none
    | _ => .ok none

/-- A token whose expiry cannot be read is unusable; one without expiry is usable
until the service rejects it. -/
def isAuthTokenUsable (token : Text) (now : Int) : Bool :=
  if Text.trim token = [] then false
  else
    match jwtExpiryUnixSeconds library token with
    | .ok (some exp) => now + authTokenExpiryGraceSeconds < exp
    | .ok none => true
    | .error _ => false

def makeAuthHeader (token : Text) : Except CloudError (Option HeaderValue) :=
  if Text.trim token = [] then .ok none
  else
    match library.headerValue ("Bearer ".toList ++ token) with
    | .ok header => .ok (some header)
    | .error text => .error (.message text)

end Tokens

namespace Client

open Method

variable {HeaderValue : Type} (library : AuthLibrary HeaderValue)

def nowUnixSeconds : CloudMethod HeaderValue Int := do
  let now ← lift (Program.question (CloudAction.now : CloudAction HeaderValue))
  ofExcept ((now.map fun seconds => (seconds : Int)).mapError .message)

/-- The credentials of a refresh.  Those of a user come first. -/
def accessTokenRequest (client : Client HeaderValue) : Option AccessTokenRequest :=
  match client.username, client.password with
  | some username, some password => some (.usernamePassword username password)
  | _, _ =>
      match client.clientId, client.clientSecret with
      | some clientId, some clientSecret => some (.serviceAccount clientId clientSecret)
      | _, _ => none

def requestAccessToken (authEndpoint : Text) (request : AccessTokenRequest) :
    CloudMethod HeaderValue Text := do
  let endpoint ← ofExcept (normalizeAuthEndpoint authEndpoint)
  let reply ← lift (Program.question
    (CloudAction.postForm endpoint request.formParams : CloudAction HeaderValue))
  ofExcept (readTokenReply library reply)

/-- The second half of `ensure_authenticated`.  The token is stored before its
header is built, and building the header may fail. -/
def refresh : CloudMethod HeaderValue Unit := do
  let client ← self
  let _ ← ofExcept (jwtExpiryUnixSeconds library client.authToken)
  match accessTokenRequest client with
  | some request =>
      let token ← requestAccessToken library client.authEndpoint request
      modify fun client => { client with authToken := token }
      let header ← ofExcept (makeAuthHeader library token)
      modify fun client => { client with authHeader := header }
  | none => throw (.auth .missingCredentialsForRefresh)

def ensureAuthenticated : CloudMethod HeaderValue Unit := do
  let now ← nowUnixSeconds
  let client ← self
  if isAuthTokenUsable library client.authToken now then return ()
  else refresh library

def attachHeaders (request : CloudRequest HeaderValue) :
    CloudMethod HeaderValue (CloudRequest HeaderValue) := do
  let client ← self
  match client.authHeader with
  | some auth =>
      let authorized :=
        { request with contentType := some "application/json", authorization := some auth }
      return authorized
  | none => throw (.message "authorization header is not available")

def authenticated (request : CloudRequest HeaderValue) :
    CloudMethod HeaderValue (CloudRequest HeaderValue) := do
  ensureAuthenticated library
  attachHeaders request

end Client

end PasqalCloud
