import Qrmi.InteractionMethod
import Qrmi.Json
import Qrmi.QuantumResource

/-!
# Requests and replies of the generated REST clients

The generated clients share one shape: they build a request, send it, and turn
the reply into a value or an error.  A reply is either a response or a failure
of the transport, which includes a request that could not be built.
-/

open Interaction

inductive HttpMethod
  | get
  | post
  | patch
  | delete
  deriving DecidableEq

/-- The `Authorization` header of a request. -/
inductive Authorization
  | absent
  | bearer (token : Text)
  | basic (user : Text) (password : Option Text)
  deriving DecidableEq

structure HttpRequest where
  method : HttpMethod
  url : Text
  query : List (String × Text)
  headers : List (String × Text)
  authorization : Authorization
  body : Option Json

/-- A status code together with the reason that the HTTP library knows for it. -/
structure HttpStatus where
  code : Nat
  reason : String

namespace HttpStatus

def isClientError (status : HttpStatus) : Bool :=
  400 ≤ status.code && status.code < 500

def isServerError (status : HttpStatus) : Bool :=
  500 ≤ status.code && status.code < 600

def isSuccess (status : HttpStatus) : Bool :=
  200 ≤ status.code && status.code < 300

/-- The test by which every generated client tells an error from a result. -/
def isError (status : HttpStatus) : Bool :=
  status.isClientError || status.isServerError

def display (status : HttpStatus) : String :=
  s!"{status.code} {status.reason}"

end HttpStatus

/-- A response.  Its body may fail to arrive. -/
structure HttpResponse where
  status : HttpStatus
  contentType : Option Text
  text : Except String Text

abbrev HttpReply : Type :=
  Except String HttpResponse

/-- The content types that the clients distinguish. -/
inductive ContentType
  | json
  | text
  | unsupported (name : Text)

def ContentType.from (contentType : Text) : ContentType :=
  if "application".toList.isPrefixOf contentType &&
      Text.contains contentType "json".toList then json
  else if "text/plain".toList.isPrefixOf contentType then text
  else unsupported contentType

/-- The error of a generated client.  Its `Io` variant is never constructed. -/
inductive ApiError
  | reqwest (message : String)
  | serde (message : String)
  | response (status : HttpStatus) (content : Text)

def ApiError.display : ApiError → String
  | reqwest message => s!"error in reqwest: {message}"
  | serde message => s!"error in serde: {message}"
  | response status _ => s!"error in response: status code {status.display}"

namespace HttpReply

/-- The error of a response whose status is an error. -/
def refusal {α : Type} (response : HttpResponse) : Except ApiError α :=
  match response.text with
  | .error message => .error (.reqwest message)
  | .ok content => .error (.response response.status content)

/-- A client function whose result is not read from the body. -/
def readUnit (reply : HttpReply) : Except ApiError Unit :=
  match reply with
  | .error message => .error (.reqwest message)
  | .ok response =>
      if response.status.isError then refusal response else .ok ()

/-- A client function that reads its result from a body of the content type it
supports.  `ofText` says what a plain text body is good for. -/
def read {α : Type} (fallback typeName : String)
    (parse : Text → Except String α) (ofText : Text → Option α)
    (reply : HttpReply) : Except ApiError α :=
  match reply with
  | .error message => .error (.reqwest message)
  | .ok response =>
      if response.status.isError then refusal response
      else
        match response.text with
        | .error message => .error (.reqwest message)
        | .ok content =>
            match ContentType.from (response.contentType.getD fallback.toList) with
            | .json => (parse content).mapError .serde
            | .text =>
                match ofText content with
                | some value => .ok value
                | none => .error (.serde
                    ("Received `text/plain` content type response that cannot " ++
                      s!"be converted to `{typeName}`"))
            | .unsupported name => .error (.serde
                (s!"Received `{String.ofList name}` content type response that " ++
                  s!"cannot be converted to `{typeName}`"))

/-- A result that only a JSON body can give. -/
def readJson {α : Type} (fallback typeName : String)
    (parse : Text → Except String α) : HttpReply → Except ApiError α :=
  read fallback typeName parse fun _ => none

/-- A result that a plain text body gives as it is. -/
def readText (fallback : String) (parse : Text → Except String Text) :
    HttpReply → Except ApiError Text :=
  read fallback "String" parse some

/-- An answer whose status code is an error. -/
def IsRefusal (reply : HttpReply) : Prop :=
  ∃ response, reply = .ok response ∧ response.status.isError

theorem refusal_isError {α : Type} (response : HttpResponse) :
    ∃ error, (refusal response : Except ApiError α) = .error error := by
  rw [refusal]
  cases response.text with
  | error message => exact ⟨_, rfl⟩
  | ok content => exact ⟨_, rfl⟩

theorem IsRefusal.readUnit {reply : HttpReply} (refused : reply.IsRefusal) :
    ∃ error, reply.readUnit = .error error := by
  obtain ⟨response, rfl, isError⟩ := refused
  rw [HttpReply.readUnit, if_pos isError]
  exact refusal_isError response

theorem IsRefusal.readJson {α : Type} {fallback typeName : String}
    {parse : Text → Except String α} {reply : HttpReply}
    (refused : reply.IsRefusal) :
    ∃ error, reply.readJson fallback typeName parse = .error error := by
  obtain ⟨response, rfl, isError⟩ := refused
  rw [HttpReply.readJson, read, if_pos isError]
  exact refusal_isError response

end HttpReply

/-- The kind of resource that a request was about. -/
inductive ResourceKind
  | backend
  | job
  | session
  deriving DecidableEq

/-- The shape of every vendor's `classify`: refusals with a known meaning, and
one error for everything else. -/
def classifyRefusal (invalid : List Nat) (notFound : Option (String → QrmiError))
    (otherwise : QrmiError) (status : HttpStatus) (content : Text) : QrmiError :=
  let body := String.ofList content
  if status.code ∈ invalid then .invalidInput body
  else if status.code = 401 then .authenticationFailed body
  else if status.code = 404 then
    match notFound with
    | some error => error body
    | none => otherwise
  else otherwise

/-- What a missing resource of a kind is reported as. -/
def ResourceKind.notFound : ResourceKind → Option (String → QrmiError)
  | backend => some .resourceNotFound
  | job => some .taskNotFound
  | session => none

/-- The context that the vendors put in front of an unknown refusal. -/
def responseContext (status : HttpStatus) (content : Text) : QrmiError :=
  .other s!"response body: {status.display} {String.ofList content}"

/-- What a vendor client does to its environment: read the clock, send a request
of its API, post a form through a client of its own, and let the scheduler
decide which of two concurrent branches proceeds. -/
inductive WebAction
  | now
  | send (request : HttpRequest)
  | postForm (url : Text) (form : List (String × Text))
  | overtake

namespace WebAction

abbrev Answer : WebAction → Type
  | now => Nat
  | send _ => HttpReply
  | postForm .. => HttpReply
  | overtake => Bool

end WebAction

abbrev WebEvent : Type :=
  Event WebAction.Answer

abbrev WebProgram (α : Type) : Type :=
  Program WebAction WebAction.Answer α

/-- Send a request and read its reply. -/
def fetch {α : Type} (request : HttpRequest)
    (readReply : HttpReply → Except ApiError α) :
    WebProgram (Except ApiError α) := do
  let reply ← Program.question (.send request)
  return readReply reply

@[simp]
theorem runs_fetch_iff {α : Type} {request : HttpRequest}
    {readReply : HttpReply → Except ApiError α} {trace : List WebEvent}
    {outcome : Except ApiError α} :
    (fetch request readReply).Runs trace outcome ↔
      ∃ reply, trace = [⟨.send request, reply⟩] ∧ outcome = readReply reply := by
  rw [fetch, Program.runs_question_bind_iff]
  constructor
  · rintro ⟨reply, rest, rfl, returned⟩
    obtain ⟨rfl, rfl⟩ := Program.runs_pure_iff.mp returned
    exact ⟨reply, rfl, rfl⟩
  · rintro ⟨reply, rfl, rfl⟩
    exact ⟨reply, [], rfl, .done _⟩

/-- A request of the client, with its error classified by the vendor. -/
def classified {α : Type} (classify : ApiError → QrmiError)
    (request : WebProgram (Except ApiError α)) :
    WebProgram (Except QrmiError α) := do
  let outcome ← request
  return outcome.mapError classify

theorem runs_classified_fetch_iff {α : Type} {classify : ApiError → QrmiError}
    {request : HttpRequest} {readReply : HttpReply → Except ApiError α}
    {trace : List WebEvent} {outcome : Except QrmiError α} :
    (classified classify (fetch request readReply)).Runs trace outcome ↔
      ∃ reply, trace = [⟨.send request, reply⟩] ∧
        outcome = (readReply reply).mapError classify := by
  rw [classified, Program.runs_bind_iff]
  constructor
  · rintro ⟨first, second, middle, rfl, fetched, returned⟩
    obtain ⟨reply, rfl, rfl⟩ := runs_fetch_iff.mp fetched
    obtain ⟨rfl, rfl⟩ := Program.runs_pure_iff.mp returned
    exact ⟨reply, rfl, rfl⟩
  · rintro ⟨reply, rfl, rfl⟩
    exact ⟨_, [], _, rfl, runs_fetch_iff.mpr ⟨reply, rfl, rfl⟩, .done _⟩

theorem ensures_classified_fetch {α : Type} {classify : ApiError → QrmiError}
    {request : HttpRequest} {readReply : HttpReply → Except ApiError α}
    {rely : WebEvent → Prop} {post : Except QrmiError α → Prop}
    (answers : ∀ reply, rely ⟨.send request, reply⟩ →
      post ((readReply reply).mapError classify)) :
    (classified classify (fetch request readReply)).Ensures rely post := by
  intro trace outcome runs relied
  obtain ⟨reply, rfl, rfl⟩ := runs_classified_fetch_iff.mp runs
  exact answers reply (relied _ (List.mem_singleton_self _))

/-- Run a request program on the current state of a resource and fail with its
error. -/
def request {State α : Type} (program : State → WebProgram (Except QrmiError α)) :
    Method WebAction WebAction.Answer State QrmiError α := do
  let state ← Method.self
  let outcome ← Method.lift (program state)
  Method.ofExcept outcome

theorem executes_request_iff {State α : Type}
    {program : State → WebProgram (Except QrmiError α)} {before after : State}
    {trace : List WebEvent} {result : Except QrmiError α} :
    (request program).Executes before trace result after ↔
      (program before).Runs trace result ∧ after = before := by
  rw [request, Method.executes_self_bind_iff, Method.executes_bind_iff]
  constructor
  · rintro (⟨error, rfl, failed⟩ | ⟨first, second, outcome, middle, rfl, ran, rest⟩)
    · obtain ⟨_, -, equal, -⟩ := Method.executes_lift_iff.mp failed
      cases equal
    · obtain ⟨_, runs, equal, rfl⟩ := Method.executes_lift_iff.mp ran
      obtain ⟨rfl, rfl, rfl⟩ := Method.executes_ofExcept_iff.mp rest
      cases equal
      rw [List.append_nil]
      exact ⟨runs, rfl⟩
  · rintro ⟨runs, rfl⟩
    exact .inr ⟨trace, [], result, after, (List.append_nil _).symm,
      Method.executes_lift_iff.mpr ⟨result, runs, rfl, rfl⟩,
      Method.executes_ofExcept_iff.mpr ⟨rfl, rfl, rfl⟩⟩

/-- A method that sends one request on behalf of the current state. -/
theorem executes_request_fetch_iff {State α : Type} {classify : ApiError → QrmiError}
    {make : State → HttpRequest} {readReply : HttpReply → Except ApiError α}
    {before after : State} {trace : List WebEvent} {result : Except QrmiError α} :
    (request fun state =>
        classified classify (fetch (make state) readReply)).Executes
      before trace result after ↔
      (∃ reply, trace = [⟨.send (make before), reply⟩] ∧
        result = (readReply reply).mapError classify) ∧ after = before := by
  rw [executes_request_iff, runs_classified_fetch_iff]

theorem fetch_total {α : Type} (request : HttpRequest)
    (readReply : HttpReply → Except ApiError α) : (fetch request readReply).Total :=
  (Program.total_question _).bind fun _ => Program.total_pure _

theorem request_returns {State α : Type}
    {program : State → WebProgram (Except QrmiError α)}
    (total : ∀ state, (program state).Total) : (request program).Returns :=
  Method.returns_self.bind fun state =>
    (Method.returns_lift (total state)).bind fun _ => Method.returns_ofExcept _

/-- A method that sends one request returns. -/
theorem request_fetch_returns {State α : Type} (classify : ApiError → QrmiError)
    (make : State → HttpRequest) (readReply : HttpReply → Except ApiError α) :
    (request fun state =>
      classified classify (fetch (make state) readReply)).Returns :=
  request_returns fun _ =>
    (fetch_total _ _).bind fun _ => Program.total_pure _

/-- `tokio::try_join!` of one request with a longer branch.  The scheduler may
let the request proceed before any event of the branch, and the first error of
either side is the outcome. -/
def tryJoin {ε α β : Type} (request : HttpRequest)
    (readReply : HttpReply → Except ε α) :
    WebProgram (Except ε β) → WebProgram (Except ε (α × β))
  | .done (.error error) => .done (.error error)
  | .done (.ok value) => .ask (.send request) fun reply =>
      .done ((readReply reply).map fun first => (first, value))
  | .pending => .pending
  | .ask query next => .ask .overtake fun first =>
      if first then
        .ask (.send request) fun reply =>
          match readReply reply with
          | .error error => .done (.error error)
          | .ok value => (Program.ask query next).bind fun outcome =>
              .done (outcome.map fun other => (value, other))
      else .ask query fun answer => tryJoin request readReply (next answer)

/-- A deserialiser that knows one document. -/
def readDocument {α : Type} (document : Text) (value : α) (text : Text) :
    Except String α :=
  if text = document then .ok value else .error "expected value"

theorem readDocument_self {α : Type} (document : Text) (value : α) :
    readDocument document value document = .ok value :=
  if_pos rfl
