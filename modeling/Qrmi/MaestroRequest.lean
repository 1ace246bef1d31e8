import Qrmi.MaestroProtocol

/-!
# The native request client

The native API sends JSON documents.  The client remembers whether the server
has negotiated the native schema and forgets it on every failure that casts
doubt on the server's version.  Whether a submission created a task is decided
by its reply alone: only a well-formed refusal proves that it did not.
-/

namespace Maestro

open Interaction

/-- The error of a native request: a code and a message. -/
structure RequestError where
  code : Text
  message : String

def RequestError.new (code : String) (message : String) : RequestError :=
  ⟨code.toList, message⟩

def RequestError.display (error : RequestError) : String :=
  s!"{String.ofList error.code}: {error.message}"

/-- The native client.  All clones share the negotiation flag, so it is part of
the one client state. -/
structure RequestClient where
  socket : String
  negotiated : Bool
  deriving DecidableEq

/-- A method of the native client. -/
abbrev ClientMethod (α : Type) : Type :=
  Method Command (fun _ => Reply) RequestClient RequestError α

namespace RequestClient

def new (socket : String) : RequestClient :=
  ⟨socket, false⟩

/-- `negotiated.store(value)`. -/
def setNegotiated (value : Bool) (client : RequestClient) : RequestClient :=
  { client with negotiated := value }

@[simp]
theorem setNegotiated_socket (value : Bool) (client : RequestClient) :
    (client.setNegotiated value).socket = client.socket :=
  rfl

end RequestClient

/-- Server runner status. -/
structure ServerStatus where
  acceptingJobs : Bool
  healthy : Option Bool
  busy : Option Bool
  pendingJobCount : Option Nat
  reason : Option Text

def VERSION : Nat := 2

def MAX_REQUEST_BYTES : Nat := 16 * 1024 * 1024

/-- `value["version"].as_u32() == Some(VERSION)` at a given member. -/
def hasVersion (document : Json) (key : String) : Bool :=
  (document.get key).asU32 = some (UInt32.ofNat VERSION)

/-- The request documents share their version and command members. -/
def requestDocument (command : String) (members : List (Text × Json)) : Json :=
  .object (Json.unsignedMember "version" VERSION ::
    Json.stringMember "command" command :: members)

def capabilitiesDocument : Json :=
  requestDocument "capabilities" []

def statusDocument : Json :=
  requestDocument "status" []

def submitDocument (session : UInt32) (request : Json) : Json :=
  requestDocument "submit"
    [Json.unsignedMember "session_id" session.toNat,
      ("request".toList, request)]

def logsDocument (session task : UInt32) : Json :=
  requestDocument "logs"
    [Json.unsignedMember "session_id" session.toNat,
      Json.unsignedMember "task_id" task.toNat]

def keepaliveDocument (session : UInt32) : Json :=
  requestDocument "keepalive"
    [Json.unsignedMember "session_id" session.toNat]

section Codec

variable (json : JsonLibrary)

/-- The document of a reply line that has the form of an API reply. -/
def envelope (line : Text) : Option (Except String Json) :=
  (Text.stripPrefix "OK ".toList line).map fun document =>
    json.parse (Text.trim document)

/-- `request::parse_response`. -/
def parseApiResponse (line : Text) : Except RequestError Json :=
  match envelope json line with
  | none => .error (.new "unsupported_api"
      ("Maestro server does not support request API v2: " ++
        String.ofList (Text.trim line)))
  | some (.error error) =>
      .error (.new "protocol" s!"Malformed API response: {error}")
  | some (.ok value) =>
      if !hasVersion value "version" then
        .error (.new "unsupported_api"
          "Incompatible Maestro public API version")
      else
        match (value.get "ok").asBool with
        | some true => .ok value
        | some false => .error
            { code := ((value.get "error").get "code").asString.getD
                "server_error".toList
              message := String.ofList
                (((value.get "error").get "message").asString.getD
                  "Unspecified Maestro error".toList) }
        | none => .error (.new "protocol" "Missing response status")

/-- `request::parse_submission_response`: a reply that is no version 2 envelope
does not show that the server refused the request. -/
def parseSubmissionResponse (line : Text) : Except RequestError Json :=
  let unrecognized : Except RequestError Json :=
    .error (.new "protocol"
      ("Unrecognized reply to a submission; the task may have been created: " ++
        String.ofList ((Text.trim line).take 256)))
  match envelope json line with
  | some (.ok value) =>
      if hasVersion value "version" then parseApiResponse json line
      else unrecognized
  | _ => unrecognized

/-- A well-formed version 2 envelope that refuses its request. -/
def isRefusal (reply : Reply) : Bool :=
  match reply with
  | .error _ => false
  | .ok line =>
      match envelope json line with
      | some (.ok value) =>
          hasVersion value "version" && (value.get "ok").asBool == some false
      | _ => false

/-- The errors that cast doubt on the negotiated version. -/
def RequestError.invalidatesNegotiation (error : RequestError) : Bool :=
  error.code ∈ ["transport".toList, "protocol".toList,
    "unsupported_api".toList, "unsupported_version".toList]

/-- The outcome of a native exchange before the client looks at its code. -/
def readApiReply (parse : Text → Except RequestError Json) (reply : Reply) :
    Except RequestError Json :=
  match reply with
  | .error error => .error (.new "transport" error)
  | .ok line => parse line

/-- The client bookkeeping of a finished native exchange. -/
def noteOutcome (outcome : Except RequestError Json) (client : RequestClient) :
    RequestClient :=
  match outcome with
  | .error error =>
      if error.invalidatesNegotiation then client.setNegotiated false
      else client
  | .ok _ => client

namespace RequestClient

/-- `Client::call_with`. -/
def callWith (document : Json) (parse : Text → Except RequestError Json) :
    ClientMethod Json :=
  if Text.byteLength (Command.render json (.api document)) > MAX_REQUEST_BYTES
  then Method.throw
    (.new "invalid_input" "Request exceeds the 16 MiB transport limit")
  else do
    let reply ← Method.lift (Program.question (.api document))
    let outcome := readApiReply parse reply
    Method.modify (noteOutcome outcome)
    Method.ofExcept outcome

/-- `Client::call`. -/
def call (document : Json) : ClientMethod Json :=
  callWith json document (parseApiResponse json)

/-- `Client::capabilities`. -/
def capabilities : ClientMethod Text := do
  Method.modify (setNegotiated false)
  let value ← call json capabilitiesDocument
  if !hasVersion (value.get "native") "schema_version" then
    Method.throw (.new "unsupported_api"
      "Server lacks Maestro native request schema 2")
  else do
    Method.modify (setNegotiated true)
    return json.dump value

/-- The negotiation in front of a submission. -/
def ensureNegotiated : ClientMethod Unit := do
  let client ← Method.self
  if client.negotiated then return ()
  else do
    let _ ← capabilities json
    return ()

/-- The created task of an accepted submission. -/
def submittedTask (response : Json) : ClientMethod UInt32 :=
  match (response.get "task_id").asU32 with
  | some id => return id
  | none => do
      Method.modify (setNegotiated false)
      Method.throw (.new "protocol"
        "Missing task_id; the task may have been created")

/-- `Client::submit`. -/
def submit (session : UInt32) (request : Text) : ClientMethod UInt32 :=
  match json.parse request with
  | .error error => Method.throw (.new "invalid_input" error)
  | .ok request =>
      if !request.isObject || !hasVersion request "schema_version" then
        Method.throw (.new "invalid_input"
          "Native request must be an object with schema_version=2")
      else do
        ensureNegotiated json
        let response ← callWith json (submitDocument session request)
          (parseSubmissionResponse json)
        submittedTask response

/-- `Client::logs`. -/
def logs (session task : UInt32) : ClientMethod Text := do
  let value ← call json (logsDocument session task)
  return json.dump value

/-- The status document of a version 2 server. -/
def readStatus (value : Json) : Except RequestError ServerStatus :=
  let status := value.get "status"
  let malformed : RequestError := .new "protocol" "Invalid server status response"
  let required {α : Type} (member : Option α) : Except RequestError α :=
    match member with
    | some member => .ok member
    | none => .error malformed
  do
    let reason ← match status.get "status_reason" with
      | .null => pure none
      | other => some <$> required other.asString
    let acceptingJobs ← required (status.get "accepting_jobs").asBool
    let healthy ← required (status.get "healthy").asBool
    let busy ← required (status.get "busy").asBool
    let pendingJobCount ← required (status.get "pending_job_count").asU64
    return ⟨acceptingJobs, some healthy, some busy, some pendingJobCount, reason⟩

/-- The legacy answer to a ping. -/
def readPing (ping : Text) : Except RequestError ServerStatus :=
  let line := Text.trim ping
  if line = "OK".toList ∨ line = "OK YES".toList then
    .ok ⟨true, none, none, none, none⟩
  else if line = "OK NO".toList then .ok ⟨false, none, none, none, none⟩
  else .error (.new "protocol"
    s!"Invalid legacy PING response: {String.ofList line}")

/-- Whether a status reply allows the fallback to a legacy ping. -/
def allowsPing (line : Text) : Bool :=
  Text.trim line = "ERROR Unknown command".toList ||
    match parseApiResponse json line with
    | .error error => error.code = "unsupported_operation".toList
    | .ok _ => false

/-- `Client::status`. -/
def status : ClientMethod ServerStatus := do
  match ← Method.lift (Program.question (.api statusDocument)) with
  | .error error => Method.throw (.new "transport" error)
  | .ok line =>
      if allowsPing json line then do
        match ← Method.lift (Program.question .ping) with
        | .error error => Method.throw (.new "transport" error)
        | .ok ping => Method.ofExcept (readPing ping)
      else
        Method.ofExcept ((parseApiResponse json line).bind readStatus)

/-- `Client::keepalive`. -/
def keepalive (session : UInt32) : ClientMethod Unit := do
  let _ ← call json (keepaliveDocument session)
  return ()

/-- What the reply to a submission reports: the created task or an error. -/
def readSubmission (reply : Reply) : Except RequestError UInt32 :=
  (readApiReply (parseSubmissionResponse json) reply).bind fun response =>
    match (response.get "task_id").asU32 with
    | some id => .ok id
    | none => .error (.new "protocol"
        "Missing task_id; the task may have been created")

variable {json : JsonLibrary} {before after : RequestClient}
variable {trace : List Exchange}

/-- A native call is refused locally when its frame is too long; otherwise it is
one exchange whose reply alone decides the result and what the client notes. -/
theorem executes_callWith_noted {document : Json}
    {parse : Text → Except RequestError Json}
    {result : Except RequestError Json}
    (executes : (callWith json document parse).Executes
      before trace result after) :
    (trace = [] ∧ (∃ error, result = .error error) ∧ after = before) ∨
      ∃ reply, trace = [⟨.api document, reply⟩] ∧
        result = readApiReply parse reply ∧
        after = noteOutcome (readApiReply parse reply) before := by
  unfold callWith at executes
  split at executes
  · obtain ⟨rfl, rfl, rfl⟩ := Method.executes_throw_iff.mp executes
    exact .inl ⟨rfl, ⟨_, rfl⟩, rfl⟩
  · simp only [Method.executes_bind_iff, Method.executes_lift_iff,
      Program.runs_question_iff, Method.executes_modify_iff,
      Method.executes_ofExcept_iff] at executes
    rcases executes with ⟨_, rfl, _, -, impossible, -⟩ |
      ⟨_, _, reply, _, rfl, ⟨_, rfl, equal, rfl⟩, noted⟩
    · cases impossible
    · cases equal
      rcases noted with ⟨_, rfl, -, impossible, -⟩ |
        ⟨_, _, _, _, rfl, ⟨rfl, -, rfl⟩, rfl, rfl, rfl⟩
      · cases impossible
      · exact .inr ⟨reply, rfl, rfl, rfl⟩

/-- The result of a native call and its exchange. -/
theorem executes_callWith {document : Json}
    {parse : Text → Except RequestError Json}
    {result : Except RequestError Json}
    (executes : (callWith json document parse).Executes
      before trace result after) :
    (trace = [] ∧ ∃ error, result = .error error) ∨
      ∃ reply, trace = [⟨.api document, reply⟩] ∧
        result = readApiReply parse reply := by
  rcases executes_callWith_noted executes with ⟨silent, failed, -⟩ |
    ⟨reply, asked, read, -⟩
  · exact .inl ⟨silent, failed⟩
  · exact .inr ⟨reply, asked, read⟩

/-- A request for diagnostics sends at most the one document that names the
task. -/
theorem executes_logs {session task : UInt32}
    {result : Except RequestError Text}
    (executes : (logs json session task).Executes before trace result after) :
    (trace = [] ∧ ∃ error, result = .error error) ∨
      ∃ reply, trace = [⟨.api (logsDocument session task), reply⟩] ∧
        result =
          (readApiReply (parseApiResponse json) reply).map json.dump := by
  unfold logs call at executes
  rcases Method.executes_bind_iff.mp executes with ⟨error, rfl, failed⟩ |
    ⟨first, second, value, middle, rfl, called, returned⟩
  · rcases executes_callWith failed with ⟨rfl, _⟩ | ⟨reply, rfl, equal⟩
    · exact .inl ⟨rfl, error, rfl⟩
    · exact .inr ⟨reply, rfl, by rw [← equal]; rfl⟩
  · obtain ⟨rfl, rfl, rfl⟩ := Method.executes_pure_iff.mp returned
    rcases executes_callWith called with
      ⟨-, _, impossible⟩ | ⟨reply, rfl, equal⟩
    · cases impossible
    · exact .inr ⟨reply, by simp, by rw [← equal]; rfl⟩

/-- A native call sends its own document at most. -/
theorem emits_callWith {document : Json} {parse : Text → Except RequestError Json} :
    (callWith json document parse).Emits fun event => event.1 = .api document := by
  rintro client trace ⟨result, final⟩ runs event member
  rcases executes_callWith runs with ⟨rfl, -⟩ | ⟨reply, rfl, -⟩
  · cases member
  · rw [List.mem_singleton.mp member]

theorem emits_capabilities :
    (capabilities json).Emits fun event => event.1 = .api capabilitiesDocument := by
  refine Method.Emits.bind (Method.emits_modify _) fun _ => ?_
  refine Method.Emits.bind emits_callWith fun value => ?_
  split
  · exact Method.emits_throw _
  · exact Method.Emits.bind (Method.emits_modify _) fun _ =>
      Method.emits_pure _

/-- Negotiation sends nothing but capability requests. -/
theorem emits_ensureNegotiated :
    (ensureNegotiated json).Emits
      fun event => event.1 = .api capabilitiesDocument := by
  refine Method.Emits.bind Method.emits_self fun client => ?_
  split
  · exact Method.emits_pure _
  · exact Method.Emits.bind emits_capabilities fun _ => Method.emits_pure _

/-- A submission negotiates at most, and then sends at most the one document
that creates the task; the reply to it alone decides the result. -/
theorem executes_submit {session : UInt32} {request : Text}
    {result : Except RequestError UInt32}
    (executes : (submit json session request).Executes
      before trace result after) :
    ∃ negotiation rest, trace = negotiation ++ rest ∧
      (∀ event ∈ negotiation, event.1 = .api capabilitiesDocument) ∧
      ((rest = [] ∧ ∃ error, result = .error error) ∨
        ∃ document reply, rest = [⟨.api (submitDocument session document), reply⟩] ∧
          result = readSubmission json reply) := by
  unfold submit at executes
  split at executes
  · obtain ⟨rfl, rfl, rfl⟩ := Method.executes_throw_iff.mp executes
    exact ⟨[], [], rfl, by simp, .inl ⟨rfl, _, rfl⟩⟩
  rename_i document _
  split at executes
  · obtain ⟨rfl, rfl, rfl⟩ := Method.executes_throw_iff.mp executes
    exact ⟨[], [], rfl, by simp, .inl ⟨rfl, _, rfl⟩⟩
  rcases Method.executes_bind_iff.mp executes with ⟨error, rfl, failed⟩ |
    ⟨negotiation, rest, _, client, rfl, negotiated, sent⟩
  · exact ⟨trace, [], by simp, emits_ensureNegotiated.event_of_executes failed,
      .inl ⟨rfl, error, rfl⟩⟩
  refine ⟨negotiation, rest, rfl,
    emits_ensureNegotiated.event_of_executes negotiated, ?_⟩
  rcases Method.executes_bind_iff.mp sent with ⟨error, rfl, failed⟩ |
    ⟨first, second, response, client, rfl, called, read⟩
  · rcases executes_callWith failed with ⟨rfl, _⟩ | ⟨reply, rfl, equal⟩
    · exact .inl ⟨rfl, error, rfl⟩
    · exact .inr ⟨document, reply, rfl, by rw [readSubmission, ← equal]; rfl⟩
  · rcases executes_callWith called with
      ⟨-, _, impossible⟩ | ⟨reply, rfl, equal⟩
    · cases impossible
    refine .inr ⟨document, reply, ?_⟩
    rw [readSubmission, ← equal]
    unfold submittedTask at read
    cases named : (response.get "task_id").asU32 with
    | some id =>
        simp only [named, Method.executes_pure_iff] at read
        obtain ⟨rfl, rfl, -⟩ := read
        simp [Except.bind, named]
    | none =>
        simp only [named, Method.executes_bind_iff, Method.executes_modify_iff,
          Method.executes_throw_iff] at read
        rcases read with ⟨_, rfl, -, impossible, -⟩ |
          ⟨_, _, _, _, rfl, ⟨rfl, -, -⟩, rfl, rfl, -⟩
        · cases impossible
        · simp [Except.bind, named]

/-- A submission reply that does not report acceptance is a refusal, or it is
reported as a protocol failure. -/
theorem parseSubmissionResponse_error {line : Text} {error : RequestError}
    (failed : parseSubmissionResponse json line = .error error) :
    isRefusal json (.ok line) = true ∨ error.code = "protocol".toList := by
  unfold parseSubmissionResponse at failed
  unfold isRefusal
  split at failed
  · rename_i value framed
    split at failed
    · rename_i versioned
      simp only [parseApiResponse, framed, versioned, Bool.not_true,
        Bool.false_eq_true, if_false] at failed
      split at failed
      · cases failed
      · rename_i refused
        simp [framed, versioned, refused]
      · cases failed
        exact .inr rfl
    · cases failed
      exact .inr rfl
  · cases failed
    exact .inr rfl

/-- A submission that fails after its reply was read was refused by the server,
or its failure is the transport's or the protocol's. -/
theorem readSubmission_error {reply : Reply} {error : RequestError}
    (failed : readSubmission json reply = .error error) :
    isRefusal json reply = true ∨ error.code = "protocol".toList ∨
      error.code = "transport".toList := by
  cases reply with
  | error message =>
      cases failed
      exact .inr (.inr rfl)
  | ok line =>
      simp only [readSubmission, readApiReply] at failed
      cases parsed : parseSubmissionResponse json line with
      | error parseError =>
          rw [parsed] at failed
          cases failed
          rcases parseSubmissionResponse_error parsed with refused | protocol
          · exact .inl refused
          · exact .inr (.inl protocol)
      | ok response =>
          simp only [parsed, Except.bind] at failed
          split at failed
          · cases failed
          · cases failed
            exact .inr (.inl rfl)

end RequestClient

end Codec

end Maestro
