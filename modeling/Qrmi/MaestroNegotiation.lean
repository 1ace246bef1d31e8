import Qrmi.InteractionHistory
import Qrmi.MaestroSubmission

/-!
# The negotiation flag

Clones of a native client share one flag, and every one of them reads and writes
it.  The events of a call that bear on the flag are read off from its exchanges.
After any sequence of calls the flag tells whether the last of these events was a
successful negotiation, and a submission is only written while it is set.
-/

namespace Maestro

open Interaction

/-- What bears on the negotiation flag. -/
inductive NegotiationEvent
  /-- A capabilities call starts. -/
  | started
  /-- A capabilities call found native schema version 2. -/
  | succeeded
  /-- A native exchange failed with an error that casts doubt on the version. -/
  | failed
  /-- An accepted submission names no task. -/
  | unidentified
  deriving DecidableEq

/-- The flag after an event, whatever it was before. -/
def NegotiationEvent.flag (_before : Bool) (event : NegotiationEvent) : Bool :=
  event = .succeeded

/-- Whether the last event was a successful negotiation. -/
theorem foldl_flag_iff (events : List NegotiationEvent) :
    events.foldl NegotiationEvent.flag false = true ↔
      events.getLast? = some .succeeded := by
  induction events using List.reverseRecOn with
  | nil => simp
  | append_singleton events event ih =>
      rw [List.foldl_append, List.getLast?_concat, Option.some.injEq]
      exact decide_eq_true_iff

/-- The calls of a native client. -/
inductive ClientOperation
  | capabilities
  | submit (session : UInt32) (request : Text)
  | logs (session task : UInt32)
  | keepalive (session : UInt32)
  | status

/-- The value that a successful call returns. -/
def ClientOperation.Value : ClientOperation → Type
  | .capabilities | .logs .. => Text
  | .submit .. => UInt32
  | .keepalive _ => Unit
  | .status => ServerStatus

section Codec

variable (json : JsonLibrary)

/-- Perform a call of a native client. -/
def ClientOperation.perform :
    (operation : ClientOperation) → ClientMethod operation.Value
  | .capabilities => RequestClient.capabilities json
  | .submit session request => RequestClient.submit json session request
  | .logs session task => RequestClient.logs json session task
  | .keepalive session => RequestClient.keepalive json session
  | .status => RequestClient.status json

/-- The events of a failed native exchange. -/
def failureEvents {α : Type} (outcome : Except RequestError α) :
    List NegotiationEvent :=
  match outcome with
  | .error error => if error.invalidatesNegotiation then [.failed] else []
  | .ok _ => []

/-- The events of an answered capabilities request. -/
def capabilitiesEvents (reply : Reply) : List NegotiationEvent :=
  match readApiReply (parseApiResponse json) reply with
  | .ok value =>
      if hasVersion (value.get "native") "schema_version" then [.succeeded]
      else [.failed]
  | .error error => failureEvents (.error error : Except RequestError Json)

/-- The events of an answered submission. -/
def submissionEvents (reply : Reply) : List NegotiationEvent :=
  match readApiReply (parseSubmissionResponse json) reply with
  | .ok response =>
      if (response.get "task_id").asU32.isSome then [] else [.unidentified]
  | .error error => failureEvents (.error error : Except RequestError Json)

/-- The events of an exchange, by the command of its document. -/
def exchangeEvents (event : Exchange) : List NegotiationEvent :=
  match event with
  | ⟨.api document, reply⟩ =>
      match (document.get "command").asString.map String.ofList with
      | some "capabilities" => capabilitiesEvents json reply
      | some "submit" => submissionEvents json reply
      | some "logs" | some "keepalive" =>
          failureEvents (readApiReply (parseApiResponse json) reply)
      | _ => []
  | _ => []

/-- A native request that is sent at all. -/
def isNativeRequest (request : Text) : Bool :=
  match json.parse request with
  | .error _ => false
  | .ok document => document.isObject && hasVersion document "schema_version"

/-- Whether a call starts a capabilities call. -/
def ClientOperation.negotiates (operation : ClientOperation) (negotiated : Bool) :
    Bool :=
  match operation with
  | .capabilities => true
  | .submit _ request => isNativeRequest json request && !negotiated
  | .logs .. | .keepalive _ | .status => false

/-- The events of a call that found the flag as given. -/
def ClientOperation.events (operation : ClientOperation) (negotiated : Bool)
    (trace : List Exchange) : List NegotiationEvent :=
  (if operation.negotiates json negotiated then [.started] else []) ++
    trace.flatMap (exchangeEvents json)

namespace RequestClient

variable {json : JsonLibrary} {before after : RequestClient}
variable {trace : List Exchange}

/-- A client on which some events have passed. -/
def observe (events : List NegotiationEvent) (client : RequestClient) :
    RequestClient :=
  client.setNegotiated (events.foldl NegotiationEvent.flag client.negotiated)

@[simp]
theorem observe_nil (client : RequestClient) : client.observe [] = client :=
  rfl

theorem observe_append (client : RequestClient)
    (first second : List NegotiationEvent) :
    client.observe (first ++ second) = (client.observe first).observe second := by
  unfold observe
  rw [List.foldl_append]
  rfl

theorem noteOutcome_eq_observe (outcome : Except RequestError Json) :
    noteOutcome outcome before = before.observe (failureEvents outcome) := by
  unfold noteOutcome failureEvents
  cases outcome with
  | ok value => rfl
  | error error =>
      dsimp only
      split <;> rfl

/-- A native call changes the client by the events of its failure only. -/
theorem executes_callWith_observe {document : Json}
    {parse : Text → Except RequestError Json} {result : Except RequestError Json}
    (executes : (callWith json document parse).Executes before trace result after) :
    (trace = [] ∧ (∃ error, result = .error error) ∧ after = before) ∨
      ∃ reply, trace = [⟨.api document, reply⟩] ∧
        result = readApiReply parse reply ∧
        after = before.observe (failureEvents result) := by
  rcases executes_callWith_noted executes with refused | ⟨reply, rfl, rfl, rfl⟩
  · exact .inl refused
  · exact .inr ⟨reply, rfl, rfl, noteOutcome_eq_observe _⟩

/-- A capabilities call changes the client by its events, and it succeeds only
with the flag set. -/
theorem executes_capabilities {result : Except RequestError Text}
    (executes : (capabilities json).Executes before trace result after) :
    after = before.observe (.started :: trace.flatMap (exchangeEvents json)) ∧
      ∀ value, result = .ok value → after.negotiated = true := by
  unfold capabilities call at executes
  rcases Method.executes_bind_iff.mp executes with ⟨error, rfl, failed⟩ |
    ⟨first, rest, _, middle, rfl, reset, called⟩
  · cases (Method.executes_modify_iff.mp failed).2.1
  obtain ⟨rfl, -, rfl⟩ := Method.executes_modify_iff.mp reset
  rw [List.nil_append]
  rcases Method.executes_bind_iff.mp called with ⟨error, rfl, failed⟩ |
    ⟨first, rest, value, middle, rfl, answered, judged⟩
  · refine ⟨?_, fun value impossible => by cases impossible⟩
    rcases executes_callWith_observe failed with ⟨rfl, -, rfl⟩ |
      ⟨reply, rfl, read, rfl⟩
    · rfl
    · have events : exchangeEvents json ⟨.api capabilitiesDocument, reply⟩ =
          failureEvents (.error error : Except RequestError Json) := by
        change capabilitiesEvents json reply = _
        rw [capabilitiesEvents, ← read]
      rw [List.flatMap_singleton, events]
      rfl
  · rcases executes_callWith_observe answered with ⟨-, ⟨_, impossible⟩, -⟩ |
      ⟨reply, rfl, read, rfl⟩
    · cases impossible
    have events : exchangeEvents json ⟨.api capabilitiesDocument, reply⟩ =
        if hasVersion (value.get "native") "schema_version" then [.succeeded]
        else [.failed] := by
      change capabilitiesEvents json reply = _
      rw [capabilitiesEvents, ← read]
    cases version : hasVersion (value.get "native") "schema_version" with
    | false =>
        rw [version] at judged events
        obtain ⟨rfl, rfl, rfl⟩ := Method.executes_throw_iff.mp judged
        refine ⟨?_, fun value impossible => by cases impossible⟩
        rw [List.append_nil, List.flatMap_singleton, events]
        rfl
    | true =>
        rw [version] at judged events
        rcases Method.executes_bind_iff.mp judged with ⟨error, rfl, failed⟩ |
          ⟨first, rest, _, middle, rfl, stored, returned⟩
        · cases (Method.executes_modify_iff.mp failed).2.1
        obtain ⟨rfl, -, rfl⟩ := Method.executes_modify_iff.mp stored
        obtain ⟨rfl, rfl, rfl⟩ := Method.executes_pure_iff.mp returned
        refine ⟨?_, fun value returned => rfl⟩
        rw [List.append_nil, List.append_nil, List.flatMap_singleton, events]
        rfl

/-- The negotiation in front of a submission succeeds only with the flag set. -/
theorem executes_ensureNegotiated {result : Except RequestError Unit}
    (executes : (ensureNegotiated json).Executes before trace result after) :
    after = before.observe ((if !before.negotiated then [.started] else []) ++
        trace.flatMap (exchangeEvents json)) ∧
      (result = .ok () → after.negotiated = true) := by
  unfold ensureNegotiated at executes
  rw [Method.executes_self_bind_iff] at executes
  cases set : before.negotiated with
  | true =>
      rw [set, if_pos rfl] at executes
      obtain ⟨rfl, rfl, rfl⟩ := Method.executes_pure_iff.mp executes
      exact ⟨rfl, fun _ => set⟩
  | false =>
      rw [set, if_neg Bool.false_ne_true] at executes
      rcases Method.executes_bind_iff.mp executes with ⟨error, rfl, failed⟩ |
        ⟨first, rest, value, middle, rfl, called, returned⟩
      · exact ⟨(executes_capabilities failed).1, fun impossible => by cases impossible⟩
      · obtain ⟨rfl, rfl, rfl⟩ := Method.executes_pure_iff.mp returned
        rw [List.append_nil]
        obtain ⟨observed, flagged⟩ := executes_capabilities called
        exact ⟨observed, fun _ => flagged value rfl⟩

/-- A submission is refused locally, or it fails to negotiate, or it is written
by a negotiated client. -/
theorem executes_submit_cases {session : UInt32} {request : Text}
    {result : Except RequestError UInt32}
    (executes : (submit json session request).Executes before trace result after) :
    (isNativeRequest json request = false ∧ trace = [] ∧ after = before) ∨
    (isNativeRequest json request = true ∧
      ∃ error, (ensureNegotiated json).Executes before trace (.error error) after) ∨
    (isNativeRequest json request = true ∧ ∃ negotiation rest client document,
      trace = negotiation ++ rest ∧
      (ensureNegotiated json).Executes before negotiation (.ok ()) client ∧
      (callWith json (submitDocument session document) (parseSubmissionResponse json)
        >>= submittedTask).Executes client rest result after) := by
  unfold submit at executes
  cases parsed : json.parse request with
  | error error =>
      simp only [parsed] at executes
      obtain ⟨rfl, rfl, rfl⟩ := Method.executes_throw_iff.mp executes
      exact .inl ⟨by rw [isNativeRequest, parsed], rfl, rfl⟩
  | ok document =>
      have native : isNativeRequest json request =
          (document.isObject && hasVersion document "schema_version") := by
        rw [isNativeRequest, parsed]
      simp only [parsed] at executes
      rw [← Bool.not_and, ← native] at executes
      cases accepted : isNativeRequest json request with
      | false =>
          rw [accepted] at executes
          obtain ⟨rfl, rfl, rfl⟩ := Method.executes_throw_iff.mp executes
          exact .inl ⟨rfl, rfl, rfl⟩
      | true =>
          rw [accepted] at executes
          rcases Method.executes_bind_iff.mp executes with ⟨error, rfl, failed⟩ |
            ⟨negotiation, rest, _, client, rfl, negotiated, sent⟩
          · exact .inr (.inl ⟨rfl, error, failed⟩)
          · exact .inr (.inr
              ⟨rfl, negotiation, rest, client, document, rfl, negotiated, sent⟩)

/-- A written submission changes the client by its events. -/
theorem executes_submission {session : UInt32} {document : Json}
    {result : Except RequestError UInt32}
    (executes : (callWith json (submitDocument session document)
      (parseSubmissionResponse json) >>= submittedTask).Executes
        before trace result after) :
    after = before.observe (trace.flatMap (exchangeEvents json)) ∧
      ∀ event ∈ trace, trace = [event] := by
  rcases Method.executes_bind_iff.mp executes with ⟨error, rfl, failed⟩ |
    ⟨first, rest, response, middle, rfl, answered, named⟩
  · rcases executes_callWith_observe failed with ⟨rfl, -, rfl⟩ |
      ⟨reply, rfl, read, rfl⟩
    · exact ⟨rfl, by simp⟩
    · have events : exchangeEvents json ⟨.api (submitDocument session document), reply⟩ =
          failureEvents (.error error : Except RequestError Json) := by
        change submissionEvents json reply = _
        rw [submissionEvents, ← read]
      refine ⟨?_, by simp⟩
      rw [List.flatMap_singleton, events]
  · rcases executes_callWith_observe answered with ⟨-, ⟨_, impossible⟩, -⟩ |
      ⟨reply, rfl, read, rfl⟩
    · cases impossible
    have events : exchangeEvents json ⟨.api (submitDocument session document), reply⟩ =
        if (response.get "task_id").asU32.isSome then [] else [.unidentified] := by
      change submissionEvents json reply = _
      rw [submissionEvents, ← read]
    unfold submittedTask at named
    cases identified : (response.get "task_id").asU32 with
    | some id =>
        rw [identified] at named events
        obtain ⟨rfl, rfl, rfl⟩ := Method.executes_pure_iff.mp named
        refine ⟨?_, by simp⟩
        rw [List.append_nil, List.flatMap_singleton, events]
        rfl
    | none =>
        rw [identified] at named events
        rcases Method.executes_bind_iff.mp named with ⟨error, rfl, failed⟩ |
          ⟨first, rest, _, middle, rfl, reset, thrown⟩
        · cases (Method.executes_modify_iff.mp failed).2.1
        obtain ⟨rfl, -, rfl⟩ := Method.executes_modify_iff.mp reset
        obtain ⟨rfl, rfl, rfl⟩ := Method.executes_throw_iff.mp thrown
        refine ⟨?_, by simp⟩
        rw [List.append_nil, List.append_nil, List.flatMap_singleton, events]
        rfl

theorem negotiates_submit (session : UInt32) (request : Text) (negotiated : Bool) :
    (ClientOperation.submit session request).negotiates json negotiated =
      (isNativeRequest json request && !negotiated) :=
  rfl

/-- A submission changes the client by its events. -/
theorem executes_submit_observe {session : UInt32} {request : Text}
    {result : Except RequestError UInt32}
    (executes : (submit json session request).Executes before trace result after) :
    after = before.observe ((ClientOperation.submit session request).events json
      before.negotiated trace) := by
  have events (accepted : isNativeRequest json request = true) :
      (ClientOperation.submit session request).events json before.negotiated trace =
        (if !before.negotiated then [.started] else []) ++
          trace.flatMap (exchangeEvents json) := by
    rw [ClientOperation.events, negotiates_submit, accepted, Bool.true_and]
  rcases executes_submit_cases executes with ⟨refused, rfl, rfl⟩ |
    ⟨accepted, error, failed⟩ |
    ⟨accepted, negotiation, rest, client, document, rfl, negotiated, sent⟩
  · rw [ClientOperation.events, negotiates_submit, refused]
    rfl
  · rw [events accepted]
    exact (executes_ensureNegotiated failed).1
  · rw [events accepted, List.flatMap_append, ← List.append_assoc, observe_append,
      ← (executes_ensureNegotiated negotiated).1]
    exact (executes_submission sent).1

/-- Diagnostics and keepalives are native calls whose value is only translated. -/
theorem executes_call_map {α : Type} {document : Json} {translate : Json → α}
    {result : Except RequestError α}
    (classified : ∀ reply, exchangeEvents json ⟨.api document, reply⟩ =
      failureEvents (readApiReply (parseApiResponse json) reply))
    (executes : (call json document >>= fun value => pure (translate value)).Executes
      before trace result after) :
    after = before.observe (trace.flatMap (exchangeEvents json)) := by
  unfold call at executes
  have called : ∃ outcome, (callWith json document (parseApiResponse json)).Executes
      before trace outcome after := by
    rcases Method.executes_bind_iff.mp executes with ⟨error, rfl, failed⟩ |
      ⟨first, rest, value, middle, rfl, answered, returned⟩
    · exact ⟨_, failed⟩
    · obtain ⟨rfl, -, rfl⟩ := Method.executes_pure_iff.mp returned
      rw [List.append_nil]
      exact ⟨_, answered⟩
  obtain ⟨outcome, called⟩ := called
  rcases executes_callWith_observe called with ⟨rfl, -, rfl⟩ | ⟨reply, rfl, rfl, rfl⟩
  · rfl
  · rw [List.flatMap_singleton, classified]

/-- A status call changes nothing and has no events. -/
theorem executes_status {result : Except RequestError ServerStatus}
    (executes : (status json).Executes before trace result after) :
    after = before ∧ trace.flatMap (exchangeEvents json) = [] := by
  unfold status at executes
  obtain ⟨reply, rest, rfl, answered⟩ := Method.executes_question_bind_iff.mp executes
  cases reply with
  | error error =>
      obtain ⟨rfl, -, rfl⟩ := Method.executes_throw_iff.mp answered
      exact ⟨rfl, rfl⟩
  | ok line =>
      cases pings : allowsPing json line with
      | false =>
          simp only [pings, Bool.false_eq_true, if_false,
            Method.executes_ofExcept_iff] at answered
          obtain ⟨rfl, -, rfl⟩ := answered
          exact ⟨rfl, rfl⟩
      | true =>
          simp only [pings, if_true, Method.executes_question_bind_iff] at answered
          obtain ⟨reply, rest, rfl, pinged⟩ := answered
          cases reply with
          | error error =>
              obtain ⟨rfl, -, rfl⟩ := Method.executes_throw_iff.mp pinged
              exact ⟨rfl, rfl⟩
          | ok ping =>
              obtain ⟨rfl, -, rfl⟩ := Method.executes_ofExcept_iff.mp pinged
              exact ⟨rfl, rfl⟩

/-- Every call changes the client by its events only. -/
theorem executes_perform {operation : ClientOperation}
    {result : Except RequestError operation.Value}
    (executes : (operation.perform json).Executes before trace result after) :
    after = before.observe (operation.events json before.negotiated trace) := by
  cases operation with
  | capabilities => exact (executes_capabilities executes).1
  | submit session request => exact executes_submit_observe executes
  | logs session task => exact executes_call_map (fun _ => rfl) executes
  | keepalive session => exact executes_call_map (fun _ => rfl) executes
  | status =>
      obtain ⟨rfl, silent⟩ := executes_status executes
      rw [ClientOperation.events, silent]
      rfl

/-- An exchange wrote a submission, by a client whose flag was set. -/
def Written (json : JsonLibrary) (before : RequestClient) (trace : List Exchange)
    (event : Exchange) : Prop :=
  ∃ negotiation client session document outcome final, trace = negotiation ++ [event] ∧
    (ensureNegotiated json).Executes before negotiation (.ok ()) client ∧
    client.negotiated = true ∧
    (callWith json (submitDocument session document)
      (parseSubmissionResponse json)).Executes client [event] outcome final

theorem written_of_submission {session : UInt32} {document : Json}
    {negotiation rest : List Exchange} {client : RequestClient}
    {result : Except RequestError UInt32}
    (negotiated : (ensureNegotiated json).Executes before negotiation (.ok ()) client)
    (executes : (callWith json (submitDocument session document)
      (parseSubmissionResponse json) >>= submittedTask).Executes
        client rest result after) :
    ∀ event ∈ rest, Written json before (negotiation ++ rest) event := by
  intro event member
  have single := (executes_submission executes).2 event member
  have set := (executes_ensureNegotiated negotiated).2 rfl
  have called : ∃ outcome final, (callWith json (submitDocument session document)
      (parseSubmissionResponse json)).Executes client rest outcome final := by
    rcases Method.executes_bind_iff.mp executes with ⟨error, rfl, failed⟩ |
      ⟨first, second, response, middle, rfl, answered, named⟩
    · exact ⟨_, _, failed⟩
    · have silent : second = [] := by
        unfold submittedTask at named
        split at named
        · exact (Method.executes_pure_iff.mp named).1
        · rcases Method.executes_bind_iff.mp named with ⟨error, rfl, failed⟩ |
            ⟨_, _, _, _, rfl, reset, thrown⟩
          · cases (Method.executes_modify_iff.mp failed).2.1
          · rw [(Method.executes_modify_iff.mp reset).1,
              (Method.executes_throw_iff.mp thrown).1]
            rfl
      rw [silent, List.append_nil]
      exact ⟨_, _, answered⟩
  obtain ⟨outcome, final, called⟩ := called
  rw [single] at called ⊢
  exact ⟨negotiation, client, session, document, outcome, final, rfl, negotiated, set,
    called⟩

/-- A call writes a submission only while the flag is set. -/
theorem written_of_perform {operation : ClientOperation}
    {result : Except RequestError operation.Value} {event : Exchange}
    (executes : (operation.perform json).Executes before trace result after)
    (member : event ∈ trace) (creates : event.1.createsTask = true) :
    Written json before trace event := by
  have harmless {document : Json} (sent : event.1 = .api document)
      (creationless : (Command.api document).createsTask = false) :
      Written json before trace event := by
    rw [sent, creationless] at creates
    cases creates
  cases operation with
  | capabilities =>
      have sent := emits_capabilities.event_of_executes executes event member
      exact harmless sent createsTask_capabilities
  | submit session request =>
      rcases executes_submit_cases executes with ⟨-, rfl, -⟩ | ⟨-, error, failed⟩ |
        ⟨-, negotiation, rest, client, document, rfl, negotiated, submission⟩
      · cases member
      · have sent := emits_ensureNegotiated.event_of_executes failed event member
        exact harmless sent createsTask_capabilities
      · rcases List.mem_append.mp member with inNegotiation | inRest
        · have sent := emits_ensureNegotiated.event_of_executes negotiated event
            inNegotiation
          exact harmless sent createsTask_capabilities
        · exact written_of_submission negotiated submission event inRest
  | logs session task =>
      have emits : (logs json session task).Emits fun event =>
          event.1 = .api (logsDocument session task) :=
        Method.Emits.bind emits_callWith fun _ => Method.emits_pure _
      exact harmless (emits.event_of_executes executes event member) (by rfl)
  | keepalive session =>
      have emits : (keepalive json session).Emits fun event =>
          event.1 = .api (keepaliveDocument session) :=
        Method.Emits.bind emits_callWith fun _ => Method.emits_pure _
      exact harmless (emits.event_of_executes executes event member) (by rfl)
  | status =>
      rw [creationless_status.event_of_executes executes event member] at creates
      cases creates

end RequestClient

/-- A client value: its socket and the address of its flag. -/
structure ClientHandle where
  socket : String
  negotiated : Nat

/-- The clones of a client and the flags they refer to. -/
structure ClientHandles where
  handles : List ClientHandle
  flags : Nat → Bool

/-- A call with the client that it found and everything it exchanged. -/
structure ClientCall where
  operation : ClientOperation
  before : RequestClient
  trace : List Exchange
  result : Except RequestError operation.Value

/-- What is done with clients: one is cloned, or one is called. -/
inductive ClientLabel
  | cloned
  | called (call : ClientCall)

/-- The events of a label. -/
def ClientLabel.events : ClientLabel → List NegotiationEvent
  | .cloned => []
  | .called call => call.operation.events json call.before.negotiated call.trace

namespace ClientHandles

/-- `Client::new`, with the flag at address zero. -/
def new (socket : String) : ClientHandles where
  handles := [⟨socket, 0⟩]
  flags _ := false

/-- The client behind a handle. -/
def client (clients : ClientHandles) (handle : ClientHandle) : RequestClient :=
  ⟨handle.socket, clients.flags handle.negotiated⟩

/-- Store the flag of a handle. -/
def store (clients : ClientHandles) (handle : ClientHandle) (negotiated : Bool) :
    ClientHandles :=
  { clients with flags := Function.update clients.flags handle.negotiated negotiated }

end ClientHandles

/-- One step of a program that holds clones of a client. -/
inductive ClientStep : ClientHandles → ClientLabel → ClientHandles → Prop
  | clone {clients : ClientHandles} {handle : ClientHandle}
      (held : handle ∈ clients.handles) :
      ClientStep clients .cloned
        { clients with handles := clients.handles ++ [handle] }
  | call {clients : ClientHandles} {handle : ClientHandle} {call : ClientCall}
      {after : RequestClient} (held : handle ∈ clients.handles)
      (found : call.before = clients.client handle)
      (executes : (call.operation.perform json).Executes call.before call.trace
        call.result after) :
      ClientStep clients (.called call) (clients.store handle after.negotiated)

section History

variable {json : JsonLibrary} {socket : String} {after : ClientHandles}
variable {labels : List ClientLabel}

/-- All handles are the first one, and its flag is the outcome of the events. -/
structure Shares (socket : String) (events : List NegotiationEvent)
    (clients : ClientHandles) : Prop where
  same : ∀ handle ∈ clients.handles, handle = ⟨socket, 0⟩
  flag : clients.flags 0 = events.foldl NegotiationEvent.flag false

theorem Shares.step {events : List NegotiationEvent} {clients next : ClientHandles}
    {label : ClientLabel} (shares : Shares socket events clients)
    (step : ClientStep json clients label next) :
    Shares socket (events ++ label.events json) next := by
  cases step with
  | @clone handle held =>
      refine ⟨?_, by simpa [ClientLabel.events] using shares.flag⟩
      intro other member
      rcases List.mem_append.mp member with old | new
      · exact shares.same other old
      · rw [List.mem_singleton.mp new]
        exact shares.same handle held
  | @call handle call after held found executes =>
      refine ⟨shares.same, ?_⟩
      obtain rfl := shares.same handle held
      have observed := RequestClient.executes_perform executes
      have start : call.before.negotiated = events.foldl NegotiationEvent.flag false := by
        rw [found]
        exact shares.flag
      calc
        Function.update clients.flags 0 after.negotiated 0 = after.negotiated :=
          Function.update_self ..
        _ = (call.operation.events json call.before.negotiated call.trace).foldl
              NegotiationEvent.flag call.before.negotiated := by
          rw [observed]
          rfl
        _ = _ := by
          rw [List.foldl_append, ← start]
          rfl

theorem shares_of_history
    (history : History (ClientStep json) (.new socket) labels after) :
    Shares socket (labels.flatMap (ClientLabel.events json)) after := by
  refine history.invariant
    (fun past clients => Shares socket (past.flatMap (ClientLabel.events json)) clients)
    ⟨by simp [ClientHandles.new], rfl⟩ fun _ shares step => ?_
  rw [List.flatMap_append, List.flatMap_singleton]
  exact shares.step step

/-- Every call of a history is the execution of its operation. -/
theorem executes_of_history {call : ClientCall}
    (history : History (ClientStep json) (.new socket) labels after)
    (member : .called call ∈ labels) :
    ∃ final, (call.operation.perform json).Executes call.before call.trace
      call.result final := by
  obtain ⟨past, future, rfl⟩ := List.append_of_mem member
  obtain ⟨clients, -, rest⟩ := history.split
  cases rest with
  | cons step later =>
      cases step with
      | call held found executes => exact ⟨_, executes⟩

/-- In every history of calls on clones of one client, the flag is set exactly
when the last event was a successful negotiation, and a submission is written
only while it is set. -/
theorem negotiated_iff_of_history
    (history : History (ClientStep json) (.new socket) labels after) :
    (∀ handle ∈ after.handles, (after.client handle).negotiated = true ↔
      (labels.flatMap (ClientLabel.events json)).getLast? = some .succeeded) ∧
    ∀ call, .called call ∈ labels → ∀ event ∈ call.trace,
      event.1.createsTask = true →
        RequestClient.Written json call.before call.trace event := by
  constructor
  · intro handle held
    have shares := shares_of_history history
    rw [shares.same handle held, ← foldl_flag_iff, ← shares.flag]
    rfl
  · intro call called event member creates
    obtain ⟨final, executes⟩ := executes_of_history history called
    exact RequestClient.written_of_perform executes member creates

end History

end Codec

namespace Renegotiation

/-- A native request without any content. -/
def request : Json :=
  .object [Json.unsignedMember "schema_version" 2]

/-- The reply of a server with native schema version 2. -/
def catalog : Json :=
  .object [Json.unsignedMember "version" 2, ("ok".toList, .bool true),
    ("native".toList, request)]

def json : JsonLibrary :=
  .ofTable [request, catalog]

def trace : List Exchange :=
  [⟨.api capabilitiesDocument, .ok ("OK ".toList ++ catalog.render)⟩,
    ⟨.api (submitDocument 7 request), .error "broken pipe"⟩]

/-- A submission that negotiates and then loses its connection. -/
def call : ClientCall where
  operation := .submit 7 request.render
  before := ⟨"/run/maestro.sock", false⟩
  trace := trace
  result := .error (.new "transport" "broken pipe")

def labels : List ClientLabel :=
  [.cloned, .called call]

def final : ClientHandles where
  handles := [⟨"/run/maestro.sock", 0⟩, ⟨"/run/maestro.sock", 0⟩]
  flags := Function.update (fun _ => false) 0 false

theorem executes :
    (call.operation.perform json).Executes call.before call.trace call.result
      call.before :=
  .ask (.ask (.done _))

theorem history :
    History (ClientStep json) (.new "/run/maestro.sock") labels final :=
  .cons (.clone (.head _)) (.cons (.call (.head _) rfl executes) (.nil _))

end Renegotiation

theorem negotiated_iff_of_history_lost :
    (∀ handle ∈ Renegotiation.final.handles,
      (Renegotiation.final.client handle).negotiated = true ↔
        (Renegotiation.labels.flatMap
          (ClientLabel.events Renegotiation.json)).getLast? = some .succeeded) ∧
    ∀ call, .called call ∈ Renegotiation.labels → ∀ event ∈ call.trace,
      event.1.createsTask = true →
        RequestClient.Written Renegotiation.json call.before call.trace event :=
  negotiated_iff_of_history Renegotiation.history

end Maestro
