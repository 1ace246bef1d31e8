import Qrmi.InteractionHistory
import Qrmi.QuantumComputeService

/-!
# The session that an instance holds

`acquire` stores the session that it returns, `release` forgets it, and
`task_start` submits into the stored session.  A run of these operations is
compared with the list of the sessions that were acquired and not released.
-/

open Interaction
open QuantumCompute

namespace IBMQuantumComputeService

open Method

/-- The service acknowledged that a session was cancelled or closed. -/
def acknowledgesClose (basePath session : Text) : WebEvent → Bool
  | ⟨.send request, reply⟩ =>
      (HttpReply.readUnit reply).isOk &&
        ((request.method = .delete &&
            request.url = basePath ++ (sessionPath session ++ "/close".toList)) ||
          (request.method = .patch && request.url = basePath ++ sessionPath session))
  | _ => false

/-- An event that closes no session. -/
def IsOpening (event : WebEvent) : Prop :=
  ∀ basePath session, acknowledgesClose basePath session event = false

theorem isOpening_of_method {request : HttpRequest} {reply : HttpReply}
    (opening : request.method = .get ∨ request.method = .post) :
    IsOpening ⟨.send request, reply⟩ := by
  intro basePath session
  rcases opening with get | post
  · simp [acknowledgesClose, get]
  · simp [acknowledgesClose, post]

theorem isOpening_of_refused {request : HttpRequest} {reply : HttpReply}
    {error : ApiError} (refused : reply.readUnit = .error error) :
    IsOpening ⟨.send request, reply⟩ := by
  intro basePath session
  simp [acknowledgesClose, refused, Except.isOk, Except.toBool]

/-- The part of an instance that sessions are about. -/
structure SameSession (before after : IBMQuantumComputeService) : Prop where
  sessionId : after.sessionId = before.sessionId
  basePath : after.config.basePath = before.config.basePath

theorem SameSession.refl (service : IBMQuantumComputeService) :
    SameSession service service :=
  ⟨rfl, rfl⟩

theorem SameSession.trans {first second third : IBMQuantumComputeService}
    (before : SameSession first second) (after : SameSession second third) :
    SameSession first third :=
  ⟨after.sessionId.trans before.sessionId, after.basePath.trans before.basePath⟩

/-- The method neither changes the held session nor closes any. -/
def LeavesSessions {α : Type} (method : ComputeMethod α) : Prop :=
  ∀ before trace result after, method.Executes before trace result after →
    SameSession before after ∧ ∀ event ∈ trace, IsOpening event

section Rules

variable {α β : Type} {codec : Codec}

/-- A call that only reads or creates. -/
theorem leavesSessions_call {kind : ResourceKind}
    {make : Configuration → HttpRequest}
    {readReply : HttpReply → Except ApiError α}
    (opening : ∀ config, (make config).method = .get ∨ (make config).method = .post) :
    LeavesSessions (call kind fun config => fetch (make config) readReply) := by
  intro before trace result after executes
  obtain ⟨⟨reply, rfl, -⟩, rfl⟩ := executes_request_fetch_iff.mp executes
  refine ⟨.refl _, fun event member => ?_⟩
  rw [List.mem_singleton.mp member]
  exact isOpening_of_method (opening _)

theorem leavesSessions_checkToken : LeavesSessions (checkToken codec) := by
  intro before trace result after executes
  obtain ⟨-, now, rest, rfl, ⟨-, rfl, rfl⟩ | ⟨url, form, reply, rfl, rfl⟩⟩ :=
    checkToken_cases codec executes
  · refine ⟨.refl _, fun event member => ?_⟩
    rw [List.mem_singleton.mp member]
    exact fun _ _ => rfl
  · constructor
    · rw [renewed]
      cases readTokenReply codec reply with
      | some granted => exact ⟨rfl, rfl⟩
      | none => exact .refl before
    · intro event member
      rcases List.mem_pair.mp member with rfl | rfl
      · exact fun _ _ => rfl
      · exact fun _ _ => rfl

end Rules

section Operations

variable {codec : Codec} {before after : IBMQuantumComputeService}
variable {trace : List WebEvent}

/-- What closing a session comes to. -/
def ClosesOrFails (acquisitionToken : Text) (before : IBMQuantumComputeService)
    (trace : List WebEvent) (result : Except QrmiError Unit)
    (after : IBMQuantumComputeService) : Prop :=
  after.config.basePath = before.config.basePath ∧
    ((∃ error, result = .error error ∧ after.sessionId = before.sessionId ∧
        ∀ event ∈ trace, IsOpening event) ∨
      (result = .ok () ∧ after.sessionId = none ∧
        trace.any (acknowledgesClose before.config.basePath acquisitionToken)))

/-- A method that closes a session, or fails before it did. -/
def Closes (acquisitionToken : Text) (method : ComputeMethod Unit) : Prop :=
  ∀ before trace result after, method.Executes before trace result after →
    ClosesOrFails acquisitionToken before trace result after

theorem Closes.of_bind {α : Type} {acquisitionToken : Text} {method : ComputeMethod α}
    {next : α → ComputeMethod Unit} (first : LeavesSessions method)
    (second : ∀ value, Closes acquisitionToken (next value)) :
    Closes acquisitionToken (method >>= next) := by
  intro before trace result after executes
  rcases executes_bind_iff.mp executes with ⟨error, rfl, failed⟩ |
    ⟨early, late, value, middle, rfl, ran, continued⟩
  · obtain ⟨same, opening⟩ := first _ _ _ _ failed
    exact ⟨same.basePath, .inl ⟨error, rfl, same.sessionId, opening⟩⟩
  · obtain ⟨same, opening⟩ := first _ _ _ _ ran
    obtain ⟨samePath, outcome⟩ := second value _ _ _ _ continued
    refine ⟨samePath.trans same.basePath, ?_⟩
    rcases outcome with ⟨error, rfl, kept, rest⟩ | ⟨rfl, cleared, acknowledged⟩
    · refine .inl ⟨error, rfl, kept.trans same.sessionId, fun event member => ?_⟩
      rcases List.mem_append.mp member with inEarly | inLate
      · exact opening event inEarly
      · exact rest event inLate
    · rw [same.basePath] at acknowledged
      exact .inr ⟨rfl, cleared, by rw [List.any_append, acknowledged, Bool.or_true]⟩

/-- The request that closes a session, and the update after it. -/
theorem closes_of_request {acquisitionToken : Text}
    {make : Configuration → HttpRequest}
    (closing : ∀ config reply, HttpReply.readUnit reply = .ok () →
      acknowledgesClose config.basePath acquisitionToken ⟨.send (make config), reply⟩) :
    Closes acquisitionToken
      (call .session (fun config => fetch (make config) HttpReply.readUnit) >>=
        fun _ => modify (withSession none)) := by
  intro before trace result after executes
  rcases executes_bind_iff.mp executes with ⟨error, rfl, failed⟩ |
    ⟨asked, _, value, middle, rfl, answered, stored⟩
  · obtain ⟨⟨reply, rfl, equal⟩, rfl⟩ := executes_request_fetch_iff.mp failed
    refine ⟨rfl, .inl ⟨error, rfl, rfl, fun event member => ?_⟩⟩
    rw [List.mem_singleton.mp member]
    cases read : HttpReply.readUnit reply with
    | error refusal => exact isOpening_of_refused read
    | ok acknowledged =>
        rw [read] at equal
        cases equal
  · obtain ⟨⟨reply, rfl, equal⟩, rfl⟩ := executes_request_fetch_iff.mp answered
    obtain ⟨rfl, rfl, rfl⟩ := executes_modify_iff.mp stored
    refine ⟨rfl, .inr ⟨rfl, rfl, ?_⟩⟩
    cases read : HttpReply.readUnit reply with
    | error refusal =>
        rw [read] at equal
        cases equal
    | ok acknowledged =>
        rw [List.append_nil, List.any_cons, closing _ reply read, Bool.true_or]

/-- Releasing a session fails and changes nothing, or it is acknowledged and the
instance holds no session afterwards, whichever it held before. -/
theorem closes_release {acquisitionToken : Text} :
    Closes acquisitionToken (release codec acquisitionToken) := by
  refine Closes.of_bind leavesSessions_checkToken fun _ => ?_
  refine Closes.of_bind (leavesSessions_call fun _ => .inl rfl) fun pending => ?_
  split
  · apply closes_of_request
    intro config reply read
    simp [acknowledgesClose, read, Except.isOk, Except.toBool, Configuration.request]
  · apply closes_of_request
    intro config reply read
    simp [acknowledgesClose, read, Except.isOk, Except.toBool, Configuration.request]

/-- Creating a session stores what it returns, or fails and changes nothing. -/
theorem acquireNew_cases {result : Except QrmiError Text}
    (executes : (acquireNew codec).Executes before trace result after) :
    (∀ event ∈ trace, IsOpening event) ∧
      after.config.basePath = before.config.basePath ∧
      ((∃ error, result = .error error ∧ after.sessionId = before.sessionId) ∨
        ∃ id, result = .ok id ∧ after.sessionId = some id) := by
  rw [acquireNew, executes_self_bind_iff] at executes
  rcases executes_bind_iff.mp executes with ⟨error, rfl, failed⟩ |
    ⟨_, rest, mode, middle, rfl, checked, creating⟩
  · obtain ⟨rfl, -, rfl⟩ := executes_ofExcept_iff.mp failed
    exact ⟨List.forall_mem_nil _, rfl, .inl ⟨error, rfl, rfl⟩⟩
  obtain ⟨rfl, -, rfl⟩ := executes_ofExcept_iff.mp checked
  rw [List.nil_append]
  have opening : LeavesSessions (call .session fun config =>
      createSession codec config (sessionRequest middle mode)) :=
    leavesSessions_call fun _ => .inr rfl
  rcases executes_bind_iff.mp creating with ⟨error, rfl, failed⟩ |
    ⟨asked, _, session, current, rfl, created, storing⟩
  · obtain ⟨same, silent⟩ := opening _ _ _ _ failed
    exact ⟨silent, same.basePath, .inl ⟨error, rfl, same.sessionId⟩⟩
  obtain ⟨same, silent⟩ := opening _ _ _ _ created
  rcases executes_bind_iff.mp storing with ⟨error, -, failed⟩ |
    ⟨_, _, stored, _, rfl, stores, returned⟩
  · obtain ⟨-, equal, -⟩ := executes_modify_iff.mp failed
    cases equal
  obtain ⟨rfl, -, rfl⟩ := executes_modify_iff.mp stores
  obtain ⟨rfl, rfl, rfl⟩ := executes_pure_iff.mp returned
  simp only [List.append_nil]
  exact ⟨silent, same.basePath, .inr ⟨session.id, rfl, rfl⟩⟩

/-- What acquiring a session comes to.  A session that was held before is the one
returned, or it was closed. -/
def AcquiresOrFails (before : IBMQuantumComputeService) (trace : List WebEvent)
    (result : Except QrmiError Text) (after : IBMQuantumComputeService) : Prop :=
  let closed := fun held =>
    trace.any (acknowledgesClose before.config.basePath held) = true
  (∃ id, result = .ok id ∧ after.sessionId = some id ∧
      ∀ held, before.sessionId = some held → held = id ∨ closed held) ∨
    (∃ error, result = .error error ∧
      ((after.sessionId = before.sessionId ∧ ∀ event ∈ trace, IsOpening event) ∨
        (after.sessionId = none ∧ ∀ held, before.sessionId = some held → closed held)))

/-- Replacing a held session closes it first. -/
theorem replaceSession_cases {existing : Text} {result : Except QrmiError Text}
    (held : before.sessionId = some existing)
    (executes : (release codec existing >>= fun _ => acquireNew codec).Executes
      before trace result after) :
    after.config.basePath = before.config.basePath ∧
      AcquiresOrFails before trace result after := by
  rcases executes_bind_iff.mp executes with ⟨error, rfl, failed⟩ |
    ⟨closing, creating, _, middle, rfl, closed, created⟩
  · obtain ⟨samePath, ⟨_, -, kept, opening⟩ | ⟨equal, -⟩⟩ :=
      closes_release _ _ _ _ failed
    · exact ⟨samePath, .inr ⟨error, rfl, .inl ⟨kept, opening⟩⟩⟩
    · cases equal
  · obtain ⟨samePath, ⟨_, equal, -⟩ | ⟨-, cleared, acknowledged⟩⟩ :=
      closes_release _ _ _ _ closed
    · cases equal
    have closesHeld : ∀ other, before.sessionId = some other →
        (closing ++ creating).any
          (acknowledgesClose before.config.basePath other) = true := by
      intro other same
      rw [held] at same
      cases same
      rw [List.any_append, acknowledged, Bool.true_or]
    obtain ⟨-, newPath, ⟨error, rfl, kept⟩ | ⟨id, rfl, stored⟩⟩ :=
      acquireNew_cases created
    · refine ⟨newPath.trans samePath, .inr ⟨error, rfl, .inr ⟨?_, closesHeld⟩⟩⟩
      exact kept.trans cleared
    · exact ⟨newPath.trans samePath,
        .inl ⟨id, rfl, stored, fun other same => .inr (closesHeld other same)⟩⟩

/-- A silent step in front changes nothing. -/
theorem AcquiresOrFails.append {middle : IBMQuantumComputeService}
    {early late : List WebEvent} {result : Except QrmiError Text}
    (same : SameSession before middle) (opening : ∀ event ∈ early, IsOpening event)
    (outcome : AcquiresOrFails middle late result after) :
    AcquiresOrFails before (early ++ late) result after := by
  have later : ∀ held,
      late.any (acknowledgesClose middle.config.basePath held) = true →
        (early ++ late).any (acknowledgesClose before.config.basePath held) = true := by
    intro held closed
    rw [same.basePath] at closed
    rw [List.any_append, closed, Bool.or_true]
  rw [AcquiresOrFails, same.sessionId] at outcome
  rcases outcome with ⟨id, rfl, stored, replaced⟩ |
    ⟨error, rfl, ⟨kept, silent⟩ | ⟨cleared, closed⟩⟩
  · exact .inl ⟨id, rfl, stored,
      fun held holds => (replaced held holds).imp_right (later held)⟩
  · refine .inr ⟨error, rfl, .inl ⟨kept, fun event member => ?_⟩⟩
    rcases List.mem_append.mp member with inEarly | inLate
    · exact opening event inEarly
    · exact silent event inLate
  · exact .inr ⟨error, rfl, .inr ⟨cleared, fun held holds =>
      later held (closed held holds)⟩⟩

theorem acquire_cases {result : Except QrmiError Text}
    (executes : (acquire codec).Executes before trace result after) :
    after.config.basePath = before.config.basePath ∧
      AcquiresOrFails before trace result after := by
  rcases executes_bind_iff.mp executes with ⟨error, -, failed⟩ |
    ⟨checking, rest, _, middle, rfl, checked, continued⟩
  · obtain ⟨equal, -⟩ := checkToken_cases codec failed
    cases equal
  obtain ⟨same, opening⟩ := leavesSessions_checkToken _ _ _ _ checked
  rw [executes_self_bind_iff] at continued
  suffices outcome : after.config.basePath = middle.config.basePath ∧
      AcquiresOrFails middle rest result after from
    ⟨outcome.1.trans same.basePath, outcome.2.append same opening⟩
  cases held : middle.sessionId with
  | none =>
      rw [held] at continued
      obtain ⟨silent, samePath, ⟨error, rfl, kept⟩ | ⟨id, rfl, stored⟩⟩ :=
        acquireNew_cases continued
      · exact ⟨samePath, .inr ⟨error, rfl, .inl ⟨kept, silent⟩⟩⟩
      · refine ⟨samePath, .inl ⟨id, rfl, stored, fun other holds => ?_⟩⟩
        rw [held] at holds
        cases holds
  | some existing =>
      rw [held] at continued
      have looking : LeavesSessions (call .session fun config =>
          getSession codec config none existing) :=
        leavesSessions_call fun _ => .inl rfl
      rcases executes_bind_iff.mp continued with ⟨error, rfl, failed⟩ |
        ⟨asking, deciding, session, current, rfl, asked, decided⟩
      · obtain ⟨kept, silent⟩ := looking _ _ _ _ failed
        exact ⟨kept.basePath, .inr ⟨error, rfl, .inl ⟨kept.sessionId, silent⟩⟩⟩
      obtain ⟨kept, silent⟩ := looking _ _ _ _ asked
      suffices outcome : after.config.basePath = current.config.basePath ∧
          AcquiresOrFails current deciding result after from
        ⟨outcome.1.trans kept.basePath, outcome.2.append kept silent⟩
      have stillHeld : current.sessionId = some existing := kept.sessionId.trans held
      split at decided
      · obtain ⟨rfl, rfl, rfl⟩ := executes_pure_iff.mp decided
        refine ⟨rfl, .inl ⟨existing, rfl, stillHeld, fun other holds => ?_⟩⟩
        rw [stillHeld] at holds
        cases holds
        exact .inl rfl
      · exact replaceSession_cases stillHeld decided

/-- The session that a submission names. -/
theorem jobRequest_session (service : IBMQuantumComputeService) (program : Text)
    (params : Json) :
    ((jobRequest service program params).get "session_id").asString =
      service.sessionId := by
  obtain ⟨_, _, sessionId, calibrationId, timeoutSecs, _, _, _, _, _, _⟩ := service
  cases timeoutSecs with
  | none =>
      cases sessionId with
      | some id => rfl
      | none =>
          cases calibrationId with
          | none => rfl
          | some id => rfl
  | some cost =>
      cases sessionId with
      | some id => rfl
      | none =>
          cases calibrationId with
          | none => rfl
          | some id => rfl

/-- Starting a task leaves the sessions alone and submits into the held one. -/
theorem taskStart_cases {payload : Payload} {result : Except QrmiError Text}
    (executes : (taskStart codec payload).Executes before trace result after) :
    SameSession before after ∧ (∀ event ∈ trace, IsOpening event) ∧
      ∀ request reply, ⟨.send request, reply⟩ ∈ trace →
        ∃ body, request.body = some body ∧
          (body.get "session_id").asString = before.sessionId := by
  rcases executes_bind_iff.mp executes with ⟨error, -, failed⟩ |
    ⟨checking, rest, _, middle, rfl, checked, continued⟩
  · obtain ⟨equal, -⟩ := checkToken_cases codec failed
    cases equal
  obtain ⟨same, opening⟩ := leavesSessions_checkToken _ _ _ _ checked
  have noRequest : ∀ request reply, ⟨.send request, reply⟩ ∉ checking := by
    intro request reply member
    obtain ⟨-, now, renewal, rfl, ⟨-, rfl, -⟩ | ⟨url, form, granted, rfl, -⟩⟩ :=
      checkToken_cases codec checked
    · simp at member
    · simp at member
  suffices submitted : SameSession middle after ∧ (∀ event ∈ rest, IsOpening event) ∧
      ∀ request reply, ⟨.send request, reply⟩ ∈ rest →
        ∃ body, request.body = some body ∧
          (body.get "session_id").asString = middle.sessionId by
    obtain ⟨kept, silent, names⟩ := submitted
    refine ⟨same.trans kept, fun event member => ?_, fun request reply member => ?_⟩
    · rcases List.mem_append.mp member with inChecking | inRest
      · exact opening event inChecking
      · exact silent event inRest
    · rcases List.mem_append.mp member with inChecking | inRest
      · exact absurd inChecking (noRequest request reply)
      · rw [← same.sessionId]
        exact names request reply inRest
  cases payload with
  | pasqalCloud | aliceBobFelis | iqmServer | oqtopus | maestroLocal =>
      obtain ⟨rfl, -, rfl⟩ := executes_throw_iff.mp continued
      exact ⟨.refl _, List.forall_mem_nil _, fun _ _ member => by cases member⟩
  | qiskitPrimitive input programId =>
      rcases executes_bind_iff.mp continued with ⟨error, rfl, failed⟩ |
        ⟨_, sending, params, current, rfl, read, submitting⟩
      · obtain ⟨rfl, -, rfl⟩ := executes_ofExcept_iff.mp failed
        exact ⟨.refl _, List.forall_mem_nil _, fun _ _ member => by cases member⟩
      obtain ⟨rfl, -, rfl⟩ := executes_ofExcept_iff.mp read
      rw [executes_self_bind_iff] at submitting
      obtain ⟨⟨reply, rfl, -⟩, rfl⟩ := executes_request_fetch_iff.mp submitting
      refine ⟨.refl _, fun event member => ?_, fun request answer member => ?_⟩
      · rw [List.nil_append, List.mem_singleton] at member
        rw [member]
        exact isOpening_of_method (.inr rfl)
      · rw [List.nil_append, List.mem_singleton] at member
        cases member
        exact ⟨_, rfl, jobRequest_session _ programId params⟩

end Operations

/-- The operations that the session is about. -/
inductive SessionOperation
  | acquire
  | release (acquisitionToken : Text)
  | taskStart (payload : Payload)

def SessionOperation.Value : SessionOperation → Type
  | acquire | taskStart _ => Text
  | release _ => Unit

def performSession (codec : Codec) :
    (operation : SessionOperation) → ComputeMethod operation.Value
  | .acquire => acquire codec
  | .release acquisitionToken => release codec acquisitionToken
  | .taskStart payload => taskStart codec payload

/-- One call with everything that happened in it. -/
structure SessionCall where
  operation : SessionOperation
  before : IBMQuantumComputeService
  trace : List WebEvent
  result : Except QrmiError operation.Value
  after : IBMQuantumComputeService

def SessionStep (codec : Codec) (before : IBMQuantumComputeService)
    (call : SessionCall) (after : IBMQuantumComputeService) : Prop :=
  call.before = before ∧ call.after = after ∧
    (performSession codec call.operation).Executes before call.trace call.result after

/-- What a call may do to the held session: acquiring stores what it returns, a
successful release clears the session that it names, and nothing else changes
it. -/
def KeepsSession : SessionCall → Prop
  | ⟨.acquire, _, _, result, after⟩ =>
      ∀ id, result = .ok id → after.sessionId = some id
  | ⟨.release acquisitionToken, before, _, result, after⟩ =>
      after.sessionId =
        if result.isOk ∧ before.sessionId = some acquisitionToken then none
        else before.sessionId
  | ⟨.taskStart _, before, _, _, after⟩ => after.sessionId = before.sessionId

/-- While a session is held, the service does not close another one for a
release. -/
def SparesSession (call : SessionCall) : Prop :=
  ∀ acquisitionToken held, call.operation = .release acquisitionToken →
    call.before.sessionId = some held → held ≠ acquisitionToken →
      call.trace.any
        (acknowledgesClose call.before.config.basePath acquisitionToken) = false

/-- The session that a call acquired. -/
def acquiredId : SessionCall → Option Text
  | ⟨.acquire, _, _, .ok id, _⟩ => some id
  | _ => none

/-- The sessions that are acquired and not released after a call, the most recent
one first. -/
def liveAfter (live : List Text) (call : SessionCall) : List Text :=
  let kept := live.filter fun session =>
    !call.trace.any (acknowledgesClose call.before.config.basePath session)
  match acquiredId call with
  | some id => id :: kept.filter (· ≠ id)
  | none => kept

def liveSessions (live : List Text) (calls : List SessionCall) : List Text :=
  calls.foldl liveAfter live

/-- Every submission of the call names the given session. -/
def StartsIn (session : Option Text) (call : SessionCall) : Prop :=
  ∀ payload, call.operation = .taskStart payload →
    ∀ request reply, ⟨.send request, reply⟩ ∈ call.trace →
      ∃ body, request.body = some body ∧
        (body.get "session_id").asString = session

section Histories

variable {codec : Codec} {before after service final : IBMQuantumComputeService}
variable {call : SessionCall} {calls : List SessionCall}

/-- Events that close nothing acknowledge no closing. -/
theorem any_of_opening {basePath session : Text} {trace : List WebEvent}
    (opening : ∀ event ∈ trace, IsOpening event) :
    trace.any (acknowledgesClose basePath session) = false := by
  rw [List.any_eq_false]
  intro event member
  rw [opening event member]
  exact Bool.false_ne_true

theorem keepsSession_iff (step : SessionStep codec before call after) :
    KeepsSession call ↔ SparesSession call := by
  obtain ⟨operation, start, trace, result, stop⟩ := call
  obtain ⟨rfl, rfl, executes⟩ := step
  dsimp only at executes
  cases operation with
  | acquire =>
      refine iff_of_true (fun id equal => ?_) fun token held named => nomatch named
      obtain ⟨-, ⟨other, rfl, stored, -⟩ | ⟨error, rfl, -⟩⟩ := acquire_cases executes
      · cases equal
        exact stored
      · cases equal
  | taskStart payload =>
      refine iff_of_true ?_ fun token held named => nomatch named
      exact (taskStart_cases executes).1.sessionId
  | release acquisitionToken =>
      obtain ⟨-, ⟨error, rfl, kept, opening⟩ | ⟨rfl, cleared, acknowledged⟩⟩ :=
        closes_release _ _ _ _ executes
      · exact iff_of_true kept fun token held _ _ _ => any_of_opening opening
      · constructor
        · intro keeps token held named holds differs
          cases named
          have other : start.sessionId ≠ some acquisitionToken := by
            rw [holds]
            exact fun equal => differs (Option.some.inj equal)
          have stays : stop.sessionId = start.sessionId :=
            keeps.trans (if_neg fun both => other both.2)
          rw [cleared, holds] at stays
          cases stays
        · intro spares
          refine cleared.trans ?_
          cases holds : start.sessionId with
          | none => exact (if_neg fun both => nomatch both.2).symm
          | some held =>
              by_cases same : held = acquisitionToken
              · exact (if_pos ⟨rfl, congrArg some same⟩).symm
              · have quiet := spares acquisitionToken held rfl holds same
                rw [acknowledged] at quiet
                cases quiet

/-- A call that spares the held session keeps the list of live sessions in step
with it. -/
theorem liveAfter_eq (step : SessionStep codec before call after)
    (spares : SparesSession call) :
    liveAfter before.sessionId.toList call = after.sessionId.toList := by
  obtain ⟨operation, start, trace, result, stop⟩ := call
  obtain ⟨rfl, rfl, executes⟩ := step
  dsimp only at executes
  have keepsAll : (∀ event ∈ trace, IsOpening event) →
      start.sessionId.toList.filter (fun session =>
        !trace.any (acknowledgesClose start.config.basePath session)) =
          start.sessionId.toList := by
    intro opening
    apply List.filter_eq_self.mpr
    intro session _
    rw [any_of_opening opening]
    rfl
  have dropsHeld : (∀ held, start.sessionId = some held →
        trace.any (acknowledgesClose start.config.basePath held) = true) →
      start.sessionId.toList.filter (fun session =>
        !trace.any (acknowledgesClose start.config.basePath session)) = [] := by
    intro closed
    apply List.filter_eq_nil_iff.mpr
    intro session member
    rw [closed session (Option.mem_toList.mp member)]
    exact Bool.false_ne_true
  cases operation with
  | acquire =>
      obtain ⟨-, ⟨id, rfl, stored, replaced⟩ |
        ⟨error, rfl, ⟨kept, opening⟩ | ⟨cleared, closed⟩⟩⟩ := acquire_cases executes
      · rw [stored]
        change id :: List.filter (· ≠ id) (List.filter _ start.sessionId.toList) = [id]
        rw [List.filter_filter]
        refine congrArg (id :: ·) (List.filter_eq_nil_iff.mpr fun held member => ?_)
        rcases replaced held (Option.mem_toList.mp member) with rfl | closed
        · simp
        · simp [closed]
      · rw [kept]
        exact keepsAll opening
      · rw [cleared]
        exact dropsHeld closed
  | taskStart payload =>
      obtain ⟨same, opening, -⟩ := taskStart_cases executes
      rw [same.sessionId]
      exact keepsAll opening
  | release acquisitionToken =>
      obtain ⟨-, ⟨error, rfl, kept, opening⟩ | ⟨rfl, cleared, acknowledged⟩⟩ :=
        closes_release _ _ _ _ executes
      · rw [kept]
        exact keepsAll opening
      · rw [cleared]
        refine dropsHeld fun held holds => ?_
        by_cases same : held = acquisitionToken
        · rw [same]
          exact acknowledged
        · have quiet := spares acquisitionToken held rfl holds same
          rw [acknowledged] at quiet
          cases quiet

/-- In a history that spares the held session, the instance holds the only live
session there is. -/
theorem liveSessions_eq (history : History (SessionStep codec) service calls final)
    (spares : ∀ call ∈ calls, SparesSession call) :
    liveSessions service.sessionId.toList calls = final.sessionId.toList := by
  induction history with
  | nil => rfl
  | cons step _ ih =>
      rw [liveSessions, List.foldl_cons,
        liveAfter_eq step (spares _ (List.mem_cons_self ..))]
      exact ih fun call member => spares call (List.mem_cons_of_mem _ member)

theorem startsIn_held (step : SessionStep codec before call after) :
    StartsIn before.sessionId call := by
  obtain ⟨operation, start, trace, result, stop⟩ := call
  obtain ⟨rfl, rfl, executes⟩ := step
  intro payload named
  cases named
  exact (taskStart_cases executes).2.2

/-- In every history, the calls treat the held session as they should exactly if
each of them spares it.  If they do, every task is started in the session that was
acquired last and is not released. -/
theorem sessions_kept_iff
    (history : History (SessionStep codec) service calls final) :
    ((∀ call ∈ calls, KeepsSession call) ↔ ∀ call ∈ calls, SparesSession call) ∧
      ((∀ call ∈ calls, SparesSession call) →
        ∀ earlier call later, calls = earlier ++ call :: later →
          StartsIn (liveSessions service.sessionId.toList earlier).head? call) := by
  constructor
  · induction history with
    | nil => exact iff_of_true (List.forall_mem_nil _) (List.forall_mem_nil _)
    | cons step _ ih => rw [List.forall_mem_cons, List.forall_mem_cons,
        keepsSession_iff step, ih]
  · rintro spares earlier call later rfl
    obtain ⟨middle, past, future⟩ := history.split
    cases future with
    | cons step rest =>
        have inStep := liveSessions_eq past fun other member =>
          spares other (List.mem_append_left _ member)
        rw [inStep, Option.head?_toList]
        exact startsIn_held step

end Histories

namespace Foreign

/-- Deserialisers that know the one reply of the run. -/
def codec : Codec where
  readJob _ := .error "expected value"
  readJobs := readDocument "\x7b\x7d".toList ⟨none⟩
  readCreatedJob _ := .error "expected value"
  readSession _ := .error "expected value"
  readBackendStatus _ := .error "expected value"
  readBackends _ := .error "expected value"
  readProperties _ := .error "expected value"
  readString _ := .error "expected value"
  readToken _ := .error "expected value"
  samplerInput _ := .error "expected value"
  estimatorInput _ := .error "expected value"
  noiseLearnerInput _ := .error "expected value"
  json := .ofTable [.object []]
  toLowercase text := text.map Char.toLower

/-- An instance that holds the session `a`. -/
def holding : IBMQuantumComputeService where
  config :=
    { Configuration.new with
      basePath := "https://qcs".toList
      bearerAccessToken := some "t".toList }
  backendName := "ibm".toList
  sessionId := some "a".toList
  calibrationId := none
  timeoutSecs := none
  sessionMode := "dedicated".toList
  sessionMaxTtl := 28800
  apiKey := "key".toList
  iamEndpoint := "https://iam".toList
  tokenExpiration := 3600
  tokenLifetime := 3600

def noJobs : HttpReply :=
  .ok ⟨⟨200, "OK"⟩, some "application/json".toList, .ok "\x7b\x7d".toList⟩

def noContent : HttpReply :=
  .ok ⟨⟨204, "No Content"⟩, none, .ok []⟩

/-- The session `b` is released, which another instance acquired. -/
def released : SessionCall where
  operation := .release "b".toList
  before := holding
  trace :=
    [⟨.now, (0 : Nat)⟩,
      ⟨.send (holding.config.request .get "/jobs".toList
        [("limit", none), ("offset", none), ("pending", some (showBool true)),
          ("backend", none), ("sort", none), ("session_id", some "b".toList),
          ("exclude_params", none)] none none), noJobs⟩,
      ⟨.send (holding.config.request .patch (sessionPath "b".toList) [] none
        (some (.object [("accepting_jobs".toList, .bool false)]))), noContent⟩]
  result := .ok ()
  after := holding.withSession none

/-- The task that is started next. -/
def started : SessionCall where
  operation := .taskStart (.qiskitPrimitive "\x7b\x7d".toList "executor".toList)
  before := holding.withSession none
  trace :=
    [⟨.now, (0 : Nat)⟩,
      ⟨.send (holding.config.request .post "/jobs".toList [] none
        (some (jobRequest (holding.withSession none) "executor".toList
          (.object [])))), .error "timeout"⟩]
  result := .error (.other "error in reqwest: timeout")
  after := holding.withSession none

theorem history :
    History (SessionStep codec) holding [released, started]
      (holding.withSession none) :=
  .cons ⟨rfl, rfl, .ask (.ask (.ask (.done _)))⟩
    (.cons ⟨rfl, rfl, .ask (.ask (.done _))⟩ (.nil _))

end Foreign

theorem sessions_kept_iff_foreign :
    ((∀ call ∈ [Foreign.released, Foreign.started], KeepsSession call) ↔
        ∀ call ∈ [Foreign.released, Foreign.started], SparesSession call) ∧
      ((∀ call ∈ [Foreign.released, Foreign.started], SparesSession call) →
        ∀ earlier call later,
          [Foreign.released, Foreign.started] = earlier ++ call :: later →
            StartsIn (liveSessions Foreign.holding.sessionId.toList earlier).head?
              call) :=
  sessions_kept_iff Foreign.history

/-- Releasing another session makes the instance forget the one that it holds, and
its next task is started outside of it. -/
theorem exists_forgotten_session :
    ∃ codec service calls final, History (SessionStep codec) service calls final ∧
      (∃ call ∈ calls, ¬ KeepsSession call) ∧
      ∃ earlier call later, calls = earlier ++ call :: later ∧
        ¬ StartsIn (liveSessions service.sessionId.toList earlier).head? call := by
  refine ⟨Foreign.codec, Foreign.holding, _, _, Foreign.history,
    ⟨Foreign.released, List.mem_cons_self .., fun keeps => ?_⟩,
    [Foreign.released], Foreign.started, [], rfl, fun starts => ?_⟩
  · have forgotten : (none : Option Text) = some "a".toList := keeps
    cases forgotten
  · obtain ⟨body, equal, names⟩ := starts _ rfl _ _
      (List.mem_cons_of_mem _ (List.mem_singleton_self _))
    cases equal
    have live : liveSessions Foreign.holding.sessionId.toList [Foreign.released] =
        ["a".toList] := by decide +kernel
    rw [jobRequest_session, live] at names
    cases names

end IBMQuantumComputeService
