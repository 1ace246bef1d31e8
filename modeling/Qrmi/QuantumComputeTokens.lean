import Qrmi.InteractionHistory
import Qrmi.InteractionServer
import Qrmi.QuantumComputeService

/-!
# Freshness of the tokens that the service sees

Every operation but one renews the token at its head.  The requests that follow
use the token that was held, or one that was granted in between, and this
survives the composition of methods.  Whether an operation sends a stale token
is therefore decided at its start.
-/

open Interaction
open QuantumCompute

namespace IBMQuantumComputeService

open Method

/-! ## Requests and the tokens they carry -/

def IsRequest : WebEvent → Prop
  | ⟨.send _, _⟩ => True
  | _ => False

def Carries : WebEvent → Text → Prop
  | ⟨.send request, _⟩, token => request.authorization = .bearer token
  | _, _ => False

/-- The identity service granted a token. -/
def Grants (codec : Codec) : WebEvent → Text → Prop
  | ⟨.postForm .., reply⟩, token =>
      ∃ granted, readTokenReply codec reply = some granted ∧
        granted.accessToken = token
  | _, _ => False

def GrantedIn (codec : Codec) (trace : List WebEvent) (token : Text) : Prop :=
  ∃ event ∈ trace, Grants codec event token

/-- The identity service answers every request with a token. -/
def AlwaysGrants (codec : Codec) (trace : List WebEvent) : Prop :=
  ∀ url form reply, ⟨.postForm url form, reply⟩ ∈ trace →
    (readTokenReply codec reply).isSome

/-- The tokens used along a trace are the held one or granted before their use,
and so is the token that is left. -/
structure Supplied (codec : Codec) (held : Option Text) (trace : List WebEvent)
    (left : Option Text) : Prop where
  uses : ∀ earlier event later, trace = earlier ++ event :: later →
    IsRequest event → ∃ token, Carries event token ∧
      (GrantedIn codec earlier token ∨ held = some token)
  leaves : ∃ token, left = some token ∧
    (GrantedIn codec trace token ∨ held = some token)

section Freshness

variable {codec : Codec} {held middle last : Option Text}
variable {trace first second : List WebEvent}

theorem GrantedIn.append_left {token : Text} (granted : GrantedIn codec second token) :
    GrantedIn codec (first ++ second) token := by
  obtain ⟨event, member, grants⟩ := granted
  exact ⟨event, List.mem_append_right _ member, grants⟩

theorem GrantedIn.append_right {token : Text} (granted : GrantedIn codec first token) :
    GrantedIn codec (first ++ second) token := by
  obtain ⟨event, member, grants⟩ := granted
  exact ⟨event, List.mem_append_left _ member, grants⟩

theorem AlwaysGrants.ofFirst (grants : AlwaysGrants codec (first ++ second)) :
    AlwaysGrants codec first :=
  fun url form reply member =>
    grants url form reply (List.mem_append_left _ member)

theorem AlwaysGrants.ofSecond (grants : AlwaysGrants codec (first ++ second)) :
    AlwaysGrants codec second :=
  fun url form reply member =>
    grants url form reply (List.mem_append_right _ member)

theorem Supplied.nil {token : Text} :
    Supplied codec (some token) [] (some token) where
  uses earlier event later equal := by simp at equal
  leaves := ⟨token, rfl, .inr rfl⟩

theorem Supplied.append (before : Supplied codec held first middle)
    (after : Supplied codec middle second last) :
    Supplied codec held (first ++ second) last := by
  have origin : ∀ token, middle = some token →
      GrantedIn codec first token ∨ held = some token := by
    intro token equal
    obtain ⟨other, otherHeld, source⟩ := before.leaves
    rw [equal] at otherHeld
    cases otherHeld
    exact source
  constructor
  · intro earlier event later equal request
    rcases List.append_eq_append_iff.mp equal with ⟨rest, rfl, split⟩ |
      ⟨rest, split, secondEqual⟩
    · obtain ⟨token, carries, source⟩ := after.uses rest event later split request
      refine ⟨token, carries, ?_⟩
      rcases source with granted | kept
      · exact .inl granted.append_left
      · exact (origin token kept).imp_left GrantedIn.append_right
    · cases rest with
      | nil =>
          rw [List.append_nil] at split
          subst split
          rw [List.nil_append] at secondEqual
          obtain ⟨token, carries, source⟩ :=
            after.uses [] event later secondEqual.symm request
          refine ⟨token, carries, ?_⟩
          rcases source with ⟨_, member, -⟩ | kept
          · cases member
          · exact origin token kept
      | cons head tail =>
          obtain ⟨rfl, rfl⟩ := List.cons.inj secondEqual
          exact before.uses earlier event tail split request
  · obtain ⟨token, leftHeld, source⟩ := after.leaves
    refine ⟨token, leftHeld, ?_⟩
    rcases source with granted | kept
    · exact .inl granted.append_left
    · exact (origin token kept).imp_left GrantedIn.append_right

/-! ## Programs of requests -/

/-- The event is a request with the token of the configuration, or a choice of
the scheduler. -/
def Bears (config : Configuration) : WebEvent → Prop
  | ⟨.send request, _⟩ => request.authorization =
      match config.bearerAccessToken with
      | some token => .bearer token
      | none => .absent
  | ⟨.overtake, _⟩ => True
  | _ => False

theorem bears_fetch {α : Type} {config : Configuration} {request : HttpRequest}
    {readReply : HttpReply → Except ApiError α}
    (authorized : request.authorization =
      match config.bearerAccessToken with
      | some token => .bearer token
      | none => .absent) :
    (fetch request readReply).Asks (Bears config) :=
  (Program.asks_question fun _ => authorized).bind fun _ => Program.asks_pure _

theorem bears_classified {α : Type} {config : Configuration}
    {classify : ApiError → QrmiError} {request : WebProgram (Except ApiError α)}
    (bears : request.Asks (Bears config)) :
    (classified classify request).Asks (Bears config) :=
  bears.bind fun _ => Program.asks_pure _

theorem bears_scanJobs (config : Configuration) (jobs : List JobResponse) :
    (scanJobs codec config jobs).Asks (Bears config) :=
  asks_scanJobs (fun _ => bears_fetch rfl) jobs

theorem bears_hasDedicatedActiveSession (config : Configuration)
    (backendName : Text) (offset : Nat) :
    (hasDedicatedActiveSession codec config backendName offset).Asks
      (Bears config) := by
  induction offset using hasDedicatedActiveSession.induct with
  | case1 offset ih =>
      rw [hasDedicatedActiveSession]
      refine (bears_classified (bears_fetch rfl)).tryThen fun page => ?_
      refine (bears_scanJobs config _).tryThen fun found => ?_
      split
      · exact Program.asks_pure _
      split
      · exact Program.asks_pure _
      split
      · exact Program.asks_pure _
      · exact ih (by assumption)

theorem bears_tryJoin {ε α β : Type} {config : Configuration}
    {request : HttpRequest} {readReply : HttpReply → Except ε α}
    {branch : WebProgram (Except ε β)}
    (authorized : request.authorization =
      match config.bearerAccessToken with
      | some token => .bearer token
      | none => .absent)
    (bears : branch.Asks (Bears config)) :
    (tryJoin request readReply branch).Asks (Bears config) := by
  induction branch with
  | done outcome =>
      cases outcome with
      | error error => trivial
      | ok value => exact fun reply => ⟨authorized, trivial⟩
  | pending => trivial
  | ask query next ih =>
      intro overtakes
      refine ⟨trivial, ?_⟩
      cases overtakes with
      | false => exact fun answer => ⟨(bears answer).1, ih answer (bears answer).2⟩
      | true =>
          refine fun reply => ⟨authorized, ?_⟩
          dsimp only
          cases readReply reply with
          | error error => trivial
          | ok value =>
              have returned : ∀ outcome : Except ε β,
                  (Program.done (outcome.map fun other => (value, other)) :
                    WebProgram (Except ε (α × β))).Asks (Bears config) :=
                fun _ => trivial
              exact Program.Asks.bind bears returned

/-! ## Methods -/

/-- Executed in the given state, the method uses and leaves only tokens that
were held or granted, provided that a token is held. -/
def SuppliesAt {α : Type} (codec : Codec) (before : IBMQuantumComputeService)
    (method : ComputeMethod α) : Prop :=
  ∀ trace result after, method.Executes before trace result after →
    AlwaysGrants codec trace → before.token.isSome →
      Supplied codec before.token trace after.token

section Rules

variable {α β : Type} {before : IBMQuantumComputeService}

theorem suppliesAt_of_unchanged {method : ComputeMethod α}
    (silent : ∀ trace result after, method.Executes before trace result after →
      trace = [] ∧ after.token = before.token) :
    SuppliesAt codec before method := by
  intro trace result after executes _ held
  obtain ⟨rfl, same⟩ := silent trace result after executes
  obtain ⟨token, equal⟩ := Option.isSome_iff_exists.mp held
  rw [same, equal]
  exact .nil

theorem suppliesAt_pure (value : α) :
    SuppliesAt codec before (pure value : ComputeMethod α) := by
  refine suppliesAt_of_unchanged fun trace result after executes => ?_
  obtain ⟨rfl, -, rfl⟩ := executes_pure_iff.mp executes
  exact ⟨rfl, rfl⟩

theorem suppliesAt_ofExcept (outcome : Except QrmiError α) :
    SuppliesAt codec before (ofExcept outcome : ComputeMethod α) := by
  refine suppliesAt_of_unchanged fun trace result after executes => ?_
  obtain ⟨rfl, -, rfl⟩ := executes_ofExcept_iff.mp executes
  exact ⟨rfl, rfl⟩

theorem suppliesAt_throw (error : QrmiError) :
    SuppliesAt codec before (throw error : ComputeMethod α) :=
  suppliesAt_ofExcept (.error error)

theorem suppliesAt_withSession (id : Option Text) :
    SuppliesAt codec before (modify (withSession id) : ComputeMethod Unit) := by
  refine suppliesAt_of_unchanged fun trace result after executes => ?_
  obtain ⟨rfl, -, rfl⟩ := executes_modify_iff.mp executes
  exact ⟨rfl, withSession_token id before⟩

theorem Supplied.isSome {trace : List WebEvent}
    (supplied : Supplied codec held trace last) : last.isSome := by
  obtain ⟨token, equal, -⟩ := supplied.leaves
  rw [equal]
  rfl

theorem SuppliesAt.bind {method : ComputeMethod α} {next : α → ComputeMethod β}
    (supplies : SuppliesAt codec before method)
    (continues : ∀ trace value after,
      method.Executes before trace (.ok value) after →
        SuppliesAt codec after (next value)) :
    SuppliesAt codec before (method >>= next) := by
  intro trace result after executes grants held
  rcases executes_bind_iff.mp executes with ⟨error, rfl, failed⟩ |
    ⟨first, second, value, middle, rfl, ran, continued⟩
  · exact supplies _ _ _ failed grants held
  · have begun := supplies _ _ _ ran grants.ofFirst held
    have ended := continues _ _ _ ran _ _ _ continued grants.ofSecond begun.isSome
    exact begun.append ended

theorem suppliesAt_self_bind {next : IBMQuantumComputeService → ComputeMethod β}
    (supplies : SuppliesAt codec before (next before)) :
    SuppliesAt codec before (self >>= next) := by
  intro trace result after executes
  exact supplies trace result after (executes_self_bind_iff.mp executes)

theorem supplied_of_bears {config : Configuration} {token : Text}
    (held : config.bearerAccessToken = some token) {trace : List WebEvent}
    (bears : ∀ event ∈ trace, Bears config event) :
    Supplied codec (some token) trace (some token) where
  uses earlier event later equal request := by
    have borne := bears event (by simp [equal])
    rcases event with ⟨action, answer⟩
    cases action with
    | send request =>
        refine ⟨token, ?_, .inr rfl⟩
        rw [Bears, held] at borne
        exact borne
    | now | postForm | overtake => cases request
  leaves := ⟨token, rfl, .inr rfl⟩

theorem suppliesAt_lift {program : WebProgram α}
    (bears : program.Asks (Bears before.config)) :
    SuppliesAt codec before (lift program : ComputeMethod α) := by
  intro trace result after executes _ held
  obtain ⟨value, runs, -, rfl⟩ := executes_lift_iff.mp executes
  obtain ⟨token, equal⟩ := Option.isSome_iff_exists.mp held
  rw [equal]
  exact supplied_of_bears equal (bears.emits trace value runs)

theorem suppliesAt_lift_bind {program : WebProgram α}
    {next : α → ComputeMethod β} (bears : program.Asks (Bears before.config))
    (supplies : ∀ value, SuppliesAt codec before (next value)) :
    SuppliesAt codec before (lift program >>= next) := by
  refine (suppliesAt_lift bears).bind fun trace value after executes => ?_
  obtain ⟨_, -, -, rfl⟩ := executes_lift_iff.mp executes
  exact supplies value

theorem suppliesAt_call {kind : ResourceKind}
    {endpoint : Configuration → WebProgram (Except ApiError α)}
    (bears : ∀ config, (endpoint config).Asks (Bears config)) :
    SuppliesAt codec before (call kind endpoint) :=
  suppliesAt_self_bind (suppliesAt_lift_bind (bears_classified (bears _))
    fun outcome => suppliesAt_ofExcept outcome)

/-- A call followed by something that supplies in every state. -/
theorem suppliesAt_call_bind {kind : ResourceKind}
    {endpoint : Configuration → WebProgram (Except ApiError α)}
    {next : α → ComputeMethod β}
    (bears : ∀ config, (endpoint config).Asks (Bears config))
    (supplies : ∀ value after, SuppliesAt codec after (next value)) :
    SuppliesAt codec before (call kind endpoint >>= next) :=
  (suppliesAt_call bears).bind fun _ value after _ => supplies value after

end Rules

/-! ## Renewing the token -/

variable {before after : IBMQuantumComputeService}

/-- With an identity service that always grants, renewal keeps a token that is
still valid and replaces it otherwise. -/
theorem checkToken_spec {trace : List WebEvent} {result : Except QrmiError Unit}
    (executes : (checkToken codec).Executes before trace result after)
    (grants : AlwaysGrants codec trace) :
    result = .ok () ∧ ∃ now rest, trace = ⟨.now, now⟩ :: rest ∧
      ((before.TokenValidAt now ∧ rest = [] ∧ after = before) ∨
        ∃ url form reply granted, rest = [⟨.postForm url form, reply⟩] ∧
          readTokenReply codec reply = some granted ∧
            after = before.withToken granted) := by
  obtain ⟨succeeded, now, rest, rfl, kept | ⟨url, form, reply, rfl, stored⟩⟩ :=
    checkToken_cases codec executes
  · exact ⟨succeeded, now, rest, rfl, .inl kept⟩
  · obtain ⟨granted, read⟩ := Option.isSome_iff_exists.mp
      (grants url form reply (by simp))
    rw [renewed, read] at stored
    exact ⟨succeeded, now, _, rfl, .inr ⟨url, form, reply, granted, rfl, read, stored⟩⟩

/-- Reading the clock leaves the held token. -/
theorem supplied_clock {token : Text} {now : Nat} :
    Supplied codec (some token) [⟨.now, now⟩] (some token) := by
  refine ⟨fun earlier event later split request => ?_, token, rfl, .inr rfl⟩
  have member : event ∈ ([⟨.now, now⟩] : List WebEvent) := by simp [split]
  rw [List.mem_singleton.mp member] at request
  exact request.elim

/-- A renewal leaves the granted token, whatever was held. -/
theorem supplied_renewal {now : Nat} {url : Text} {form : List (String × Text)}
    {reply : HttpReply} {granted : TokenResponse}
    (read : readTokenReply codec reply = some granted) :
    Supplied codec held [⟨.now, now⟩, ⟨.postForm url form, reply⟩]
      (some granted.accessToken) := by
  refine ⟨fun earlier event later split request => ?_, granted.accessToken, rfl,
    .inl ⟨⟨.postForm url form, reply⟩, by simp, granted, read, rfl⟩⟩
  have member :
      event ∈ ([⟨.now, now⟩, ⟨.postForm url form, reply⟩] : List WebEvent) := by
    rw [split]
    simp
  rcases List.mem_pair.mp member with rfl | rfl
  · exact request.elim
  · exact request.elim

theorem suppliesAt_checkToken : SuppliesAt codec before (checkToken codec) := by
  intro trace result after executes grants held
  obtain ⟨-, now, rest, rfl, kept | renewed⟩ := checkToken_spec executes grants
  · obtain ⟨-, rfl, rfl⟩ := kept
    obtain ⟨token, equal⟩ := Option.isSome_iff_exists.mp held
    rw [equal]
    exact supplied_clock
  · obtain ⟨url, form, reply, granted, rfl, read, rfl⟩ := renewed
    exact supplied_renewal read

/-! ## The operations after their renewal -/

theorem suppliesAt_acquireNew : SuppliesAt codec before (acquireNew codec) := by
  refine suppliesAt_self_bind ?_
  refine (suppliesAt_ofExcept _).bind fun _ mode _ _ => ?_
  refine suppliesAt_call_bind (fun config => bears_fetch rfl) fun session _ => ?_
  exact (suppliesAt_withSession _).bind fun _ _ _ _ => suppliesAt_pure _

theorem suppliesAt_closeSession {acquisitionToken : Text} :
    SuppliesAt codec before (closeSession codec acquisitionToken) := by
  refine suppliesAt_call_bind (fun config => bears_fetch rfl) fun pending _ => ?_
  split
  · exact suppliesAt_call_bind (fun config => bears_fetch rfl)
      fun _ _ => suppliesAt_withSession none
  · exact suppliesAt_call_bind (fun config => bears_fetch rfl)
      fun _ _ => suppliesAt_withSession none

theorem suppliesAt_release {acquisitionToken : Text} :
    SuppliesAt codec before (release codec acquisitionToken) :=
  suppliesAt_checkToken.bind fun _ _ _ _ => suppliesAt_closeSession

/-! ## Operations -/

/-- The operations of the resource that talk to the service. -/
inductive Operation
  | isAccessible
  | status
  | acquire
  | release (acquisitionToken : Text)
  | taskStart (payload : Payload)
  | taskStop (taskId : Text)
  | taskStatus (taskId : Text)
  | taskResult (taskId : Text)
  | taskLogs (taskId : Text)
  | target

def Operation.Value : Operation → Type
  | isAccessible => Bool
  | status => ResourceStatus
  | acquire | taskStart _ | taskResult _ | taskLogs _ | target => Text
  | release _ | taskStop _ => Unit
  | taskStatus _ => TaskStatus

def perform (codec : Codec) : (operation : Operation) → ComputeMethod operation.Value
  | .isAccessible => isAccessible codec
  | .status => status codec
  | .acquire => acquire codec
  | .release acquisitionToken => release codec acquisitionToken
  | .taskStart payload => taskStart codec payload
  | .taskStop taskId => taskStop codec taskId
  | .taskStatus taskId => taskStatus codec taskId
  | .taskResult taskId => taskResult codec taskId
  | .taskLogs taskId => taskLogs codec taskId
  | .target => target codec

/-- Every operation but `task_logs` renews the token and then supplies. -/
theorem perform_renews (codec : Codec) (operation : Operation)
    (renews : ∀ taskId, operation ≠ .taskLogs taskId) :
    ∃ body : ComputeMethod operation.Value,
      perform codec operation = (checkToken codec >>= fun _ => body) ∧
        ∀ before, SuppliesAt codec before body := by
  cases operation with
  | isAccessible =>
      refine ⟨_, rfl, fun before => suppliesAt_self_bind ?_⟩
      exact suppliesAt_call_bind (fun config => bears_fetch rfl)
        fun _ _ => suppliesAt_pure _
  | status =>
      refine ⟨_, rfl, fun before => suppliesAt_self_bind ?_⟩
      refine suppliesAt_lift_bind (bears_tryJoin rfl
        (bears_hasDedicatedActiveSession _ _ _)) fun outcome => ?_
      exact (suppliesAt_ofExcept _).bind fun _ _ _ _ => suppliesAt_ofExcept _
  | acquire =>
      refine ⟨_, rfl, fun before => suppliesAt_self_bind ?_⟩
      split
      · exact suppliesAt_acquireNew
      · refine suppliesAt_call_bind (fun config => bears_fetch rfl)
          fun session _ => ?_
        split
        · exact suppliesAt_pure _
        · exact suppliesAt_release.bind fun _ _ _ _ => suppliesAt_acquireNew
  | release acquisitionToken =>
      exact ⟨_, rfl, fun before => suppliesAt_closeSession⟩
  | taskStart payload =>
      refine ⟨_, rfl, fun before => ?_⟩
      split
      · refine (suppliesAt_ofExcept _).bind fun _ params _ _ => ?_
        exact suppliesAt_self_bind (suppliesAt_call fun config => bears_fetch rfl)
      · exact suppliesAt_throw _
  | taskStop taskId =>
      refine ⟨_, rfl, fun before => ?_⟩
      refine suppliesAt_call_bind (fun config => bears_fetch rfl) fun job _ => ?_
      split
      · exact suppliesAt_call_bind (fun config => bears_fetch rfl)
          fun _ _ => suppliesAt_pure _
      · exact suppliesAt_pure _
  | taskStatus taskId =>
      refine ⟨_, rfl, fun before => ?_⟩
      exact suppliesAt_call_bind (fun config => bears_fetch rfl)
        fun job _ => suppliesAt_pure _
  | taskResult taskId =>
      refine ⟨_, rfl, fun before => ?_⟩
      refine suppliesAt_call_bind (fun config => bears_fetch rfl) fun job _ => ?_
      split
      · exact suppliesAt_throw _
      · exact suppliesAt_call fun config => bears_fetch rfl
  | taskLogs taskId => exact absurd rfl (renews taskId)
  | target =>
      refine ⟨_, rfl, fun before => suppliesAt_self_bind ?_⟩
      refine suppliesAt_lift_bind (bears_fetch rfl) fun configuration => ?_
      exact suppliesAt_lift_bind (bears_fetch rfl)
        fun properties => suppliesAt_pure _

/-! ## Runs of an instance -/

/-- Every request carries a token that was fetched earlier in the operation, or
the one held at its start, which had the margin of `check_token` left then. -/
def Fresh (codec : Codec) (start : Nat) (service : IBMQuantumComputeService)
    (trace : List WebEvent) : Prop :=
  ∀ earlier event later, trace = earlier ++ event :: later → IsRequest event →
    ∃ token, Carries event token ∧ (GrantedIn codec earlier token ∨
      service.token = some token ∧ service.TokenValidAt start)

/-- An instance without a token never counts its token as valid. -/
def Grounded (service : IBMQuantumComputeService) : Prop :=
  service.token = none → service.tokenExpiration = 0

theorem Grounded.isSome_of_valid {now : Nat} (grounded : before.Grounded)
    (valid : before.TokenValidAt now) : before.token.isSome := by
  by_contra absent
  have expiration := grounded (Option.not_isSome_iff_eq_none.mp absent)
  have positive : 360 ≤ before.margin := Nat.le_max_left ..
  rw [TokenValidAt, expiration] at valid
  omega

theorem TokenValidAt.anti {start now : Nat} (valid : before.TokenValidAt now)
    (order : start ≤ now) : before.TokenValidAt start :=
  Nat.le_trans (Nat.add_le_add_right order _) valid

/-- An operation that renews the token at its head sends only fresh tokens and
leaves a token behind. -/
theorem fresh_of_renews {α : Type} {body : ComputeMethod α} {start : Nat}
    {trace : List WebEvent} {result : Except QrmiError α}
    (supplies : ∀ before, SuppliesAt codec before body)
    (executes : (checkToken codec >>= fun _ => body).Executes before trace result
      after)
    (grants : AlwaysGrants codec trace) (grounded : before.Grounded)
    (clock : ∀ now, ⟨.now, now⟩ ∈ trace → start ≤ now) :
    Fresh codec start before trace ∧ after.token.isSome := by
  rcases executes_bind_iff.mp executes with ⟨error, -, failed⟩ |
    ⟨first, second, _, middle, rfl, checked, continued⟩
  · obtain ⟨equal, -⟩ := checkToken_spec failed grants
    cases equal
  obtain ⟨-, now, rest, rfl, kept | renewed⟩ :=
    checkToken_spec checked grants.ofFirst
  · obtain ⟨valid, rfl, rfl⟩ := kept
    have validAtStart := valid.anti (clock now (by simp))
    have held := grounded.isSome_of_valid valid
    obtain ⟨token, equal⟩ := Option.isSome_iff_exists.mp held
    have supplied := supplies middle second result after continued
      grants.ofSecond held
    rw [equal] at supplied
    have read : Supplied codec (some token) [⟨.now, now⟩] (some token) :=
      supplied_clock
    have whole := read.append supplied
    refine ⟨fun earlier event later split request => ?_, whole.isSome⟩
    obtain ⟨used, carries, source⟩ := whole.uses earlier event later split request
    rw [← equal] at source
    exact ⟨used, carries, source.imp_right fun same => ⟨same, validAtStart⟩⟩
  · obtain ⟨url, form, reply, granted, rfl, read, rfl⟩ := renewed
    have supplied := supplies _ second result after continued grants.ofSecond rfl
    have renewal : Supplied codec none [⟨.now, now⟩, ⟨.postForm url form, reply⟩]
        (some granted.accessToken) := supplied_renewal read
    have whole := renewal.append supplied
    refine ⟨fun earlier event later split request => ?_, whole.isSome⟩
    obtain ⟨used, carries, source⟩ := whole.uses earlier event later split request
    exact ⟨used, carries, source.imp_right fun none => nomatch none⟩

/-- The environment of an instance: a clock that only advances, an identity
service that grants a token on every request, and a service that may answer
anything.  The world is the time. -/
def granting (codec : Codec) : Server WebAction WebAction.Answer Nat where
  moves now later := now ≤ later
  serves now action answer next :=
    next = now ∧
      match action, answer with
      | .now, reading => reading = now
      | .postForm .., reply => (readTokenReply codec reply).isSome
      | .send _, _ => True
      | .overtake, _ => True

/-- One call on the instance, with what it began with and what it did. -/
structure ServedCall where
  operation : Operation
  service : IBMQuantumComputeService
  start : Nat
  trace : List WebEvent

/-- A call in an environment, from the instance and the time before it to the
instance and the time after it. -/
def Step (codec : Codec) (before : IBMQuantumComputeService × Nat)
    (call : ServedCall) (after : IBMQuantumComputeService × Nat) : Prop :=
  call.service = before.1 ∧ call.start = before.2 ∧ ∃ visited result,
    (granting codec).ExecutesAgainst before.2 (perform codec call.operation)
      before.1 visited call.trace result after.1 after.2

/-- Time does not run backwards during a run. -/
theorem granting_ordered {α : Type} {program : WebProgram α} {start final : Nat}
    {visited : List Nat} {trace : List WebEvent} {value : α}
    (against : (granting codec).RunsAgainst start program visited trace value
      final) :
    (∀ world ∈ visited ++ [final], start ≤ world) ∧
      (visited ++ [final]).Pairwise fun earlier later => earlier ≤ later := by
  apply against.ordered Nat.le_refl Nat.le_trans
  · intro world next moved
    exact moved
  · rintro world action answer next ⟨rfl, -⟩
    exact Nat.le_refl _

theorem alwaysGrants_of_executesAgainst {α : Type} {method : ComputeMethod α}
    {start final : Nat} {visited : List Nat} {trace : List WebEvent}
    {result : Except QrmiError α}
    (against : (granting codec).ExecutesAgainst start method before visited trace
      result after final) :
    AlwaysGrants codec trace := by
  intro url form reply member
  obtain ⟨world, -, next, -, granted⟩ :=
    Server.RunsAgainst.exists_served against member
  exact granted

theorem clock_of_executesAgainst {α : Type} {method : ComputeMethod α}
    {start final : Nat} {visited : List Nat} {trace : List WebEvent}
    {result : Except QrmiError α}
    (against : (granting codec).ExecutesAgainst start method before visited trace
      result after final) :
    ∀ now, ⟨.now, now⟩ ∈ trace → start ≤ now := by
  intro now member
  obtain ⟨world, inVisited, next, -, reading⟩ :=
    Server.RunsAgainst.exists_served against member
  have later : start ≤ world :=
    (granting_ordered against).1 world (List.mem_append_left _ inVisited)
  have shown : now = world := reading
  rw [shown]
  exact later

/-- `task_logs` sends exactly one request, with the token as it was held. -/
theorem taskLogs_spec {taskId : Text} {trace : List WebEvent}
    {result : Except QrmiError Text}
    (executes : (taskLogs codec taskId).Executes before trace result after) :
    after = before ∧ ∃ request reply, trace = [⟨.send request, reply⟩] ∧
      request.authorization = match before.token with
        | some token => .bearer token
        | none => .absent := by
  rw [taskLogs, call, executes_request_iff, getJobLogsJid,
    runs_classified_fetch_iff] at executes
  obtain ⟨⟨reply, rfl, -⟩, unchanged⟩ := executes
  exact ⟨unchanged, _, reply, rfl, rfl⟩

/-- The requests of `task_logs` are fresh exactly if the held token is valid when
it starts. -/
theorem taskLogs_fresh_iff {taskId : Text} {start : Nat} {trace : List WebEvent}
    {result : Except QrmiError Text}
    (executes : (taskLogs codec taskId).Executes before trace result after)
    (grounded : before.Grounded) :
    Fresh codec start before trace ↔ before.TokenValidAt start := by
  obtain ⟨-, request, reply, rfl, authorization⟩ := taskLogs_spec executes
  constructor
  · intro fresh
    obtain ⟨token, -, ⟨_, member, -⟩ | ⟨-, valid⟩⟩ := fresh [] _ [] rfl trivial
    · cases member
    · exact valid
  · intro valid earlier event later split _
    obtain ⟨token, held⟩ := Option.isSome_iff_exists.mp
      (grounded.isSome_of_valid valid)
    rw [held] at authorization
    have member : event ∈ ([⟨.send request, reply⟩] : List WebEvent) := by
      rw [split]
      simp
    rw [List.mem_singleton.mp member]
    exact ⟨token, authorization, .inr ⟨held, valid⟩⟩

/-- An operation sends fresh tokens only, unless it is `task_logs` and the held
token is not valid when it starts. -/
theorem perform_fresh_iff {operation : Operation} {start final : Nat}
    {visited : List Nat} {trace : List WebEvent}
    {result : Except QrmiError operation.Value} (grounded : before.Grounded)
    (against : (granting codec).ExecutesAgainst start (perform codec operation)
      before visited trace result after final) :
    after.Grounded ∧ (Fresh codec start before trace ↔
      ∀ taskId, operation = .taskLogs taskId → before.TokenValidAt start) := by
  have grants := alwaysGrants_of_executesAgainst against
  by_cases logs : ∃ taskId, operation = .taskLogs taskId
  · obtain ⟨taskId, rfl⟩ := logs
    have decided : Fresh codec start before trace ↔ before.TokenValidAt start :=
      taskLogs_fresh_iff against.executes grounded
    have unchanged : after = before := (taskLogs_spec against.executes).1
    rw [unchanged, decided]
    exact ⟨grounded, fun valid _ _ => valid, fun valid => valid taskId rfl⟩
  · have renews : ∀ taskId, operation ≠ .taskLogs taskId :=
      fun taskId equal => logs ⟨taskId, equal⟩
    obtain ⟨body, equal, supplies⟩ := perform_renews codec operation renews
    have executes := against.executes
    rw [equal] at executes
    obtain ⟨fresh, held⟩ := fresh_of_renews supplies executes grants grounded
      (clock_of_executesAgainst against)
    refine ⟨fun absent => ?_, fun _ taskId equal => absurd equal (renews taskId),
      fun _ => fresh⟩
    rw [absent] at held
    cases held

/-- The condition under which a call sends fresh tokens only. -/
def StartsValid (call : ServedCall) : Prop :=
  ∀ taskId, call.operation = .taskLogs taskId →
    call.service.TokenValidAt call.start

theorem step_fresh_iff {before after : IBMQuantumComputeService × Nat}
    {call : ServedCall} (grounded : before.1.Grounded)
    (step : Step codec before call after) :
    after.1.Grounded ∧
      (Fresh codec call.start call.service call.trace ↔ StartsValid call) := by
  obtain ⟨service, start, visited, result, against⟩ := step
  rw [StartsValid, service, start]
  exact perform_fresh_iff grounded against

theorem grounded_of_fromOpt {backendName : Text} {settings : SettingsSource}
    {service : IBMQuantumComputeService}
    (constructed : fromOpt backendName settings = .ok service) :
    service.Grounded := by
  intro _
  revert constructed
  rw [fromOpt]
  cases settings.resolveOptRequired
    (settings.prefixOf backendName ++ "QRMI_IBM_QCS_ENDPOINT".toList) with
  | error error => rintro ⟨⟩
  | ok endpoint =>
  cases settings.resolveOptRequired
    (settings.prefixOf backendName ++ "QRMI_IBM_QCS_IAM_ENDPOINT".toList) with
  | error error => rintro ⟨⟩
  | ok iamEndpoint =>
  cases settings.resolveOptRequired
    (settings.prefixOf backendName ++ "QRMI_IBM_QCS_IAM_APIKEY".toList) with
  | error error => rintro ⟨⟩
  | ok apiKey =>
  cases settings.resolveOptRequired
    (settings.prefixOf backendName ++ "QRMI_IBM_QCS_SERVICE_CRN".toList) with
  | error error => rintro ⟨⟩
  | ok serviceCrn =>
      intro constructed
      cases constructed
      rfl

/-- The invariant of a history: the instance stays grounded, and every call so far
was fresh exactly if it started valid. -/
theorem history_fresh_iff {service : IBMQuantumComputeService} {start : Nat}
    {calls : List ServedCall} {final : IBMQuantumComputeService × Nat}
    (grounded : service.Grounded)
    (history : History (Step codec) (service, start) calls final) :
    final.1.Grounded ∧ ∀ call ∈ calls,
      (Fresh codec call.start call.service call.trace ↔ StartsValid call) := by
  apply history.invariant fun past (state : IBMQuantumComputeService × Nat) =>
    state.1.Grounded ∧ ∀ call ∈ past,
      (Fresh codec call.start call.service call.trace ↔ StartsValid call)
  · exact ⟨grounded, fun call member => absurd member List.not_mem_nil⟩
  · intro past state call next _ holds step
    obtain ⟨nextGrounded, decided⟩ := step_fresh_iff holds.1 step
    refine ⟨nextGrounded, fun other member => ?_⟩
    rcases List.mem_append.mp member with inPast | last
    · exact holds.2 other inPast
    · rw [List.mem_singleton.mp last]
      exact decided

/-- Over the life of an instance, all requests carry fresh tokens exactly if every
`task_logs` call finds a valid token when it starts. -/
theorem requests_fresh_iff {backendName : Text} {settings : SettingsSource}
    {service : IBMQuantumComputeService} {start : Nat}
    {calls : List ServedCall} {final : IBMQuantumComputeService × Nat}
    (constructed : fromOpt backendName settings = .ok service)
    (history : History (Step codec) (service, start) calls final) :
    (∀ call ∈ calls, Fresh codec call.start call.service call.trace) ↔
      ∀ call ∈ calls, StartsValid call := by
  have grounded := grounded_of_fromOpt constructed
  exact forall₂_congr (history_fresh_iff grounded history).2

end Freshness

namespace Idle

def settings : SettingsSource :=
  .config fun key =>
    [("QRMI_IBM_QCS_ENDPOINT".toList, "https://qcs".toList),
      ("QRMI_IBM_QCS_IAM_ENDPOINT".toList, "https://iam".toList),
      ("QRMI_IBM_QCS_IAM_APIKEY".toList, "key".toList),
      ("QRMI_IBM_QCS_SERVICE_CRN".toList, "crn".toList)].lookup key

def fresh : IBMQuantumComputeService where
  config :=
    { basePath := "https://qcs".toList
      userAgent := some "SLURM-QRMI-QRS".toList
      bearerAccessToken := none
      crn := some "crn".toList }
  backendName := "ibm".toList
  sessionId := none
  calibrationId := none
  timeoutSecs := none
  sessionMode := "dedicated".toList
  sessionMaxTtl := 28800
  apiKey := "key".toList
  iamEndpoint := "https://iam".toList
  tokenExpiration := 0
  tokenLifetime := 0

theorem constructed : fromOpt "ibm".toList settings = .ok fresh :=
  rfl

def tokenBody : Text :=
  "\x7b\"access_token\":\"t\",\"expiration\":3600,\"expires_in\":3600\x7d".toList

def granted : TokenResponse :=
  ⟨"t".toList, 3600, 3600⟩

/-- Deserialisers that know the one token reply of the run. -/
def codec : Codec where
  readJob _ := .error "expected value"
  readJobs _ := .error "expected value"
  readCreatedJob _ := .error "expected value"
  readSession _ := .error "expected value"
  readBackendStatus _ := .error "expected value"
  readBackends _ := .error "expected value"
  readProperties _ := .error "expected value"
  readString _ := .error "expected value"
  readToken text := if text = tokenBody then .ok granted else .error "expected value"
  samplerInput _ := .error "expected value"
  estimatorInput _ := .error "expected value"
  noiseLearnerInput _ := .error "expected value"
  json := .ofTable []
  toLowercase text := text.map Char.toLower

def holding : IBMQuantumComputeService :=
  fresh.withToken granted

def ok (body : Text) : HttpReply :=
  .ok ⟨⟨200, "OK"⟩, some "application/json".toList, .ok body⟩

/-- The first call fetches a token, which expires an hour later. -/
def polled : ServedCall where
  operation := .taskStatus "j".toList
  service := fresh
  start := 0
  trace :=
    [⟨.now, (0 : Nat)⟩,
      ⟨.postForm (tokenUrl fresh.iamEndpoint) (tokenForm fresh.apiKey),
        ok tokenBody⟩,
      ⟨.send (holding.config.request .get (jobPath "j".toList) [] none none),
        .error "timeout"⟩]

/-- The second call asks for logs long after that. -/
def asked : ServedCall where
  operation := .taskLogs "j".toList
  service := holding
  start := 10000
  trace :=
    [⟨.send (holding.config.request .get
        (jobPath "j".toList ++ "/logs".toList) [] none none), .error "timeout"⟩]

theorem polls : Step codec (fresh, 0) polled (holding, 10000) := by
  have late : (granting codec).Drifts 0 [0] 10000 :=
    .move (Nat.zero_le 10000) (.refl 10000)
  exact ⟨rfl, rfl, _, _, .ask (.refl _) ⟨rfl, rfl⟩ (.ask (.refl _) ⟨rfl, rfl⟩
    (.ask (.refl _) ⟨rfl, trivial⟩ (.done _ late)))⟩

theorem asks : Step codec (holding, 10000) asked (holding, 10000) :=
  ⟨rfl, rfl, _, _, .ask (.refl _) ⟨rfl, trivial⟩ (.done _ (.refl _))⟩

theorem history :
    History (Step codec) (fresh, 0) [polled, asked] (holding, 10000) :=
  .cons polls (.cons asks (.nil _))

end Idle

theorem requests_fresh_iff_idle :
    (∀ call ∈ [Idle.polled, Idle.asked],
        Fresh Idle.codec call.start call.service call.trace) ↔
      ∀ call ∈ [Idle.polled, Idle.asked], StartsValid call :=
  requests_fresh_iff Idle.constructed Idle.history

/-- After an idle period, asking for the logs sends a token that has expired. -/
theorem exists_stale_token :
    ∃ codec backendName settings service start calls final,
      fromOpt backendName settings = .ok service ∧
        History (Step codec) (service, start) calls final ∧
        ∃ call ∈ calls, ¬ Fresh codec call.start call.service call.trace := by
  refine ⟨Idle.codec, _, Idle.settings, Idle.fresh, 0, _, _, Idle.constructed,
    Idle.history, Idle.asked, by simp, fun fresh => ?_⟩
  obtain ⟨token, -, ⟨event, member, -⟩ | ⟨-, valid⟩⟩ :=
    fresh [] _ [] rfl trivial
  · cases member
  · revert valid
    decide

end IBMQuantumComputeService
