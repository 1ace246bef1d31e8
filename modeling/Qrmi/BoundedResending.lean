import Qrmi.TokenPanics

/-!
# How often a call sends its request

A call sends its request in at most two rounds of attempts.  The first one carries the
token that the manager holds or is granted before.  A second one follows only where the
service turned that token down and the identity service granted another, which the second
round carries.  The outcome of the last attempt is handed on as it is.
-/

open Interaction

namespace QuantumSystem

namespace TokenRenewal

open Method TokenManager AuthMiddleware

/-- Send a request with so many retries. -/
def retrying (strategy : Outcome → Bool) (retries fuel : Nat) (request : HttpRequest) :
    SystemProgram Outcome :=
  TransparentRetryMiddleware.handle ⟨some retries⟩ strategy (transmit (.send request) id) fuel

/-- The outcome of an attempt with a reply. -/
def received (reply : HttpReply) : Outcome :=
  reply.mapError .reqwest

/-- The attempts of a round in which so many retries are left.  A transient outcome is
followed by another attempt while there are retries, and any other outcome ends the
round. -/
inductive Round (strategy : Outcome → Bool) (request : HttpRequest) :
    Nat → List SystemEvent → Outcome → Prop
  | last {retries : Nat} {reply : HttpReply}
      (final : strategy (received reply) = true → retries = 0) :
      Round strategy request retries [⟨.send request, reply⟩] (received reply)
  | again {retries : Nat} {reply : HttpReply} {trace : List SystemEvent} {outcome : Outcome}
      (transient : strategy (received reply) = true)
      (rest : Round strategy request retries trace outcome) :
      Round strategy request (retries + 1) (⟨.send request, reply⟩ :: trace) outcome

section Rounds

variable {strategy : Outcome → Bool} {request : HttpRequest} {retries fuel : Nat}
variable {trace : List SystemEvent} {outcome : Outcome}

theorem Round.length_le (round : Round strategy request retries trace outcome) :
    trace.length ≤ retries + 1 := by
  induction round with
  | last final => exact Nat.succ_le_succ (Nat.zero_le _)
  | again transient rest ih => exact Nat.succ_le_succ ih

/-- From any number of past retries on, the loop makes a round with what is left. -/
theorem round_of_repeats {past : Nat}
    (runs : ((transmit (.send request) id).repeatWhile
      (fun past result => strategy result && RetryPolicy.shouldRetry ⟨some retries⟩ past)
        fuel past).Runs trace outcome) :
    Round strategy request (retries - past) trace outcome := by
  induction fuel generalizing past trace with
  | zero => exact absurd runs Program.not_runs_pending
  | succ fuel ih =>
      obtain ⟨first, rest, middle, rfl, sent, continued⟩ := Program.runs_bind_iff.mp runs
      obtain ⟨reply, rfl, isReceived⟩ := runs_transmit_iff.mp sent
      obtain rfl : middle = received reply := isReceived
      by_cases repeats : strategy (received reply) = true ∧ past < retries
      · have left : retries - past = retries - (past + 1) + 1 := by omega
        rw [if_pos (by simpa [RetryPolicy.shouldRetry] using repeats)] at continued
        rw [left]
        exact .again repeats.1 (ih continued)
      · rw [if_neg (by simpa [RetryPolicy.shouldRetry] using repeats)] at continued
        obtain ⟨rfl, rfl⟩ := Program.runs_pure_iff.mp continued
        apply Round.last
        intro transient
        have late : ¬ past < retries := fun early => repeats ⟨transient, early⟩
        omega

theorem round_of_retrying (runs : (retrying strategy retries fuel request).Runs trace outcome) :
    Round strategy request retries trace outcome :=
  round_of_repeats runs

/-- With fuel for all retries, the loop is a layer as the calls need it. -/
theorem transport_retrying (strategy : Outcome → Bool) (enough : retries < fuel) :
    Transport (retrying strategy retries fuel) where
  total _ := total_handle (total_transmit _ _) rfl enough
  sends _ := (transport_transmit.sends _).repeatWhile _ _ _

end Rounds

def tokenReply : SystemEvent → Option HttpReply
  | ⟨.postForm _ _, reply⟩ => some reply
  | _ => none

/-- The reply to the last request of a token. -/
def lastTokenReply (trace : List SystemEvent) : Option HttpReply :=
  (trace.filterMap tokenReply).getLast?

/-- The manager asked for a token, and the last reply granted this one or none. -/
def Settles (codec : Codec) (trace : List SystemEvent) (settled : Option Text) : Prop :=
  ∃ reply, lastTokenReply trace = some reply ∧
    (granted codec reply).map GetAccessTokenResponse.accessToken = settled

/-- A token that was granted, or else was there before. -/
def Supplies (codec : Codec) (manager : TokenManager) (trace : List SystemEvent)
    (token : Text) : Prop :=
  Settles codec trace (some token) ∨
    lastTokenReply trace = none ∧ manager.accessToken = some token

section Settlement

variable {codec : Codec} {fuel : Nat} {before after : TokenManager}
variable {first second trace : List SystemEvent} {settled : Option Text}

theorem lastTokenReply_append (first second : List SystemEvent) :
    lastTokenReply (first ++ second) = (lastTokenReply second).or (lastTokenReply first) := by
  rw [lastTokenReply, List.filterMap_append, List.getLast?_append]
  rfl

@[simp]
theorem lastTokenReply_instant (now : Nat) (trace : List SystemEvent) :
    lastTokenReply (⟨.instant, now⟩ :: trace) = lastTokenReply trace :=
  rfl

theorem Settles.prepend (settles : Settles codec second settled) (first : List SystemEvent) :
    Settles codec (first ++ second) settled := by
  obtain ⟨reply, last, grants⟩ := settles
  refine ⟨reply, ?_, grants⟩
  rw [lastTokenReply_append, last]
  rfl

theorem Settles.append_idle (settles : Settles codec first settled)
    (others : lastTokenReply second = none) : Settles codec (first ++ second) settled := by
  obtain ⟨reply, last, grants⟩ := settles
  refine ⟨reply, ?_, grants⟩
  rw [lastTokenReply_append, others, last]
  rfl

theorem Requests.lastTokenReply_eq {requests : List SystemEvent} {reply : HttpReply}
    (isRequests : Requests requests reply) : lastTokenReply requests = some reply := by
  obtain ⟨earlier, url, form, rfl⟩ := isRequests.last
  rw [lastTokenReply_append]
  rfl

/-- A renewal that comes back fails without a token, or leaves the manager with the one
that was granted. -/
theorem settles_getAccessToken {result : Except (Halt MiddlewareError) Unit}
    (executes : (getAccessToken codec fuel).Executes before trace result after)
    (returns : result ≠ .error .panic) :
    ((∃ error, result = .error (.failed error)) ∧ Settles codec trace none) ∨
      result = .ok () ∧ ∃ token, after.accessToken = some token ∧
        Settles codec trace (some token) := by
  obtain ⟨requests, reply, isRequests, refused | granting⟩ := getAccessToken_cases executes
  · obtain ⟨grantsNone, rfl, failed, -⟩ := refused
    refine .inl ⟨failed, reply, isRequests.lastTokenReply_eq, ?_⟩
    rw [grantsNone]
    rfl
  · obtain ⟨token, stored, grants, rfl, stores⟩ := granting
    obtain ⟨now, rfl, ⟨expiry, -, rfl, rfl⟩ | ⟨-, rfl, -⟩⟩ := executes_storeToken_iff.mp stores
    · have settles : Settles codec requests (some token.accessToken) := by
        refine ⟨reply, isRequests.lastTokenReply_eq, ?_⟩
        rw [grants]
        rfl
      exact .inr ⟨rfl, token.accessToken, rfl, settles.append_idle rfl⟩
    · exact absurd rfl returns

/-- A token is there already, or the manager settles on one. -/
theorem settles_ensureTokenValidity {result : Except (Halt MiddlewareError) Unit}
    (executes : (ensureTokenValidity codec fuel).Executes before trace result after)
    (returns : result ≠ .error .panic) :
    ((∃ error, result = .error (.failed error)) ∧ Settles codec trace none) ∨
      result = .ok () ∧ ∃ token, after.accessToken = some token ∧
        Supplies codec before trace token := by
  rcases ensureTokenValidity_cases executes with ⟨-, renews⟩ |
    ⟨readings, rest, _, _, _, rfl, -, -, renews⟩ | ⟨token, expiry, now, reads, -, rfl, rfl⟩
  · rcases settles_getAccessToken renews returns with ⟨failed, settles⟩ |
      ⟨returned, token, held, settles⟩
    · exact .inl ⟨failed, settles⟩
    · exact .inr ⟨returned, token, held, .inl settles⟩
  · rcases settles_getAccessToken renews returns with ⟨failed, settles⟩ |
      ⟨returned, token, held, settles⟩
    · exact .inl ⟨failed, settles.prepend readings⟩
    · exact .inr ⟨returned, token, held, .inl (settles.prepend readings)⟩
  · cases reads with
    | dated held | undated held => exact .inr ⟨rfl, token, held, .inr ⟨rfl, held⟩⟩

theorem settles_getToken {result : Except (Halt MiddlewareError) Text}
    (executes : (getToken codec fuel).Executes before trace result after)
    (returns : result ≠ .error .panic) :
    ((∃ error, result = .error (.failed error)) ∧ Settles codec trace none) ∨
      ∃ token, result = .ok token ∧ Supplies codec before trace token := by
  rcases executes_bind_of_returns executes returns with ⟨error, rfl, failed⟩ |
    ⟨first, second, _, middle, rfl, validated, continued⟩
  · rcases settles_ensureTokenValidity failed (by rintro ⟨⟩) with ⟨-, settles⟩ | ⟨equal, -⟩
    · exact .inl ⟨⟨error, rfl⟩, settles⟩
    · cases equal
  · rcases settles_ensureTokenValidity validated (by rintro ⟨⟩) with ⟨⟨_, equal⟩, -⟩ |
      ⟨-, token, held, supplies⟩
    · cases equal
    · rw [executes_self_bind_iff, held] at continued
      obtain ⟨rfl, rfl, rfl⟩ := executes_pure_iff.mp continued
      rw [List.append_nil]
      exact .inr ⟨token, rfl, supplies⟩

end Settlement

def Quiet (trace : List SystemEvent) : Prop :=
  ∀ event ∈ trace, ¬ isSend event = true

section Silence

variable {codec : Codec} {fuel : Nat} {before after : TokenManager} {trace : List SystemEvent}

theorem compositional_emits (allowed : SystemEvent → Prop)
    (reads : ∀ now, allowed ⟨.instant, now⟩) :
    Compositional fun α method =>
      @Emits SystemAction SystemAction.Answer TokenManager (Halt MiddlewareError) α method
        allowed where
  pure := emits_pure
  throw := emits_throw
  self := emits_self
  instantNow := emits_lift (Program.emits_question reads)
  ofExcept := emits_ofExcept
  bind := Emits.bind

theorem quiet_getAccessToken :
    (getAccessToken codec fuel).Emits fun event => ¬ isSend event = true := by
  rintro before trace ⟨result, after⟩ runs event member
  obtain ⟨requests, reply, isRequests, refused | granting⟩ :=
    @getAccessToken_cases codec fuel before after trace result runs
  · obtain ⟨-, rfl, -⟩ := refused
    exact not_isSend_of_isTokenRequest (isRequests.all event member)
  · obtain ⟨token, stored, -, rfl, stores⟩ := granting
    obtain ⟨now, rfl, -⟩ := executes_storeToken_iff.mp stores
    rcases List.mem_append.mp member with inRequests | inStored
    · exact not_isSend_of_isTokenRequest (isRequests.all event inRequests)
    · rw [List.mem_singleton.mp inStored]
      exact Bool.false_ne_true

theorem quiet_getToken :
    (getToken codec fuel).Emits fun event => ¬ isSend event = true :=
  (compositional_emits _ fun _ => Bool.false_ne_true).getToken quiet_getAccessToken

end Silence

/-- The manager's token and the round that carries it. -/
inductive Opens (codec : Codec) (strategy : Outcome → Bool) (retries : Nat)
    (request : HttpRequest) (manager : TokenManager) : List SystemEvent → Outcome → Prop
  | intro {validity round : List SystemEvent} {token : Text} {outcome : Outcome}
      (quiet : Quiet validity) (supplies : Supplies codec manager validity token)
      (rounds : Round strategy { request with authorization := .bearer token } retries round
        outcome) :
      Opens codec strategy retries request manager (validity ++ round) outcome

/-- What a call does that does not panic. -/
inductive Calls (codec : Codec) (strategy : Outcome → Bool) (retries : Nat)
    (request : HttpRequest) (manager : TokenManager) :
    List SystemEvent → Except (Halt MiddlewareError) HttpResponse → Prop
  /-- There is no token, and nothing is sent. -/
  | refused {validity : List SystemEvent} {error : MiddlewareError} (quiet : Quiet validity)
      (settles : Settles codec validity none) :
      Calls codec strategy retries request manager validity (.error (.failed error))
  /-- One round, whose token is not turned down. -/
  | answered {trace : List SystemEvent} {outcome : Outcome}
      (opens : Opens codec strategy retries request manager trace outcome)
      (authorized : ¬ isUnauthorized outcome = true) :
      Calls codec strategy retries request manager trace (outcome.mapError .failed)
  /-- One round, whose token is turned down and not replaced. -/
  | rejected {trace renewal : List SystemEvent} {outcome : Outcome} {error : MiddlewareError}
      (opens : Opens codec strategy retries request manager trace outcome)
      (unauthorized : isUnauthorized outcome = true) (quiet : Quiet renewal)
      (settles : Settles codec renewal none) :
      Calls codec strategy retries request manager (trace ++ renewal) (.error (.failed error))
  /-- A second round with the token that replaces the first one. -/
  | resent {trace renewal round : List SystemEvent} {outcome last : Outcome} {token : Text}
      (opens : Opens codec strategy retries request manager trace outcome)
      (unauthorized : isUnauthorized outcome = true) (quiet : Quiet renewal)
      (settles : Settles codec renewal (some token))
      (rounds : Round strategy { request with authorization := .bearer token } retries round
        last) :
      Calls codec strategy retries request manager (trace ++ (renewal ++ round))
        (last.mapError .failed)

section Calls

variable {codec : Codec} {strategy : Outcome → Bool} {retries fuel : Nat}
variable {isHeaderValue : Text → Bool} {request : HttpRequest} {manager after : TokenManager}
variable {trace : List SystemEvent}

theorem Calls.returns {result : Except (Halt MiddlewareError) HttpResponse}
    (calls : Calls codec strategy retries request manager trace result) :
    result ≠ .error .panic := by
  cases calls with
  | refused => rintro ⟨⟩
  | answered => exact mapError_failed_ne_panic _
  | rejected => rintro ⟨⟩
  | resent => exact mapError_failed_ne_panic _

/-- Sending with a token that is the value of a header makes a round. -/
theorem round_of_sendWith {token : Text} {result : Except (Halt MiddlewareError) Outcome}
    (executes : (sendWith isHeaderValue (retrying strategy retries fuel) request token).Executes
      manager trace result after) (returns : result ≠ .error .panic) :
    ∃ outcome, result = .ok outcome ∧ after = manager ∧
      Round strategy { request with authorization := .bearer token } retries trace outcome := by
  rw [sendWith] at executes
  split at executes
  · obtain ⟨outcome, runs, rfl, rfl⟩ := executes_lift_iff.mp executes
    exact ⟨outcome, rfl, rfl, round_of_retrying runs⟩
  · exact absurd (executes_throw_iff.mp executes).2.1 returns

/-- What is supplied after a token was granted is that token, or one granted later. -/
theorem Settles.supplies {first second : List SystemEvent} {held token : Text}
    (settles : Settles codec first (some held)) (holds : manager.accessToken = some held)
    (supplies : Supplies codec manager second token) :
    Settles codec (first ++ second) (some token) := by
  rcases supplies with later | ⟨none, stillHeld⟩
  · exact later.prepend first
  · obtain rfl := Option.some.inj (holds.symm.trans stillHeld)
    exact settles.append_idle none

/-- A method that gets a token and sends the request with it fails without a token, or
opens. -/
theorem opens_of_returns {next : Outcome → PanickingMethod HttpResponse}
    {result : Except (Halt MiddlewareError) HttpResponse}
    (executes : (getToken codec fuel >>= fun token =>
      sendWith isHeaderValue (retrying strategy retries fuel) request token >>= next).Executes
        manager trace result after) (returns : result ≠ .error .panic) :
    (∃ error, result = .error (.failed error) ∧ Quiet trace ∧ Settles codec trace none) ∨
      ∃ first rest outcome middle, trace = first ++ rest ∧
        Opens codec strategy retries request manager first outcome ∧
          (next outcome).Executes middle rest result after := by
  rcases executes_bind_of_returns executes returns with ⟨error, rfl, failed⟩ |
    ⟨validity, _, token, middle, rfl, gets, continued⟩
  · rcases settles_getToken failed (by rintro ⟨⟩) with ⟨-, settles⟩ | ⟨_, equal, -⟩
    · exact .inl ⟨error, rfl, quiet_getToken.event_of_executes failed, settles⟩
    · cases equal
  rcases settles_getToken gets (by rintro ⟨⟩) with ⟨⟨_, equal⟩, -⟩ | ⟨_, equal, supplies⟩
  · cases equal
  cases equal
  have quiet : Quiet validity := quiet_getToken.event_of_executes gets
  rcases executes_bind_of_returns continued returns with ⟨_, _, failed⟩ |
    ⟨round, rest, outcome, sent, rfl, sends, answered⟩
  · obtain ⟨_, equal, -⟩ := round_of_sendWith failed (by rintro ⟨⟩)
    cases equal
  · obtain ⟨_, equal, -, rounds⟩ := round_of_sendWith sends (by rintro ⟨⟩)
    cases equal
    exact .inr ⟨validity ++ round, rest, outcome, sent, (List.append_assoc ..).symm,
      .intro quiet supplies rounds, answered⟩

theorem calls_of_returns {result : Except (Halt MiddlewareError) HttpResponse}
    (executes : (handle isHeaderValue codec fuel (retrying strategy retries fuel) request).Executes
      manager trace result after) (returns : result ≠ .error .panic) :
    Calls codec strategy retries request manager trace result := by
  rcases opens_of_returns executes returns with ⟨error, rfl, quiet, settles⟩ |
    ⟨first, rest, outcome, middle, rfl, opens, answers⟩
  · exact .refused quiet settles
  by_cases unauthorized : isUnauthorized outcome = true
  swap
  · rw [if_neg unauthorized] at answers
    obtain ⟨rfl, rfl, -⟩ := executes_ofExcept_iff.mp answers
    rw [List.append_nil]
    exact .answered opens unauthorized
  -- The token is turned down: without another one the call ends here.
  rw [if_pos unauthorized] at answers
  rcases executes_bind_of_returns answers returns with ⟨error, rfl, failed⟩ |
    ⟨renewal, _, _, renewed, rfl, renews, resends⟩
  · rcases settles_getAccessToken failed (by rintro ⟨⟩) with ⟨-, settles⟩ | ⟨equal, -⟩
    · exact .rejected opens unauthorized (quiet_getAccessToken.event_of_executes failed) settles
    · cases equal
  rcases settles_getAccessToken renews (by rintro ⟨⟩) with ⟨⟨_, equal⟩, -⟩ |
    ⟨-, held, holds, settles⟩
  · cases equal
  have quietRenewal : Quiet renewal := quiet_getAccessToken.event_of_executes renews
  rcases opens_of_returns resends returns with ⟨error, rfl, quiet, settlesNone⟩ |
    ⟨_, _, last, _, rfl, opensAgain, passesOn⟩
  · exact .rejected opens unauthorized (List.forall_mem_append.mpr ⟨quietRenewal, quiet⟩)
      (settlesNone.prepend renewal)
  obtain ⟨rfl, rfl, -⟩ := executes_ofExcept_iff.mp passesOn
  rw [List.append_nil]
  cases opensAgain with
  | intro quiet supplies rounds =>
      rw [← List.append_assoc renewal]
      exact .resent opens unauthorized (List.forall_mem_append.mpr ⟨quietRenewal, quiet⟩)
        (settles.supplies holds supplies) rounds

theorem atMost_sendWith (token : Text) :
    (sendWith isHeaderValue (retrying strategy retries fuel) request token).AtMost isSend
      (retries + 1) := by
  intro before trace result after executes
  rw [sendWith] at executes
  split at executes
  · obtain ⟨outcome, runs, -, -⟩ := executes_lift_iff.mp executes
    exact List.countP_le_length.trans (round_of_retrying runs).length_le
  · rw [(executes_throw_iff.mp executes).1]
    exact Nat.zero_le _

theorem atMost_opening {next : Outcome → PanickingMethod HttpResponse} {more : Nat}
    (rest : ∀ outcome, (next outcome).AtMost isSend more) :
    (getToken codec fuel >>= fun token =>
      sendWith isHeaderValue (retrying strategy retries fuel) request token >>= next).AtMost
        isSend (retries + 1 + more) := by
  rw [← Nat.zero_add (retries + 1 + more)]
  exact quiet_getToken.atMost.bind fun token => (atMost_sendWith token).bind rest

/-- No call makes more attempts than two rounds have, even if it panics. -/
theorem atMost_handle (request : HttpRequest) :
    (handle isHeaderValue codec fuel (retrying strategy retries fuel) request).AtMost isSend
      (2 * (retries + 1)) := by
  have passesOn : ∀ outcome : Outcome,
      (ofExcept (outcome.mapError Halt.failed) : PanickingMethod HttpResponse).AtMost isSend 0 :=
    fun _ => (emits_ofExcept _).atMost
  have renews : (getAccessToken codec fuel).AtMost isSend 0 := quiet_getAccessToken.atMost
  have twoRounds : 2 * (retries + 1) = retries + 1 + (0 + (retries + 1 + 0)) := by omega
  rw [twoRounds]
  refine atMost_opening fun outcome => ?_
  split
  · exact renews.bind fun _ => atMost_opening passesOn
  · exact (passesOn outcome).mono (Nat.zero_le _)

end Calls

/-- The layers of the client below its middleware, where it does not wait for lanes. -/
theorem sendThroughRetries_eq {client : Client} {retries : Nat}
    (policy : client.retryPolicy = some ⟨some retries⟩)
    (noLanes : client.iqpRetryPolicy = false) (codec : Codec) (fuel : Nat) :
    client.sendThroughRetries codec fuel =
      retrying codec.defaultRetryableStrategy retries fuel := by
  funext request
  rw [Client.sendThroughRetries, policy]
  simp only [noLanes, Bool.false_eq_true, if_false]
  rfl

/-- What a send of the client does, and what it hands on. -/
theorem calls_of_send {codec : Codec} {fuel retries : Nat} {request : HttpRequest}
    {before after : Client} {trace : List SystemEvent}
    {result : Except QuantumSystemError Outcome}
    (policy : before.retryPolicy = some ⟨some retries⟩)
    (noLanes : before.iqpRetryPolicy = false)
    (executes : (Client.send codec fuel request).Executes before trace result after) :
    ∃ outcome, result = .ok outcome ∧
      Calls codec codec.defaultRetryableStrategy retries request before.tokenManager trace
        (outcome.mapError .failed) := by
  rw [Client.send, executes_self_bind_iff, executes_attempt_iff] at executes
  obtain ⟨outcome, rfl, sent⟩ := executes
  obtain ⟨manager, -, handled⟩ := executes_zoom_iff.mp sent
  rw [sendThroughRetries_eq policy noLanes, ← cutPanics_handle,
    executes_cutPanics_iff] at handled
  exact ⟨outcome, rfl, calls_of_returns handled (mapError_failed_ne_panic outcome)⟩

/-- Every call comes back after at most two rounds of attempts, and it returns as its rounds
end exactly where what it is answered is sound.  A client that does not wait for lanes hands
on what such a call returns. -/
structure ResendsBounded (isHeaderValue : Text → Bool) (codec : Codec) (fuel : Nat)
    (strategy : Outcome → Bool) (retries : Nat) (request : HttpRequest)
    (manager : TokenManager) : Prop where
  comesBack : IsBounded fuel manager → ∀ trace,
    ¬ (handle isHeaderValue codec fuel (retrying strategy retries fuel) request).Stalls manager
      trace
  bounded : ∀ trace result after,
    (handle isHeaderValue codec fuel (retrying strategy retries fuel) request).Executes manager
      trace result after → trace.countP isSend ≤ 2 * (retries + 1)
  calls : ∀ trace result after,
    (handle isHeaderValue codec fuel (retrying strategy retries fuel) request).Executes manager
      trace result after →
        (Calls codec strategy retries request manager trace result ↔
          Sound isHeaderValue codec manager trace)
  sends : ∀ (client after : Client) trace result, client.tokenManager = manager →
    client.retryPolicy = some ⟨some retries⟩ → client.iqpRetryPolicy = false →
      (Client.send codec fuel request).Executes client trace result after →
        ∃ outcome, result = .ok outcome ∧
          Calls codec codec.defaultRetryableStrategy retries request manager trace
            (outcome.mapError .failed)

/-- Calls whose fuel is enough for all retries. -/
theorem resendsBounded_of_fuel {isHeaderValue : Text → Bool} {codec : Codec} {fuel : Nat}
    {retries : Nat} (strategy : Outcome → Bool) (enough : retries < fuel)
    (request : HttpRequest) (manager : TokenManager) :
    ResendsBounded isHeaderValue codec fuel strategy retries request manager := by
  have transport := transport_retrying strategy enough
  constructor
  · exact fun bounded trace => (finishes_handle transport request).returns manager trace bounded
  · exact atMost_handle request manager
  · intro trace result after executes
    have returns := ne_panic_iff_sound transport executes
    exact ⟨fun calls => returns.mp calls.returns,
      fun sound => calls_of_returns executes (returns.mpr sound)⟩
  · rintro client after trace result rfl policy noLanes executes
    exact calls_of_send policy noLanes executes

/-- Two rounds: the line feed that is granted between them has expired before the second
one, which carries its replacement. -/
theorem resendsBounded_of_fuel_expiring :
    Calls expiringCodec expiringCodec.defaultRetryableStrategy DEFAULT_RETRIES listJobs
      heldManager expiringTrace (.ok (documentResponse [])) :=
  ((resendsBounded_of_fuel expiringCodec.defaultRetryableStrategy
    (Nat.lt_succ_self DEFAULT_RETRIES) listJobs heldManager).calls _ _ _
      (executes_expiring (Nat.succ_pos _)
        fun _ _ => runs_handle_of_final rfl (Nat.succ_pos _))).mpr sound_expiring

/-- The token is turned down, and the renewal ends in a panic: the call returns neither the
outcome of its only attempt nor an error. -/
theorem exists_panic_after_rejection :
    ∃ trace after,
      (handle isHeaderValue endlessCodec (DEFAULT_RETRIES + 1)
        (retrying endlessCodec.defaultRetryableStrategy DEFAULT_RETRIES (DEFAULT_RETRIES + 1))
        listJobs).Executes heldManager trace (.error .panic) after ∧
      trace.countP isSend = 1 ∧
      ¬ Calls endlessCodec endlessCodec.defaultRetryableStrategy DEFAULT_RETRIES listJobs
        heldManager trace (.error .panic) := by
  have fueled : 0 < DEFAULT_RETRIES + 1 := Nat.succ_pos _
  have sends : (sendWith isHeaderValue
      (retrying endlessCodec.defaultRetryableStrategy DEFAULT_RETRIES (DEFAULT_RETRIES + 1))
      listJobs "t".toList).Executes heldManager (sending "t" unauthorized)
        (.ok (.ok unauthorized)) heldManager :=
    executes_sendWith (by decide) (runs_handle_of_final rfl fueled)
  refine ⟨[⟨.instant, (0 : Nat)⟩] ++ (sending "t" unauthorized ++
    granting (tokenDocument "t" (2 ^ 64 - 1))), setAccessToken "t".toList heldManager, ?_, rfl,
    fun calls => calls.returns rfl⟩
  refine executes_bind_of_ok (executes_getToken rfl rfl (.done _) rfl) ?_
  refine executes_bind_of_ok sends ?_
  have rejected : isUnauthorized (.ok unauthorized) = true := rfl
  rw [if_pos rejected]
  exact executes_bind_of_halt (executes_endless fueled rfl rfl)

end TokenRenewal

end QuantumSystem
