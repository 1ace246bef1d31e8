import Qrmi.InteractionHistory
import Qrmi.InteractionPanic
import Qrmi.QuantumSystemMiddleware
import Mathlib.Tactic.Common

/-!
# Renewing the token of the quantum system client

The functions of the token manager and of `AuthMiddleware` once more, now with a panic
as an outcome.  A panic between the two updates of the manager leaves the first of them
behind.  What is left without the panics is the middleware of the client.
-/

open Interaction

namespace QuantumSystem

namespace TokenRenewal

open Method TokenManager AuthMiddleware

/-- A method of the token manager that may panic. -/
abbrev PanickingMethod (α : Type) : Type :=
  Method SystemAction SystemAction.Answer TokenManager (Halt MiddlewareError) α

def setAccessToken (token : Text) (manager : TokenManager) : TokenManager :=
  { manager with accessToken := some token }

def setTokenExpiry (expiry : Nat) (manager : TokenManager) : TokenManager :=
  { manager with tokenExpiry := some expiry }

/-- `Instant::now()`. -/
def instantNow : PanickingMethod Nat :=
  lift (Program.question SystemAction.instant)

/-- Store a token, and then its expiry. -/
def storeToken (token : GetAccessTokenResponse) : PanickingMethod Unit := do
  modify (setAccessToken token.accessToken)
  let now ← instantNow
  match instantAfter now (nineTenths token.expiresIn) with
  | some expiry => modify (setTokenExpiry expiry)
  | none => throw .panic

section Renewal

variable (codec : Codec) (fuel : Nat)

/-- `get_access_token`. -/
def getAccessToken : PanickingMethod Unit := do
  let manager ← self
  let outcome ← lift (manager.requestToken codec fuel)
  let response ← ofExcept (outcome.mapError .failed)
  if response.status.isSuccess then
    let token ← ofExcept ((readBody codec.readToken response).mapError .failed)
    storeToken token
  else
    throw (.failed (.middleware (refusalMessage codec manager.tokenUrl response)))

/-- The stored expiry, or the current time in its place. -/
def expiryOrNow (manager : TokenManager) : PanickingMethod Nat :=
  match manager.tokenExpiry with
  | some expiry => pure expiry
  | none => instantNow

/-- `ensure_token_validity`. -/
def ensureTokenValidity : PanickingMethod Unit := do
  let manager ← self
  match manager.accessToken with
  | none => getAccessToken codec fuel
  | some _ =>
      let expiry ← expiryOrNow manager
      let now ← instantNow
      if expiry ≤ now then getAccessToken codec fuel else return ()

/-- `get_token`. -/
def getToken : PanickingMethod Text := do
  ensureTokenValidity codec fuel
  let manager ← self
  match manager.accessToken with
  | some token => return token
  | none => throw .panic

end Renewal

section Authorization

variable (isHeaderValue : Text → Bool)

def bearer (token : Text) : Text :=
  "Bearer ".toList ++ token

/-- Run the inner layers on the request with the given token, which has to be the value of
a header. -/
def sendWith (next : HttpRequest → SystemProgram Outcome) (request : HttpRequest)
    (token : Text) : PanickingMethod Outcome :=
  if isHeaderValue (bearer token) then
    lift (next { request with authorization := .bearer token })
  else throw .panic

/-- `AuthMiddleware::handle`. -/
def handle (codec : Codec) (fuel : Nat) (next : HttpRequest → SystemProgram Outcome)
    (request : HttpRequest) : PanickingMethod HttpResponse := do
  let token ← getToken codec fuel
  let response ← sendWith isHeaderValue next request token
  if isUnauthorized response then
    getAccessToken codec fuel
    let token ← getToken codec fuel
    let response ← sendWith isHeaderValue next request token
    ofExcept (response.mapError .failed)
  else ofExcept (response.mapError .failed)

end Authorization

section Agreement

variable (codec : Codec) (fuel : Nat)

theorem cutPanics_instantNow : cutPanics instantNow = TokenManager.instantNow :=
  cutPanics_lift _

/-- An update before the clock is read may as well come after it. -/
theorem modify_instantNow (change : TokenManager → TokenManager)
    {first second : Nat → TokenMethod Unit}
    (same : ∀ now manager, first now (change manager) = second now manager) :
    (do modify change; let now ← TokenManager.instantNow; first now) =
      (do let now ← TokenManager.instantNow; second now) := by
  funext manager
  exact congrArg (Program.ask SystemAction.instant) (funext fun now => same now manager)

theorem cutPanics_storeToken (token : GetAccessTokenResponse) :
    cutPanics (storeToken token) = TokenManager.storeToken token := by
  simp only [storeToken, TokenManager.storeToken, cutPanics_bind, cutPanics_modify,
    cutPanics_instantNow]
  refine modify_instantNow _ fun now manager => ?_
  generalize instantAfter now (nineTenths token.expiresIn) = expiry
  cases expiry <;> rfl

theorem cutPanics_getAccessToken :
    cutPanics (getAccessToken codec fuel) = TokenManager.getAccessToken codec fuel := by
  rw [getAccessToken, TokenManager.getAccessToken, cutPanics_bind, cutPanics_self]
  congr 1
  funext manager
  rw [cutPanics_bind, cutPanics_lift]
  congr 1
  funext outcome
  rw [cutPanics_bind, cutPanics_ofExcept]
  congr 1
  funext response
  split
  · rw [cutPanics_bind, cutPanics_ofExcept]
    congr 1
    funext token
    exact cutPanics_storeToken token
  · rfl

theorem cutPanics_expiryOrNow (manager : TokenManager) :
    cutPanics (expiryOrNow manager) = TokenManager.expiryOrNow manager := by
  rw [expiryOrNow, TokenManager.expiryOrNow]
  cases manager.tokenExpiry with
  | some expiry => exact cutPanics_pure expiry
  | none => exact cutPanics_instantNow

theorem cutPanics_ensureTokenValidity :
    cutPanics (ensureTokenValidity codec fuel) =
      TokenManager.ensureTokenValidity codec fuel := by
  rw [ensureTokenValidity, TokenManager.ensureTokenValidity, cutPanics_bind, cutPanics_self]
  congr 1
  funext manager
  cases manager.accessToken with
  | none => exact cutPanics_getAccessToken codec fuel
  | some token =>
      change cutPanics (expiryOrNow manager >>= _) = TokenManager.expiryOrNow manager >>= _
      rw [cutPanics_bind, cutPanics_expiryOrNow]
      congr 1
      funext expiry
      rw [cutPanics_bind, cutPanics_instantNow]
      congr 1
      funext now
      split
      · exact cutPanics_getAccessToken codec fuel
      · rfl

theorem cutPanics_getToken :
    cutPanics (getToken codec fuel) = TokenManager.getToken codec fuel := by
  rw [getToken, TokenManager.getToken, cutPanics_bind, cutPanics_ensureTokenValidity]
  congr 1
  funext _
  rw [cutPanics_bind, cutPanics_self]
  congr 1
  funext manager
  cases manager.accessToken <;> rfl

theorem cutPanics_sendWith (next : HttpRequest → SystemProgram Outcome) (request : HttpRequest)
    (token : Text) :
    cutPanics (sendWith isHeaderValue next request token) =
      AuthMiddleware.sendWith next request token := by
  by_cases legal : isHeaderValue (bearer token) = true
  · rw [sendWith, if_pos legal, cutPanics_lift]
    exact (if_pos legal).symm
  · rw [sendWith, if_neg legal, cutPanics_panic]
    exact (if_neg legal).symm

/-- Without its panics this is the middleware of the client. -/
theorem cutPanics_handle (next : HttpRequest → SystemProgram Outcome) (request : HttpRequest) :
    cutPanics (handle isHeaderValue codec fuel next request) =
      AuthMiddleware.handle codec fuel next request := by
  rw [handle, AuthMiddleware.handle, cutPanics_bind, cutPanics_getToken]
  congr 1
  funext token
  rw [cutPanics_bind, cutPanics_sendWith]
  congr 1
  funext response
  split
  · rw [cutPanics_bind, cutPanics_getAccessToken]
    congr 1
    funext _
    rw [cutPanics_bind, cutPanics_getToken]
    congr 1
    funext token
    rw [cutPanics_bind, cutPanics_sendWith]
    congr 1
    funext response
    exact cutPanics_ofExcept response
  · exact cutPanics_ofExcept response

end Agreement

/-- The token that the identity service grants in a reply. -/
def granted (codec : Codec) : HttpReply → Option GetAccessTokenResponse
  | .ok response =>
      if response.status.isSuccess then (readBody codec.readToken response).toOption else none
  | .error _ => none

def isTokenRequest : SystemEvent → Bool
  | ⟨.postForm _ _, _⟩ => true
  | _ => false

section Renewals

variable {codec : Codec} {fuel : Nat} {before after : TokenManager} {trace : List SystemEvent}

theorem emits_requestToken (manager : TokenManager) :
    (manager.requestToken codec fuel).Emits fun event => isTokenRequest event = true := by
  apply Program.Emits.repeatWhile
  apply Program.Emits.bind
  · exact Program.emits_question fun _ => rfl
  · exact fun _ => Program.emits_pure _ _

/-- The requests of a renewal, the last of which has the reply that counts. -/
structure Requests (trace : List SystemEvent) (reply : HttpReply) : Prop where
  all : ∀ event ∈ trace, isTokenRequest event = true
  last : ∃ earlier url form, trace = earlier ++ [⟨.postForm url form, reply⟩]

theorem requests_of_requestToken {manager : TokenManager} {outcome : Outcome}
    (runs : (manager.requestToken codec fuel).Runs trace outcome) :
    ∃ reply, Requests trace reply ∧ outcome = reply.mapError .reqwest := by
  have all := emits_requestToken manager trace outcome runs
  obtain ⟨form, relays⟩ := manager.relays_requestToken codec fuel
  obtain ⟨earlier, reply, rfl, replied⟩ := relays trace outcome runs
  exact ⟨reply, ⟨all, earlier, manager.tokenUrl, form, rfl⟩, replied⟩

/-- Storing a token asks for the time and panics when the expiry is too late. -/
theorem executes_storeToken_iff {token : GetAccessTokenResponse}
    {result : Except (Halt MiddlewareError) Unit} :
    (storeToken token).Executes before trace result after ↔
      ∃ now, trace = [⟨.instant, now⟩] ∧
        ((∃ expiry, instantAfter now (nineTenths token.expiresIn) = some expiry ∧
            result = .ok () ∧ after = before.store token.accessToken expiry) ∨
          instantAfter now (nineTenths token.expiresIn) = none ∧
            result = .error .panic ∧ after = setAccessToken token.accessToken before) := by
  rw [storeToken, executes_modify_bind_iff, instantNow, executes_question_bind_iff]
  refine exists_congr fun now => ?_
  generalize instantAfter now (nineTenths token.expiresIn) = later
  cases later with
  | none =>
      constructor
      · rintro ⟨rest, rfl, thrown⟩
        obtain ⟨rfl, rfl, rfl⟩ := executes_throw_iff.mp thrown
        exact ⟨rfl, .inr ⟨rfl, rfl, rfl⟩⟩
      · rintro ⟨rfl, ⟨_, impossible, -⟩ | ⟨-, rfl, rfl⟩⟩
        · cases impossible
        · exact ⟨[], rfl, executes_throw_iff.mpr ⟨rfl, rfl, rfl⟩⟩
  | some expiry =>
      constructor
      · rintro ⟨rest, rfl, stored⟩
        obtain ⟨rfl, rfl, rfl⟩ := executes_modify_iff.mp stored
        exact ⟨rfl, .inl ⟨expiry, rfl, rfl, rfl⟩⟩
      · rintro ⟨rfl, ⟨_, equal, rfl, rfl⟩ | ⟨impossible, -⟩⟩
        · cases equal
          exact ⟨[], rfl, executes_modify_iff.mpr ⟨rfl, rfl, rfl⟩⟩
        · cases impossible

/-- A renewal fails without a token, or gets one and stores it, or panics in between. -/
theorem getAccessToken_cases {result : Except (Halt MiddlewareError) Unit}
    (executes : (getAccessToken codec fuel).Executes before trace result after) :
    ∃ requests reply, Requests requests reply ∧
      ((granted codec reply = none ∧ trace = requests ∧
          (∃ error, result = .error (.failed error)) ∧ after = before) ∨
        ∃ token stored, granted codec reply = some token ∧ trace = requests ++ stored ∧
          (storeToken token).Executes before stored result after) := by
  rw [getAccessToken, executes_self_bind_iff] at executes
  rcases executes_bind_iff.mp executes with ⟨error, rfl, failed⟩ |
    ⟨requests, rest, outcome, middle, rfl, requested, continued⟩
  · obtain ⟨_, -, equal, -⟩ := executes_lift_iff.mp failed
    cases equal
  obtain ⟨_, ran, equal, rfl⟩ := executes_lift_iff.mp requested
  cases equal
  obtain ⟨reply, isRequests, rfl⟩ := requests_of_requestToken ran
  refine ⟨requests, reply, isRequests, ?_⟩
  cases reply with
  | error message =>
      obtain ⟨rfl, rfl, rfl⟩ := executes_ofExcept_bind_error_iff.mp continued
      exact .inl ⟨rfl, List.append_nil _, ⟨_, rfl⟩, rfl⟩
  | ok response =>
      have answered := executes_ofExcept_bind_ok_iff.mp continued
      by_cases success : response.status.isSuccess
      · rw [if_pos success] at answered
        rw [granted, if_pos success]
        cases read : readBody codec.readToken response with
        | error error =>
            rw [read] at answered
            obtain ⟨rfl, rfl, rfl⟩ := executes_ofExcept_bind_error_iff.mp answered
            exact .inl ⟨rfl, List.append_nil _, ⟨_, rfl⟩, rfl⟩
        | ok token =>
            rw [read] at answered
            exact .inr ⟨token, rest, rfl, rfl, executes_ofExcept_bind_ok_iff.mp answered⟩
      · rw [if_neg success] at answered
        obtain ⟨rfl, rfl, rfl⟩ := executes_throw_iff.mp answered
        rw [granted, if_neg success]
        exact .inl ⟨rfl, List.append_nil _, ⟨_, rfl⟩, rfl⟩

/-- The readings of the clock with which a manager compares the expiry of its token.  Without
one the first reading stands in for it. -/
inductive Reads (manager : TokenManager) :
    List SystemEvent → (token : Text) → (expiry now : Nat) → Prop
  | dated {token : Text} {expiry now : Nat} (held : manager.accessToken = some token)
      (expires : manager.tokenExpiry = some expiry) :
      Reads manager [⟨.instant, now⟩] token expiry now
  | undated {token : Text} {expiry now : Nat} (held : manager.accessToken = some token)
      (expires : manager.tokenExpiry = none) :
      Reads manager [⟨.instant, expiry⟩, ⟨.instant, now⟩] token expiry now

/-- The validity of a token ends in a renewal, or in the token that is there. -/
theorem ensureTokenValidity_cases {result : Except (Halt MiddlewareError) Unit}
    (executes : (ensureTokenValidity codec fuel).Executes before trace result after) :
    (before.accessToken = none ∧
        (getAccessToken codec fuel).Executes before trace result after) ∨
      (∃ readings rest token expiry now, trace = readings ++ rest ∧
        Reads before readings token expiry now ∧ expiry ≤ now ∧
          (getAccessToken codec fuel).Executes before rest result after) ∨
      ∃ token expiry now, Reads before trace token expiry now ∧ now < expiry ∧
        result = .ok () ∧ after = before := by
  rw [ensureTokenValidity, executes_self_bind_iff] at executes
  cases held : before.accessToken with
  | none =>
      rw [held] at executes
      exact .inl ⟨rfl, executes⟩
  | some token =>
      rw [held] at executes
      obtain ⟨readings, rest, expiry, now, reads, rfl, continued⟩ :
          ∃ readings rest expiry now, Reads before readings token expiry now ∧
            trace = readings ++ rest ∧
              (if expiry ≤ now then getAccessToken codec fuel else return ()).Executes before
                rest result after := by
        cases expires : before.tokenExpiry with
        | none =>
            simp only [expiryOrNow, expires, instantNow, executes_question_bind_iff] at executes
            obtain ⟨expiry, _, rfl, now, rest, rfl, continued⟩ := executes
            exact ⟨_, rest, expiry, now, .undated held expires, rfl, continued⟩
        | some expiry =>
            simp only [expiryOrNow, expires, instantNow] at executes
            rw [executes_bind_of_silent fun _ _ _ => executes_pure_iff,
              executes_question_bind_iff] at executes
            obtain ⟨now, rest, rfl, continued⟩ := executes
            exact ⟨_, rest, expiry, now, .dated held expires, rfl, continued⟩
      by_cases expired : expiry ≤ now
      · rw [if_pos expired] at continued
        exact .inr (.inl ⟨readings, rest, token, expiry, now, rfl, reads, expired, continued⟩)
      · rw [if_neg expired] at continued
        obtain ⟨rfl, rfl, rfl⟩ := executes_pure_iff.mp continued
        rw [List.append_nil]
        exact .inr (.inr ⟨token, expiry, now, reads, Nat.lt_of_not_le expired, rfl, rfl⟩)

end Renewals

end TokenRenewal

end QuantumSystem
