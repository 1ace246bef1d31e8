import Qrmi.QuantumSystemClient
import Qrmi.TokenRenewal
import Mathlib.Data.List.Pairwise

/-!
# Renewals that neither panic nor leave half a token

Every call of the middleware is made of renewals, and a renewal that does not panic
stores a token with its expiry or changes nothing.  The calls panic for two reasons: a
lifetime that ends after the last instant, and a token that is not the value of a
header.
-/

open Interaction

namespace QuantumSystem

namespace TokenRenewal

open Method TokenManager AuthMiddleware

/-! ## Along a call -/

/-- What holds of a composed method as soon as it holds of its parts. -/
structure Compositional (holds : (α : Type) → PanickingMethod α → Prop) : Prop where
  pure : ∀ {α : Type} (value : α), holds α (pure value)
  throw : ∀ {α : Type} (halt : Halt MiddlewareError), holds α (throw halt)
  self : holds TokenManager self
  instantNow : holds Nat instantNow
  ofExcept : ∀ {α : Type} (outcome : Except (Halt MiddlewareError) α),
    holds α (ofExcept outcome)
  bind : ∀ {α β : Type} {method : PanickingMethod α} {next : α → PanickingMethod β},
    holds α method → (∀ value, holds β (next value)) → holds β (method >>= next)

section Compositional

variable {holds : (α : Type) → PanickingMethod α → Prop} {codec : Codec} {fuel : Nat}
variable {isHeaderValue : Text → Bool} {next : HttpRequest → SystemProgram Outcome}

theorem Compositional.ensureTokenValidity (compositional : Compositional holds)
    (renews : holds Unit (getAccessToken codec fuel)) :
    holds Unit (ensureTokenValidity codec fuel) := by
  refine compositional.bind compositional.self fun manager => ?_
  cases manager.accessToken with
  | none => exact renews
  | some token =>
      have expiry : holds Nat (expiryOrNow manager) := by
        rw [expiryOrNow]
        cases manager.tokenExpiry with
        | some expiry => exact compositional.pure expiry
        | none => exact compositional.instantNow
      refine compositional.bind expiry fun expiry => ?_
      refine compositional.bind compositional.instantNow fun now => ?_
      split
      · exact renews
      · exact compositional.pure ()

theorem Compositional.getToken (compositional : Compositional holds)
    (renews : holds Unit (getAccessToken codec fuel)) : holds Text (getToken codec fuel) := by
  refine compositional.bind (compositional.ensureTokenValidity renews) fun _ => ?_
  refine compositional.bind compositional.self fun manager => ?_
  cases manager.accessToken with
  | some token => exact compositional.pure token
  | none => exact compositional.throw _

/-- What holds of renewals and of the layers below holds of a call. -/
theorem Compositional.handle (compositional : Compositional holds)
    (renews : holds Unit (getAccessToken codec fuel))
    (sends : ∀ request, holds Outcome (lift (next request))) (request : HttpRequest) :
    holds HttpResponse (handle isHeaderValue codec fuel next request) := by
  have sendsWith : ∀ token, holds Outcome (sendWith isHeaderValue next request token) := by
    intro token
    rw [sendWith]
    split
    · exact sends _
    · exact compositional.throw _
  refine compositional.bind (compositional.getToken renews) fun token => ?_
  refine compositional.bind (sendsWith token) fun response => ?_
  split
  · refine compositional.bind renews fun _ => ?_
    refine compositional.bind (compositional.getToken renews) fun token => ?_
    exact compositional.bind (sendsWith token) fun _ => compositional.ofExcept _
  · exact compositional.ofExcept _

end Compositional

/-! ## The renewals of a call -/

/-- One run of `get_access_token`. -/
structure Renewal where
  before : TokenManager
  trace : List SystemEvent
  result : Except (Halt MiddlewareError) Unit
  after : TokenManager

/-- Token and expiry are those of one reply, or nothing changes and the failure is
reported. -/
def Renewal.Atomic (codec : Codec) (renewal : Renewal) : Prop :=
  match renewal.result with
  | .ok () => ∃ requests reply now token expiry, Requests requests reply ∧
      renewal.trace = requests ++ [⟨.instant, now⟩] ∧ granted codec reply = some token ∧
        instantAfter now (nineTenths token.expiresIn) = some expiry ∧
          renewal.after = renewal.before.store token.accessToken expiry
  | .error (.failed _) => renewal.after = renewal.before
  | .error .panic => False

def Renews (codec : Codec) (fuel : Nat) (before : TokenManager) (renewal : Renewal)
    (after : TokenManager) : Prop :=
  renewal.before = before ∧ renewal.after = after ∧
    (getAccessToken codec fuel).Executes before renewal.trace renewal.result after

/-- The renewals account for the changes of the manager and for every request of a
token, and a renewal that ends in an error ends the whole. -/
structure Accounts {α : Type} (codec : Codec) (fuel : Nat) (before : TokenManager)
    (trace : List SystemEvent) (result : Except (Halt MiddlewareError) α)
    (after : TokenManager) (renewals : List Renewal) : Prop where
  history : History (Renews codec fuel) before renewals after
  requests : trace.filter isTokenRequest =
    renewals.flatMap fun renewal => renewal.trace.filter isTokenRequest
  reported : ∀ renewal ∈ renewals, ∀ halt, renewal.result = .error halt →
    result = .error halt

def Accounted {α : Type} (codec : Codec) (fuel : Nat) (method : PanickingMethod α) : Prop :=
  ∀ before trace result after, method.Executes before trace result after →
    ∃ renewals, Accounts codec fuel before trace result after renewals

section Accounts

variable {codec : Codec} {fuel : Nat} {α β : Type}

/-- What neither asks for a token nor touches the manager has no renewals. -/
theorem accounted_of_idle {method : PanickingMethod α}
    (idle : ∀ before trace result after, method.Executes before trace result after →
      after = before ∧ ∀ event ∈ trace, ¬ isTokenRequest event = true) :
    Accounted codec fuel method := by
  intro before trace result after executes
  obtain ⟨rfl, others⟩ := idle before trace result after executes
  refine ⟨[], .nil _, ?_, List.forall_mem_nil _⟩
  exact List.filter_eq_nil_iff.mpr others

theorem accounted_pure (value : α) : Accounted codec fuel (pure value) := by
  apply accounted_of_idle
  intro before trace result after executes
  obtain ⟨rfl, -, rfl⟩ := executes_pure_iff.mp executes
  exact ⟨rfl, List.forall_mem_nil _⟩

theorem accounted_throw (halt : Halt MiddlewareError) :
    Accounted codec fuel (throw halt : PanickingMethod α) := by
  apply accounted_of_idle
  intro before trace result after executes
  obtain ⟨rfl, -, rfl⟩ := executes_throw_iff.mp executes
  exact ⟨rfl, List.forall_mem_nil _⟩

theorem accounted_self : Accounted codec fuel self := by
  apply accounted_of_idle
  intro before trace result after executes
  obtain ⟨rfl, -, rfl⟩ := executes_self_iff.mp executes
  exact ⟨rfl, List.forall_mem_nil _⟩

theorem accounted_ofExcept (outcome : Except (Halt MiddlewareError) α) :
    Accounted codec fuel (ofExcept outcome) := by
  apply accounted_of_idle
  intro before trace result after executes
  obtain ⟨rfl, -, rfl⟩ := executes_ofExcept_iff.mp executes
  exact ⟨rfl, List.forall_mem_nil _⟩

theorem accounted_lift {program : SystemProgram α}
    (others : program.Emits fun event => ¬ isTokenRequest event = true) :
    Accounted codec fuel (lift program) := by
  apply accounted_of_idle
  intro before trace result after executes
  obtain ⟨value, runs, -, rfl⟩ := executes_lift_iff.mp executes
  exact ⟨rfl, others trace value runs⟩

theorem accounted_instantNow : Accounted codec fuel instantNow :=
  accounted_lift (Program.emits_question fun _ => Bool.false_ne_true)

theorem Accounted.bind {method : PanickingMethod α} {next : α → PanickingMethod β}
    (first : Accounted codec fuel method) (second : ∀ value, Accounted codec fuel (next value)) :
    Accounted codec fuel (method >>= next) := by
  intro before trace result after executes
  rcases executes_bind_iff.mp executes with ⟨halt, rfl, failed⟩ |
    ⟨_, _, value, middle, rfl, ran, continued⟩
  · obtain ⟨renewals, accounts⟩ := first before trace _ after failed
    refine ⟨renewals, accounts.history, accounts.requests, ?_⟩
    intro renewal member halted ended
    have same := accounts.reported renewal member halted ended
    cases same
    rfl
  · obtain ⟨earlier, accounts⟩ := first before _ _ middle ran
    obtain ⟨later, accountsLater⟩ := second value middle _ result after continued
    refine ⟨earlier ++ later, accounts.history.append accountsLater.history, ?_, ?_⟩
    · rw [List.filter_append, List.flatMap_append, accounts.requests, accountsLater.requests]
    · intro renewal member halt ended
      rcases List.mem_append.mp member with inEarlier | inLater
      · cases accounts.reported renewal inEarlier halt ended
      · exact accountsLater.reported renewal inLater halt ended

theorem accounted_getAccessToken : Accounted codec fuel (getAccessToken codec fuel) := by
  intro before trace result after executes
  refine ⟨[⟨before, trace, result, after⟩], .cons ⟨rfl, rfl, executes⟩ (.nil after), ?_, ?_⟩
  · rw [List.flatMap_singleton]
  · intro renewal member halt ended
    rwa [List.mem_singleton.mp member] at ended

theorem compositional_accounted :
    Compositional fun α => @Accounted α codec fuel where
  pure := accounted_pure
  throw := accounted_throw
  self := accounted_self
  instantNow := accounted_instantNow
  ofExcept := accounted_ofExcept
  bind := Accounted.bind

end Accounts

/-! ## Safe calls -/

def isSend : SystemEvent → Bool
  | ⟨.send _, _⟩ => true
  | _ => false

theorem not_isSend_of_isTokenRequest {event : SystemEvent}
    (requests : isTokenRequest event = true) : ¬ isSend event = true := by
  obtain ⟨action, answer⟩ := event
  cases action with
  | send request => cases requests
  | _ => exact Bool.false_ne_true

/-- The layers below: they send the request and return. -/
structure Transport (next : HttpRequest → SystemProgram Outcome) : Prop where
  total : ∀ request, (next request).Total
  sends : ∀ request, (next request).Emits fun event => isSend event = true

/-- A call comes back without a panic, and each of its renewals is atomic. -/
structure Safe {α : Type} (codec : Codec) (fuel : Nat) (before : TokenManager)
    (trace : List SystemEvent) (result : Except (Halt MiddlewareError) α)
    (after : TokenManager) : Prop where
  returns : result ≠ .error .panic
  atomic : ∃ renewals, Accounts codec fuel before trace result after renewals ∧
    ∀ renewal ∈ renewals, renewal.Atomic codec

section Safety

variable {codec : Codec} {fuel : Nat} {isHeaderValue : Text → Bool}
variable {next : HttpRequest → SystemProgram Outcome}

/-- A renewal is atomic unless it panics. -/
theorem atomic_of_returns {before after : TokenManager} {trace : List SystemEvent}
    {result : Except (Halt MiddlewareError) Unit}
    (executes : (getAccessToken codec fuel).Executes before trace result after)
    (returns : result ≠ .error .panic) :
    Renewal.Atomic codec ⟨before, trace, result, after⟩ := by
  obtain ⟨requests, reply, isRequests, refused | granting⟩ := getAccessToken_cases executes
  · obtain ⟨-, -, ⟨error, rfl⟩, unchanged⟩ := refused
    exact unchanged
  · obtain ⟨token, stored, grants, rfl, stores⟩ := granting
    obtain ⟨now, rfl, ⟨expiry, fits, rfl, rfl⟩ | ⟨-, rfl, -⟩⟩ := executes_storeToken_iff.mp stores
    · exact ⟨requests, reply, now, token, expiry, isRequests, rfl, grants, fits, rfl⟩
    · exact absurd rfl returns

theorem accounted_handle (transport : Transport next) (request : HttpRequest) :
    Accounted codec fuel (handle isHeaderValue codec fuel next request) := by
  apply compositional_accounted.handle accounted_getAccessToken
  intro request
  apply accounted_lift
  intro trace outcome runs event member
  have sent := transport.sends request trace outcome runs event member
  exact fun requests => not_isSend_of_isTokenRequest requests sent

theorem executes_of_history {before after : TokenManager} {renewals : List Renewal}
    (history : History (Renews codec fuel) before renewals after) {renewal : Renewal}
    (member : renewal ∈ renewals) :
    (getAccessToken codec fuel).Executes renewal.before renewal.trace renewal.result
      renewal.after := by
  obtain ⟨earlier, later, rfl⟩ := List.append_of_mem member
  obtain ⟨middle, -, rest⟩ := history.split
  cases rest with
  | cons renews _ =>
      obtain ⟨rfl, rfl, executes⟩ := renews
      exact executes

/-- A call that comes back is safe. -/
theorem safe_of_returns (transport : Transport next) {request : HttpRequest}
    {before after : TokenManager} {trace : List SystemEvent}
    {result : Except (Halt MiddlewareError) HttpResponse}
    (executes : (handle isHeaderValue codec fuel next request).Executes before trace result after)
    (returns : result ≠ .error .panic) : Safe codec fuel before trace result after := by
  obtain ⟨renewals, accounts⟩ := accounted_handle transport request before trace result after
    executes
  refine ⟨returns, renewals, accounts, ?_⟩
  intro renewal member
  refine atomic_of_returns (executes_of_history accounts.history member) ?_
  intro panics
  exact returns (accounts.reported renewal member .panic panics)

end Safety

/-! ## What a call is answered -/

/-- A token is the value of a header. -/
def IsLegal (isHeaderValue : Text → Bool) (token : Text) : Prop :=
  isHeaderValue (bearer token) = true

instance (isHeaderValue : Text → Bool) (token : Text) :
    Decidable (IsLegal isHeaderValue token) :=
  inferInstanceAs (Decidable (_ = true))

/-- The clock is read next, and the time is not before the given one. -/
def ExpiresBy (expiry : Nat) (later : List SystemEvent) : Prop :=
  ∃ now rest, later = ⟨.instant, now⟩ :: rest ∧ expiry ≤ now

/-- A reply of the identity service.  Where the clock is read next, a token that it grants is
stored: its expiry can be told, and it is the value of a header unless it has expired when
the clock is read again. -/
def SoundReply (isHeaderValue : Text → Bool) (codec : Codec) (reply : HttpReply) :
    List SystemEvent → Prop
  | ⟨.instant, now⟩ :: later => ∀ token, granted codec reply = some token →
      ∃ expiry, instantAfter now (nineTenths token.expiresIn) = some expiry ∧
        (IsLegal isHeaderValue token.accessToken ∨ ExpiresBy expiry later)
  | _ => True

/-- All replies of the identity service are like that. -/
def SoundReplies (isHeaderValue : Text → Bool) (codec : Codec) : List SystemEvent → Prop
  | [] => True
  | ⟨.postForm _ _, reply⟩ :: later =>
      SoundReply isHeaderValue codec reply later ∧ SoundReplies isHeaderValue codec later
  | _ :: later => SoundReplies isHeaderValue codec later

/-- What a call is answered is sound: so are the replies, and a token that is held is the
value of a header unless it has expired when the call reads the clock. -/
structure Sound (isHeaderValue : Text → Bool) (codec : Codec) (manager : TokenManager)
    (trace : List SystemEvent) : Prop where
  held : ∀ readings rest token expiry now, trace = readings ++ rest →
    Reads manager readings token expiry now → now < expiry → IsLegal isHeaderValue token
  replies : SoundReplies isHeaderValue codec trace

section Soundness

variable {codec : Codec} {fuel : Nat} {isHeaderValue : Text → Bool}
variable {next : HttpRequest → SystemProgram Outcome} {request : HttpRequest}
variable {before after : TokenManager} {trace first later : List SystemEvent}

theorem soundReplies_append_iff (others : ∀ event ∈ first, ¬ isTokenRequest event = true) :
    SoundReplies isHeaderValue codec (first ++ later) ↔
      SoundReplies isHeaderValue codec later := by
  induction first with
  | nil => rfl
  | cons event first ih =>
      obtain ⟨other, rest⟩ := List.forall_mem_cons.mp others
      obtain ⟨action, answer⟩ := event
      cases action with
      | postForm url form => exact absurd rfl other
      | _ => exact ih rest

/-- Only the last one of the requests of a renewal may be followed by a reading of the
clock. -/
theorem soundReplies_requests_iff {requests : List SystemEvent} {reply : HttpReply}
    (isRequests : Requests requests reply) :
    SoundReplies isHeaderValue codec (requests ++ later) ↔
      SoundReply isHeaderValue codec reply later ∧ SoundReplies isHeaderValue codec later := by
  obtain ⟨all, earlier, url, form, rfl⟩ := isRequests
  induction earlier with
  | nil => rfl
  | cons event earlier ih =>
      obtain ⟨requested, others⟩ := List.forall_mem_cons.mp all
      obtain ⟨action, answer⟩ := event
      cases action with
      | postForm url' form' =>
          rw [← ih others]
          refine and_iff_right ?_
          cases earlier with
          | nil => trivial
          | cons event earlier =>
              obtain ⟨requested, -⟩ := List.forall_mem_cons.mp others
              obtain ⟨action, answer⟩ := event
              cases action with
              | postForm => trivial
              | _ => cases requested
      | _ => cases requested

/-- The call goes on without a reading of the clock. -/
def StartsLater (later : List SystemEvent) : Prop :=
  ∀ now rest, later ≠ ⟨.instant, now⟩ :: rest

theorem expiresBy_reading_iff {expiry now : Nat} :
    ExpiresBy expiry (⟨.instant, now⟩ :: later) ↔ expiry ≤ now := by
  constructor
  · rintro ⟨other, rest, same, expired⟩
    cases same
    exact expired
  · exact fun expired => ⟨now, later, rfl, expired⟩

theorem StartsLater.not_expiresBy (starts : StartsLater later) (expiry : Nat) :
    ¬ ExpiresBy expiry later := by
  rintro ⟨now, rest, equal, -⟩
  exact starts now rest equal

theorem Requests.startsLater {requests : List SystemEvent} {reply : HttpReply}
    (isRequests : Requests requests reply) (later : List SystemEvent) :
    StartsLater (requests ++ later) := by
  intro now rest equal
  obtain ⟨all, earlier, url, form, rfl⟩ := isRequests
  cases earlier with
  | nil => cases equal
  | cons event earlier =>
      cases equal
      cases (List.forall_mem_cons.mp all).1

/-- A renewal fails, or panics at an expiry that cannot be told, or stores a token that has
to be a legal one by the time it is used. -/
theorem renewal_cases {result : Except (Halt MiddlewareError) Unit}
    (executes : (getAccessToken codec fuel).Executes before trace result after) :
    (∃ error, result = .error (.failed error) ∧ SoundReplies isHeaderValue codec trace) ∨
      (result = .error .panic ∧ ¬ SoundReplies isHeaderValue codec trace) ∨
        ∃ token expiry, result = .ok () ∧ after.accessToken = some token ∧
          after.tokenExpiry = some expiry ∧ ∀ later,
            (SoundReplies isHeaderValue codec (trace ++ later) ↔
              (IsLegal isHeaderValue token ∨ ExpiresBy expiry later) ∧
                SoundReplies isHeaderValue codec later) := by
  obtain ⟨requests, reply, isRequests, ⟨-, rfl, ⟨error, rfl⟩, rfl⟩ |
    ⟨token, stored, grants, rfl, stores⟩⟩ := getAccessToken_cases executes
  · refine .inl ⟨error, rfl, ?_⟩
    rw [← List.append_nil trace, soundReplies_requests_iff isRequests]
    exact ⟨trivial, trivial⟩
  obtain ⟨now, rfl, ⟨expiry, told, rfl, rfl⟩ | ⟨late, rfl, rfl⟩⟩ :=
    executes_storeToken_iff.mp stores
  · refine .inr (.inr ⟨token.accessToken, expiry, rfl, rfl, rfl, fun later => ?_⟩)
    rw [List.append_assoc, soundReplies_requests_iff isRequests]
    refine and_congr_left' ?_
    constructor
    · intro sound
      obtain ⟨other, equal, legal⟩ := sound token grants
      obtain rfl := Option.some.inj (told.symm.trans equal)
      exact legal
    · rintro legal other granting
      obtain rfl := Option.some.inj (grants.symm.trans granting)
      exact ⟨expiry, told, legal⟩
  · refine .inr (.inl ⟨rfl, fun sound => ?_⟩)
    obtain ⟨expiry, told, -⟩ := ((soundReplies_requests_iff isRequests).mp sound).1 token grants
    cases late.symm.trans told

theorem Reads.not_isTokenRequest {readings : List SystemEvent} {token : Text} {expiry now : Nat}
    (reads : Reads before readings token expiry now) :
    ∀ event ∈ readings, ¬ isTokenRequest event = true := by
  cases reads with
  | dated | undated => simp [isTokenRequest]

/-- The readings of a call are determined by its events. -/
theorem Reads.unique {readings others rest later : List SystemEvent} {token other : Text}
    {expiry now expiry' now' : Nat} (reads : Reads before readings token expiry now)
    (again : Reads before others other expiry' now') (same : readings ++ rest = others ++ later) :
    token = other ∧ expiry = expiry' ∧ now = now' := by
  cases reads with
  | dated held expires =>
      cases again with
      | dated held' expires' =>
          cases same
          exact ⟨Option.some.inj (held.symm.trans held'),
            Option.some.inj (expires.symm.trans expires'), rfl⟩
      | undated held' expires' => cases expires.symm.trans expires'
  | undated held expires =>
      cases again with
      | dated held' expires' => cases expires.symm.trans expires'
      | undated held' expires' =>
          cases same
          exact ⟨Option.some.inj (held.symm.trans held'), rfl, rfl⟩

theorem sound_iff_of_absent (absent : before.accessToken = none) :
    Sound isHeaderValue codec before trace ↔ SoundReplies isHeaderValue codec trace := by
  refine ⟨Sound.replies, fun replies => ⟨?_, replies⟩⟩
  intro readings rest token expiry now _ reads
  cases reads with
  | dated held | undated held => cases absent.symm.trans held

theorem sound_iff_of_reads {readings : List SystemEvent} {token : Text} {expiry now : Nat}
    (reads : Reads before readings token expiry now) :
    Sound isHeaderValue codec before (readings ++ later) ↔
      (now < expiry → IsLegal isHeaderValue token) ∧ SoundReplies isHeaderValue codec later := by
  constructor
  · intro sound
    refine ⟨sound.held readings later token expiry now rfl reads, ?_⟩
    exact (soundReplies_append_iff reads.not_isTokenRequest).mp sound.replies
  · rintro ⟨legal, replies⟩
    refine ⟨?_, (soundReplies_append_iff reads.not_isTokenRequest).mpr replies⟩
    intro others rest other expiry' now' same again fresh
    obtain ⟨rfl, rfl, rfl⟩ := reads.unique again same
    exact legal fresh

/-- A renewal before a token is returned. -/
theorem renewed_cases {result : Except (Halt MiddlewareError) Unit}
    (executes : (getAccessToken codec fuel).Executes before trace result after) :
    (∃ error, result = .error (.failed error) ∧ SoundReplies isHeaderValue codec trace) ∨
      (result = .error .panic ∧ ¬ SoundReplies isHeaderValue codec trace) ∨
        ∃ token, result = .ok () ∧ after.accessToken = some token ∧ ∀ later, StartsLater later →
          (SoundReplies isHeaderValue codec (trace ++ later) ↔
            IsLegal isHeaderValue token ∧ SoundReplies isHeaderValue codec later) := by
  rcases renewal_cases executes with failed | panicked | ⟨token, expiry, rfl, held, -, sound⟩
  · exact .inl failed
  · exact .inr (.inl panicked)
  · refine .inr (.inr ⟨token, rfl, held, fun later starts => ?_⟩)
    rw [sound later, or_iff_left (starts.not_expiresBy expiry)]

/-- The validity of a token fails, or panics, or leaves a token that has to be a legal one. -/
theorem validity_cases {result : Except (Halt MiddlewareError) Unit}
    (executes : (ensureTokenValidity codec fuel).Executes before trace result after) :
    (∃ error, result = .error (.failed error) ∧ Sound isHeaderValue codec before trace) ∨
      (result = .error .panic ∧ ¬ Sound isHeaderValue codec before trace) ∨
        ∃ token, result = .ok () ∧ after.accessToken = some token ∧ ∀ later, StartsLater later →
          (Sound isHeaderValue codec before (trace ++ later) ↔
            IsLegal isHeaderValue token ∧ SoundReplies isHeaderValue codec later) := by
  rcases ensureTokenValidity_cases executes with ⟨absent, renews⟩ |
    ⟨readings, rest, held, expiry, now, rfl, reads, expired, renews⟩ |
    ⟨token, expiry, now, reads, fresh, rfl, rfl⟩
  · simp only [sound_iff_of_absent absent]
    exact renewed_cases renews
  · simp only [List.append_assoc, sound_iff_of_reads reads, Nat.not_lt.mpr expired,
      false_imp_iff, true_and]
    exact renewed_cases renews
  · have held : after.accessToken = some token := by
      cases reads with
      | dated held | undated held => exact held
    refine .inr (.inr ⟨token, rfl, held, fun later _ => ?_⟩)
    rw [sound_iff_of_reads reads, forall_prop_of_true fresh]

/-- `get_token` fails, or panics, or gives a token that has to be a legal one. -/
theorem getToken_cases {result : Except (Halt MiddlewareError) Text}
    (executes : (getToken codec fuel).Executes before trace result after) :
    (∃ error, result = .error (.failed error) ∧ Sound isHeaderValue codec before trace) ∨
      (result = .error .panic ∧ ¬ Sound isHeaderValue codec before trace) ∨
        ∃ token, result = .ok token ∧ ∀ later, StartsLater later →
          (Sound isHeaderValue codec before (trace ++ later) ↔
            IsLegal isHeaderValue token ∧ SoundReplies isHeaderValue codec later) := by
  rcases executes_bind_iff.mp executes with ⟨halt, rfl, halted⟩ |
    ⟨validity, _, _, middle, rfl, validated, continued⟩
  · rcases validity_cases halted with ⟨error, same, sound⟩ | ⟨same, unsound⟩ | ⟨_, same, -⟩
    · cases same
      exact .inl ⟨error, rfl, sound⟩
    · cases same
      exact .inr (.inl ⟨rfl, unsound⟩)
    · cases same
  rcases validity_cases validated with ⟨_, same, -⟩ | ⟨same, -⟩ | ⟨token, -, held, sound⟩
  · cases same
  · cases same
  · rw [executes_self_bind_iff, held] at continued
    obtain ⟨rfl, rfl, rfl⟩ := executes_pure_iff.mp continued
    rw [List.append_nil]
    exact .inr (.inr ⟨token, rfl, sound⟩)

/-- What follows the outcome of a round panics just where its replies are unsound, and does
not begin with a reading of the clock. -/
def PanicsUnsoundly {α : Type} (isHeaderValue : Text → Bool) (codec : Codec)
    (method : PanickingMethod α) : Prop :=
  ∀ before trace result after, method.Executes before trace result after →
    StartsLater trace ∧ (result ≠ .error .panic ↔ SoundReplies isHeaderValue codec trace)

/-- Getting a token and sending the request with it. -/
theorem ne_panic_iff_of_opening {α : Type} {rest : Outcome → PanickingMethod α}
    {result : Except (Halt MiddlewareError) α} (transport : Transport next)
    (continues : ∀ outcome, PanicsUnsoundly isHeaderValue codec (rest outcome))
    (executes : (getToken codec fuel >>= fun token =>
      sendWith isHeaderValue next request token >>= rest).Executes before trace result after) :
    result ≠ .error .panic ↔ Sound isHeaderValue codec before trace := by
  rcases executes_bind_iff.mp executes with ⟨halt, rfl, halted⟩ |
    ⟨first, _, token, middle, rfl, gets, continued⟩
  · rcases getToken_cases halted with ⟨error, same, sound⟩ | ⟨same, unsound⟩ | ⟨_, same, -⟩
    · cases same
      exact iff_of_true (by rintro ⟨⟩) sound
    · cases same
      exact iff_of_false (fun returns => returns rfl) unsound
    · cases same
  rcases getToken_cases gets with ⟨_, same, -⟩ | ⟨same, -⟩ | ⟨_, same, sound⟩
  · cases same
  · cases same
  cases same
  by_cases legal : IsLegal isHeaderValue token
  · rw [sendWith, if_pos (show isHeaderValue (bearer token) = true from legal)] at continued
    rcases executes_bind_iff.mp continued with ⟨_, -, halted⟩ |
      ⟨sent, later, outcome, _, rfl, sends, answers⟩
    · obtain ⟨_, -, same, -⟩ := executes_lift_iff.mp halted
      cases same
    obtain ⟨_, runs, -, rfl⟩ := executes_lift_iff.mp sends
    obtain ⟨starts, decides⟩ := continues outcome _ _ _ _ answers
    have others : ∀ event ∈ sent, ¬ isTokenRequest event = true := fun event member requests =>
      not_isSend_of_isTokenRequest requests (transport.sends _ _ _ runs event member)
    have startsSent : StartsLater (sent ++ later) := by
      cases sent with
      | nil => exact starts
      | cons event sent =>
          intro now rest same
          cases same
          cases transport.sends _ _ _ runs _ List.mem_cons_self
    rw [decides, sound _ startsSent, soundReplies_append_iff others, and_iff_right legal]
  · rw [sendWith, if_neg (show ¬ isHeaderValue (bearer token) = true from legal)] at continued
    have panics : (throw .panic : PanickingMethod α).Executes _ _ result after := continued
    obtain ⟨rfl, rfl, -⟩ := executes_throw_iff.mp panics
    refine iff_of_false (fun returns => returns rfl) fun holds => legal ?_
    exact ((sound [] (by rintro _ _ ⟨⟩)).mp holds).1

/-- A renewed manager reads the clock before anything else. -/
theorem exists_reading_of_renewed {α : Type} {rest : Text → PanickingMethod α}
    {result : Except (Halt MiddlewareError) α} {token : Text} {expiry : Nat}
    (held : before.accessToken = some token) (expires : before.tokenExpiry = some expiry)
    (executes : (getToken codec fuel >>= rest).Executes before trace result after) :
    ∃ now later, trace = ⟨.instant, now⟩ :: later := by
  have reading : ∀ {result : Except (Halt MiddlewareError) Unit} {trace after},
      (ensureTokenValidity codec fuel).Executes before trace result after →
        ∃ now later, trace = ⟨.instant, now⟩ :: later := by
    intro result trace after validates
    rw [ensureTokenValidity, executes_self_bind_iff, held] at validates
    simp only [expiryOrNow, expires, instantNow] at validates
    rw [executes_bind_of_silent fun _ _ _ => executes_pure_iff,
      executes_question_bind_iff] at validates
    obtain ⟨now, later, rfl, -⟩ := validates
    exact ⟨now, later, rfl⟩
  have reads : ∀ {result : Except (Halt MiddlewareError) Text} {trace after},
      (getToken codec fuel).Executes before trace result after →
        ∃ now later, trace = ⟨.instant, now⟩ :: later := by
    intro result trace after gets
    rcases executes_bind_iff.mp gets with ⟨_, -, halted⟩ | ⟨_, _, _, _, rfl, validates, -⟩
    · exact reading halted
    · obtain ⟨now, later, rfl⟩ := reading validates
      exact ⟨now, later ++ _, rfl⟩
  rcases executes_bind_iff.mp executes with ⟨_, -, halted⟩ | ⟨_, _, _, _, rfl, gets, -⟩
  · exact reads halted
  · obtain ⟨now, later, rfl⟩ := reads gets
    exact ⟨now, later ++ _, rfl⟩

theorem panicsUnsoundly_ofExcept (outcome : Outcome) :
    PanicsUnsoundly isHeaderValue codec (ofExcept (outcome.mapError Halt.failed)) := by
  intro before trace result after executes
  obtain ⟨rfl, rfl, rfl⟩ := executes_ofExcept_iff.mp executes
  exact ⟨by rintro _ _ ⟨⟩, iff_of_true (mapError_failed_ne_panic outcome) trivial⟩

/-- The second round: a renewal, whose token may expire before it is used. -/
theorem panicsUnsoundly_renewal (transport : Transport next) :
    PanicsUnsoundly isHeaderValue codec (do
      getAccessToken codec fuel
      let token ← getToken codec fuel
      let response ← sendWith isHeaderValue next request token
      ofExcept (response.mapError .failed)) := by
  intro before trace result after executes
  have starts : ∀ {result : Except (Halt MiddlewareError) Unit} {first after} later,
      (getAccessToken codec fuel).Executes before first result after →
        StartsLater (first ++ later) := by
    intro result first after later renews
    obtain ⟨requests, reply, isRequests, ⟨-, rfl, -⟩ | ⟨_, stored, -, rfl, -⟩⟩ :=
      getAccessToken_cases renews
    · exact isRequests.startsLater later
    · rw [List.append_assoc]
      exact isRequests.startsLater _
  rcases executes_bind_iff.mp executes with ⟨halt, rfl, halted⟩ |
    ⟨first, later, _, middle, rfl, renews, continued⟩
  · refine ⟨List.append_nil trace ▸ starts [] halted, ?_⟩
    rcases renewal_cases halted with ⟨error, same, sound⟩ | ⟨same, unsound⟩ | ⟨_, _, same, -⟩
    · cases same
      exact iff_of_true (by rintro ⟨⟩) sound
    · cases same
      exact iff_of_false (fun returns => returns rfl) unsound
    · cases same
  refine ⟨starts later renews, ?_⟩
  rcases renewal_cases renews with ⟨_, same, -⟩ | ⟨same, -⟩ |
    ⟨token, expiry, -, held, expires, sound⟩
  · cases same
  · cases same
  rw [sound later, ne_panic_iff_of_opening transport panicsUnsoundly_ofExcept continued]
  obtain ⟨now, rest, rfl⟩ := exists_reading_of_renewed held expires continued
  have reads : Reads middle [⟨.instant, now⟩] token expiry now := .dated held expires
  refine (sound_iff_of_reads reads).trans (and_congr_left' ?_)
  rw [expiresBy_reading_iff, ← Nat.not_lt, or_comm, imp_iff_not_or]

/-- A call panics just where what it is answered is unsound. -/
theorem ne_panic_iff_sound (transport : Transport next)
    {result : Except (Halt MiddlewareError) HttpResponse}
    (executes : (handle isHeaderValue codec fuel next request).Executes before trace result
      after) :
    result ≠ .error .panic ↔ Sound isHeaderValue codec before trace := by
  refine ne_panic_iff_of_opening transport (fun outcome => ?_) executes
  split
  · exact panicsUnsoundly_renewal transport
  · exact panicsUnsoundly_ofExcept outcome

end Soundness

/-! ## Calls come back -/

/-- The fuel is enough for the requests of a token. -/
def IsBounded (fuel : Nat) (manager : TokenManager) : Prop :=
  ∃ retries, manager.retryPolicy.maxNRetries = some retries ∧ retries < fuel

/-- With enough fuel a method is not cut off, and the fuel stays enough. -/
structure Finishes {α : Type} (fuel : Nat) (method : PanickingMethod α) : Prop where
  returns : ∀ before trace, IsBounded fuel before → ¬ method.Stalls before trace
  keeps : ∀ before trace result after, IsBounded fuel before →
    method.Executes before trace result after → IsBounded fuel after

section Termination

variable {codec : Codec} {fuel : Nat} {isHeaderValue : Text → Bool} {α β : Type}
variable {next : HttpRequest → SystemProgram Outcome}

theorem Finishes.bind {method : PanickingMethod α} {next : α → PanickingMethod β}
    (first : Finishes fuel method) (second : ∀ value, Finishes fuel (next value)) :
    Finishes fuel (method >>= next) where
  returns before trace bounded stalls := by
    rcases stalls_bind_iff.mp stalls with inFirst | ⟨_, _, value, middle, -, ran, inSecond⟩
    · exact first.returns before trace bounded inFirst
    · have still := first.keeps before _ _ middle bounded ran
      exact (second value).returns middle _ still inSecond
  keeps before trace result after bounded executes := by
    rcases executes_bind_iff.mp executes with ⟨_, rfl, failed⟩ |
      ⟨_, _, value, middle, rfl, ran, continued⟩
    · exact first.keeps before trace _ after bounded failed
    · have still := first.keeps before _ _ middle bounded ran
      exact (second value).keeps middle _ result after still continued

theorem finishes_self_bind {next : TokenManager → PanickingMethod β}
    (continues : ∀ manager, IsBounded fuel manager → Finishes fuel (next manager)) :
    Finishes fuel (self >>= next) where
  returns before trace bounded stalls := by
    rcases stalls_bind_iff.mp stalls with inSelf | ⟨_, _, manager, middle, -, ran, continued⟩
    · exact returns_self before trace inSelf
    · obtain ⟨-, equal, rfl⟩ := executes_self_iff.mp ran
      cases equal
      exact (continues manager bounded).returns manager _ bounded continued
  keeps before trace result after bounded executes := by
    rw [executes_self_bind_iff] at executes
    exact (continues before bounded).keeps before trace result after bounded executes

theorem finishes_pure (value : α) : Finishes fuel (pure value) where
  returns before trace _ := returns_pure value before trace
  keeps _ _ _ _ bounded executes := (executes_pure_iff.mp executes).2.2 ▸ bounded

theorem finishes_throw (halt : Halt MiddlewareError) :
    Finishes fuel (throw halt : PanickingMethod α) where
  returns before trace _ := returns_throw halt before trace
  keeps _ _ _ _ bounded executes := (executes_throw_iff.mp executes).2.2 ▸ bounded

theorem finishes_self : Finishes fuel self where
  returns before trace _ := returns_self before trace
  keeps _ _ _ _ bounded executes := (executes_self_iff.mp executes).2.2 ▸ bounded

theorem finishes_ofExcept (outcome : Except (Halt MiddlewareError) α) :
    Finishes fuel (ofExcept outcome) where
  returns before trace _ := returns_ofExcept outcome before trace
  keeps _ _ _ _ bounded executes := (executes_ofExcept_iff.mp executes).2.2 ▸ bounded

theorem finishes_modify {change : TokenManager → TokenManager}
    (keeps : ∀ manager, (change manager).retryPolicy = manager.retryPolicy) :
    Finishes fuel (modify change) where
  returns before trace _ := returns_modify change before trace
  keeps before _ _ _ bounded executes := by
    rw [(executes_modify_iff.mp executes).2.2, IsBounded, keeps before]
    exact bounded

theorem finishes_lift {program : SystemProgram α} (total : program.Total) :
    Finishes fuel (lift program) where
  returns before trace _ := returns_lift total before trace
  keeps _ _ _ _ bounded executes := by
    obtain ⟨_, -, -, rfl⟩ := executes_lift_iff.mp executes
    exact bounded

theorem finishes_instantNow : Finishes fuel instantNow :=
  finishes_lift (Program.total_question _)

theorem finishes_storeToken (token : GetAccessTokenResponse) :
    Finishes fuel (storeToken token) := by
  have first : Finishes fuel (modify (setAccessToken token.accessToken)) :=
    finishes_modify fun _ => rfl
  refine first.bind fun _ => finishes_instantNow.bind fun now => ?_
  split
  · exact finishes_modify fun _ => rfl
  · exact finishes_throw _

/-- A retry loop stops at the limit of its policy. -/
theorem total_handle {policy : RetryPolicy} {strategy : Outcome → Bool}
    {program : SystemProgram Outcome} (total : program.Total) {retries : Nat}
    (limited : policy.maxNRetries = some retries) (enough : retries < fuel) :
    (TransparentRetryMiddleware.handle policy strategy program fuel).Total := by
  refine total.repeatWhile ?_ (Nat.zero_lt_of_lt enough) enough
  intro past value late
  rw [policy.shouldRetry_of_late limited late, Bool.and_false]

theorem total_transmit (action : SystemAction) (asReply : action.Answer → HttpReply) :
    (transmit action asReply).Total :=
  (Program.total_question action).bind fun _ => Program.total_pure _

theorem finishes_getAccessToken : Finishes fuel (getAccessToken codec fuel) := by
  refine finishes_self_bind fun manager bounded => ?_
  obtain ⟨retries, limited, enough⟩ := bounded
  have requests : (manager.requestToken codec fuel).Total :=
    total_handle (total_transmit _ _) limited enough
  refine (finishes_lift requests).bind fun outcome => (finishes_ofExcept _).bind fun response => ?_
  split
  · exact (finishes_ofExcept _).bind finishes_storeToken
  · exact finishes_throw _

theorem compositional_finishes : Compositional fun α => @Finishes α fuel where
  pure := finishes_pure
  throw := finishes_throw
  self := finishes_self
  instantNow := finishes_instantNow
  ofExcept := finishes_ofExcept
  bind := Finishes.bind

theorem finishes_handle (transport : Transport next) (request : HttpRequest) :
    Finishes fuel (handle isHeaderValue codec fuel next request) :=
  compositional_finishes.handle finishes_getAccessToken
    (fun request => finishes_lift (transport.total request)) request

end Termination

section Runs

variable {codec : Codec} {fuel : Nat} {isHeaderValue : Text → Bool}
variable {before after : TokenManager} {trace : List SystemEvent}
variable {reply : HttpReply} {token : GetAccessTokenResponse} {now : Nat}

theorem executes_bind_of_ok {α β : Type} {method : PanickingMethod α}
    {next : α → PanickingMethod β} {middle : TokenManager} {later : List SystemEvent}
    {value : α} {result : Except (Halt MiddlewareError) β}
    (first : method.Executes before trace (.ok value) middle)
    (second : (next value).Executes middle later result after) :
    (method >>= next).Executes before (trace ++ later) result after :=
  executes_bind_iff.mpr (.inr ⟨trace, later, value, middle, rfl, first, second⟩)

theorem executes_bind_of_halt {α β : Type} {method : PanickingMethod α}
    {next : α → PanickingMethod β} {halt : Halt MiddlewareError}
    (first : method.Executes before trace (.error halt) after) :
    (method >>= next).Executes before trace (.error halt) after :=
  executes_bind_iff.mpr (.inl ⟨halt, rfl, first⟩)

/-- The form of a token request. -/
def tokenForm (manager : TokenManager) : List (String × Text) :=
  [("grant_type", "urn:ibm:params:oauth:grant-type:apikey".toList), ("apikey", manager.apiKey)]

/-- A renewal with a granted token ends as the storing of it does. -/
theorem executes_getAccessToken {response : HttpResponse} (fueled : 0 < fuel)
    (final : codec.defaultRetryableStrategy (.ok response) = false)
    (grants : granted codec (.ok response) = some token)
    {stored : List SystemEvent} {result : Except (Halt MiddlewareError) Unit}
    (stores : (storeToken token).Executes before stored result after) :
    (getAccessToken codec fuel).Executes before
      (⟨.postForm before.tokenUrl (tokenForm before), .ok response⟩ :: stored) result after := by
  rw [granted] at grants
  split_ifs at grants with success
  have runs : (before.requestToken codec fuel).Runs
      [⟨.postForm before.tokenUrl (tokenForm before), .ok response⟩] (.ok response) :=
    runs_handle_of_final final fueled
  rw [getAccessToken, executes_self_bind_iff]
  refine executes_bind_of_ok (executes_lift_iff.mpr ⟨_, runs, rfl, rfl⟩) ?_
  refine executes_ofExcept_bind_ok_iff.mpr ?_
  rw [if_pos success]
  cases read : readBody codec.readToken response with
  | error error =>
      rw [read] at grants
      cases grants
  | ok other =>
      rw [read] at grants
      cases grants
      exact executes_ofExcept_bind_ok_iff.mpr stores

/-- Getting a token when one is held, which is renewed if it has expired. -/
theorem executes_getToken {held supplied : Text} {expiry : Nat}
    (holds : before.accessToken = some held) (expires : before.tokenExpiry = some expiry)
    (renews : (if expiry ≤ now then getAccessToken codec fuel else return ()).Executes before
      trace (.ok ()) after)
    (supplies : after.accessToken = some supplied) :
    (getToken codec fuel).Executes before (⟨.instant, now⟩ :: trace) (.ok supplied) after := by
  have valid : (ensureTokenValidity codec fuel).Executes before (⟨.instant, now⟩ :: trace)
      (.ok ()) after := by
    rw [ensureTokenValidity, executes_self_bind_iff, holds]
    simp only [expiryOrNow, expires, instantNow]
    rw [executes_bind_of_silent fun _ _ _ => executes_pure_iff, executes_question_bind_iff]
    exact ⟨now, trace, rfl, renews⟩
  rw [← List.append_nil (_ :: trace)]
  refine executes_bind_of_ok valid ?_
  rw [executes_self_bind_iff, supplies]
  exact executes_pure_iff.mpr ⟨rfl, rfl, rfl⟩

/-- A round of attempts with a token that is the value of a header. -/
theorem executes_sendWith {next : HttpRequest → SystemProgram Outcome} {request : HttpRequest}
    {outcome : Outcome} {held : Text} (legal : IsLegal isHeaderValue held)
    (runs : (next { request with authorization := .bearer held }).Runs trace outcome) :
    (sendWith isHeaderValue next request held).Executes before trace (.ok outcome) before := by
  rw [sendWith, if_pos (show isHeaderValue (bearer held) = true from legal)]
  exact executes_lift_iff.mpr ⟨_, runs, rfl, rfl⟩

end Runs

/-! ## The calls of the middleware -/

/-- Every call comes back, and it is safe exactly where what it is answered is sound. -/
theorem handle_safe_iff_sound {isHeaderValue : Text → Bool} {codec : Codec} {fuel : Nat}
    {next : HttpRequest → SystemProgram Outcome} (transport : Transport next)
    (request : HttpRequest) (manager : TokenManager) :
    (IsBounded fuel manager → ∀ trace,
        ¬ (handle isHeaderValue codec fuel next request).Stalls manager trace) ∧
      ∀ trace result after,
        (handle isHeaderValue codec fuel next request).Executes manager trace result after →
          (Safe codec fuel manager trace result after ↔
            Sound isHeaderValue codec manager trace) := by
  constructor
  · exact fun bounded trace => (finishes_handle transport request).returns manager trace bounded
  · intro trace result after executes
    have returns := ne_panic_iff_sound transport executes
    exact ⟨fun safe => returns.mp safe.returns,
      fun sound => safe_of_returns transport executes (returns.mpr sound)⟩

/-- A client that knows the documents of these tokens, and tries again where there is no
response. -/
def codecOf (documents : List (Text × GetAccessTokenResponse)) : Codec where
  defaultRetryableStrategy outcome := outcome.toOption.isNone
  readToken text :=
    match documents.find? fun entry => entry.1 = text with
    | some entry => .ok entry.2
    | none => .error "expected value"
  readIamError _ := .error "expected value"
  readError _ := .error "expected value"
  json := .ofTable []

def documentResponse (document : Text) : HttpResponse :=
  ⟨⟨200, "OK"⟩, some "application/json".toList, .ok document⟩

theorem granted_documentResponse (documents : List (Text × GetAccessTokenResponse))
    (document : Text) :
    granted (codecOf documents) (.ok (documentResponse document)) =
      (documents.find? fun entry => entry.1 = document).map Prod.snd := by
  have success : (documentResponse document).status.isSuccess = true := rfl
  rw [granted, if_pos success]
  change Except.toOption (Except.mapError _ (match documents.find? _ with
    | some entry => .ok entry.2
    | none => .error "expected value")) = _
  cases documents.find? fun entry => entry.1 = document with
  | none => rfl
  | some entry => rfl

def tokenDocument (accessToken : String) (expiresIn : Nat) : Text :=
  s!"\x7b\"access_token\":\"{accessToken}\",\"expires_in\":{expiresIn}\x7d".toList

def newManager : TokenManager :=
  .new "https://example.com/identity/token".toList "key".toList none

/-- A manager whose token expires after a nanosecond. -/
def heldManager : TokenManager :=
  newManager.store "t".toList 1

def listJobs : HttpRequest :=
  ⟨.get, "https://example.com/v1/jobs".toList, [], [], .absent, none⟩

/-- A single attempt without retries. -/
theorem transport_transmit : Transport fun request => transmit (.send request) id where
  total _ := total_transmit _ _
  sends _ := (Program.emits_question fun _ => rfl).bind fun _ => Program.emits_pure _ _

def unauthorized : HttpResponse :=
  ⟨⟨401, "Unauthorized"⟩, none, .ok []⟩

/-- A reply that grants a token, and the reading of the clock at which it is stored. -/
def granting (document : Text) : List SystemEvent :=
  [⟨.postForm newManager.tokenUrl (tokenForm newManager), .ok (documentResponse document)⟩,
    ⟨.instant, (0 : Nat)⟩]

/-- A single attempt. -/
def sending (token : String) (response : HttpResponse) : List SystemEvent :=
  [⟨.send { listJobs with authorization := .bearer token.toList }, .ok response⟩]

/-- A service that grants a line feed, which expires at once, and then a token of an hour. -/
def expiringCodec : Codec :=
  codecOf [(tokenDocument "\\n" 0, ⟨"\n".toList, 0⟩), (tokenDocument "u" 3600, ⟨"u".toList, 3600⟩)]

/-- The token that is held is turned down, and the line feed that replaces it has expired
before it is used. -/
def expiringTrace : List SystemEvent :=
  [⟨.instant, (0 : Nat)⟩] ++ (sending "t" unauthorized ++ (granting (tokenDocument "\\n" 0) ++
    (⟨.instant, (0 : Nat)⟩ :: granting (tokenDocument "u" 3600) ++
      (sending "u" (documentResponse []) ++ []))))

theorem granted_lineFeed :
    granted expiringCodec (.ok (documentResponse (tokenDocument "\\n" 0))) =
      some ⟨"\n".toList, 0⟩ :=
  (granted_documentResponse _ _).trans rfl

theorem granted_letter :
    granted expiringCodec (.ok (documentResponse (tokenDocument "u" 3600))) =
      some ⟨"u".toList, 3600⟩ :=
  (granted_documentResponse _ _).trans rfl

theorem executes_expiring {next : HttpRequest → SystemProgram Outcome} {fuel : Nat}
    (fueled : 0 < fuel) (attempts : ∀ (token : String) response,
      (next { listJobs with authorization := .bearer token.toList }).Runs
        (sending token response) (.ok response)) :
    (handle isHeaderValue expiringCodec fuel next listJobs).Executes heldManager expiringTrace
      (.ok (documentResponse [])) (heldManager.store "u".toList 3240000000000) := by
  have renews : (getAccessToken expiringCodec fuel).Executes heldManager
      (granting (tokenDocument "\\n" 0)) (.ok ()) (heldManager.store "\n".toList 0) :=
    executes_getAccessToken fueled rfl granted_lineFeed
      (executes_storeToken_iff.mpr ⟨0, rfl, .inl ⟨0, by decide, rfl, rfl⟩⟩)
  have replaces : (getAccessToken expiringCodec fuel).Executes
      (heldManager.store "\n".toList 0) (granting (tokenDocument "u" 3600)) (.ok ())
        (heldManager.store "u".toList 3240000000000) :=
    executes_getAccessToken fueled rfl granted_letter
      (executes_storeToken_iff.mpr ⟨0, rfl, .inl ⟨3240000000000, by decide, rfl, rfl⟩⟩)
  have rejected : isUnauthorized (.ok unauthorized) = true := rfl
  refine executes_bind_of_ok (executes_getToken rfl rfl (.done _) rfl) ?_
  refine executes_bind_of_ok (executes_sendWith (by decide) (attempts "t" unauthorized)) ?_
  rw [if_pos rejected]
  refine executes_bind_of_ok renews ?_
  refine executes_bind_of_ok (executes_getToken rfl rfl replaces rfl) ?_
  exact executes_bind_of_ok (executes_sendWith (by decide) (attempts "u" _)) (.done _)

theorem sound_expiring : Sound isHeaderValue expiringCodec heldManager expiringTrace := by
  have reads : Reads heldManager [⟨.instant, (0 : Nat)⟩] "t".toList 1 0 := .dated rfl rfl
  refine (sound_iff_of_reads reads).mpr ⟨fun _ => by decide, ?_, ?_, trivial⟩
  · intro token grants
    cases granted_lineFeed.symm.trans grants
    exact ⟨0, by decide, .inr ⟨0, _, rfl, Nat.le_refl 0⟩⟩
  · intro token grants
    cases granted_letter.symm.trans grants
    exact ⟨3240000000000, by decide, .inl (by decide)⟩

theorem handle_safe_iff_sound_expiring :
    Safe expiringCodec 1 heldManager expiringTrace (.ok (documentResponse []))
      (heldManager.store "u".toList 3240000000000) :=
  ((handle_safe_iff_sound transport_transmit listJobs heldManager).2 _ _ _
    (executes_expiring Nat.zero_lt_one fun _ _ => .ask (.done _))).mpr sound_expiring

/-- A service whose tokens live longer than instants can tell. -/
def endlessCodec : Codec :=
  codecOf [(tokenDocument "t" (2 ^ 64 - 1), ⟨"t".toList, 2 ^ 64 - 1⟩)]

theorem executes_endless {fuel : Nat} (fueled : 0 < fuel) {before : TokenManager}
    (sameUrl : before.tokenUrl = newManager.tokenUrl)
    (sameKey : before.apiKey = newManager.apiKey) :
    (getAccessToken endlessCodec fuel).Executes before (granting (tokenDocument "t" (2 ^ 64 - 1)))
      (.error .panic) (setAccessToken "t".toList before) := by
  have grants : granted endlessCodec (.ok (documentResponse (tokenDocument "t" (2 ^ 64 - 1)))) =
      some ⟨"t".toList, 2 ^ 64 - 1⟩ := (granted_documentResponse _ _).trans rfl
  have stores : (storeToken ⟨"t".toList, 2 ^ 64 - 1⟩).Executes before [⟨.instant, (0 : Nat)⟩]
      (.error .panic) (setAccessToken "t".toList before) :=
    executes_storeToken_iff.mpr ⟨0, rfl, .inr ⟨by decide, rfl, rfl⟩⟩
  have renews := executes_getAccessToken fueled rfl grants stores
  rw [sameUrl, tokenForm, sameKey] at renews
  exact renews

/-- A lifetime beyond the last instant: the call panics, and the token is there without
its expiry. -/
theorem exists_half_token :
    ∃ trace after,
      (handle isHeaderValue endlessCodec 1 (fun request => transmit (.send request) id)
        listJobs).Executes newManager trace (.error .panic) after ∧
        after.accessToken = some "t".toList ∧ after.tokenExpiry = none := by
  have validates : (ensureTokenValidity endlessCodec 1).Executes newManager
      (granting (tokenDocument "t" (2 ^ 64 - 1))) (.error .panic)
        (setAccessToken "t".toList newManager) := by
    rw [ensureTokenValidity, executes_self_bind_iff]
    exact executes_endless Nat.zero_lt_one rfl rfl
  exact ⟨_, _, executes_bind_of_halt (executes_bind_of_halt validates), rfl, rfl⟩

end TokenRenewal

end QuantumSystem
