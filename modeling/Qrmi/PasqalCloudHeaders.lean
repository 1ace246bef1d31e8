import Qrmi.InteractionHistory
import Qrmi.PasqalCloudClient

/-!
# The header of the Pasqal Cloud client and its token

A refresh replaces the token and the header that carries it.  It can fail before
the token is replaced, and again between the two.  This file follows both over
every run of a client and finds that the second failure is the only way for them
to part: it needs a token endpoint that grants a token unfit for a header.
-/

open Interaction
open Interaction.Method

namespace PasqalCloud

variable {HeaderValue : Type}

section Renewals

variable (library : AuthLibrary HeaderValue)

/-- A token that needs no header, or that may stand in one. -/
def FitsHeader (token : Text) : Prop :=
  Text.trim token = [] ∨
    ∃ header, library.headerValue ("Bearer ".toList ++ token) = .ok header

/-- The header is the one built from the token, and a blank token has none. -/
structure Client.HeaderMatches (client : Client HeaderValue) : Prop where
  built : makeAuthHeader library client.authToken = .ok client.authHeader
  absent_iff : client.authHeader = none ↔ Text.trim client.authToken = []

/-- The token that an exchange with the token endpoint grants. -/
def granted : CloudEvent HeaderValue → Option Text
  | ⟨.postForm .., reply⟩ => (readTokenReply library reply).toOption
  | _ => none

theorem makeAuthHeader_ok_iff {token : Text} :
    (∃ header, makeAuthHeader library token = .ok header) ↔ FitsHeader library token := by
  unfold makeAuthHeader FitsHeader
  by_cases blank : Text.trim token = []
  · simp [blank]
  · cases built : library.headerValue ("Bearer ".toList ++ token) with
    | ok header => simp [blank]
    | error text => simp [blank]

theorem makeAuthHeader_absent_iff {token : Text} {header : Option HeaderValue}
    (built : makeAuthHeader library token = .ok header) :
    header = none ↔ Text.trim token = [] := by
  unfold makeAuthHeader at built
  by_cases blank : Text.trim token = []
  · rw [if_pos blank] at built
    cases built
    simp [blank]
  · rw [if_neg blank] at built
    cases read : library.headerValue ("Bearer ".toList ++ token) with
    | ok header =>
        rw [read] at built
        cases built
        simp [blank]
    | error text =>
        rw [read] at built
        cases built

theorem headerMatches_of_built {client : Client HeaderValue}
    (built : makeAuthHeader library client.authToken = .ok client.authHeader) :
    client.HeaderMatches library :=
  ⟨built, makeAuthHeader_absent_iff library built⟩

/-- No exchange grants a token. -/
def GrantsNone (events : List (CloudEvent HeaderValue)) : Prop :=
  ∀ event ∈ events, granted library event = none

/-- The exchanges grant one token. -/
structure Grants (events : List (CloudEvent HeaderValue)) (token : Text) : Prop where
  found : ∃ event ∈ events, granted library event = some token
  only : ∀ event ∈ events, ∀ other, granted library event = some other → other = token

/-- What becomes of the token and the header.  They are kept, or both replaced,
or only the token is replaced because no header can be built from it. -/
inductive Renewal (before : Client HeaderValue) (events : List (CloudEvent HeaderValue)) :
    Except CloudError Unit → Client HeaderValue → Prop
  | kept (outcome : Except CloudError Unit) (nothing : GrantsNone library events) :
      Renewal before events outcome before
  | replaced {token : Text} {header : Option HeaderValue}
      (grants : Grants library events token)
      (built : makeAuthHeader library token = .ok header) :
      Renewal before events (.ok ()) { before with authToken := token, authHeader := header }
  | torn {token : Text} {error : CloudError} (grants : Grants library events token)
      (failed : makeAuthHeader library token = .error error) :
      Renewal before events (.error error) { before with authToken := token }

variable {library} {before after : Client HeaderValue}
variable {events trace : List (CloudEvent HeaderValue)}
variable {outcome result : Except CloudError Unit}

theorem grantsNone_nil : GrantsNone library [] := by
  intro event member
  cases member

theorem GrantsNone.append {rest : List (CloudEvent HeaderValue)}
    (first : GrantsNone library events) (second : GrantsNone library rest) :
    GrantsNone library (events ++ rest) := by
  intro event member
  rcases List.mem_append.mp member with inFirst | inRest
  · exact first event inFirst
  · exact second event inRest

theorem Grants.append {rest : List (CloudEvent HeaderValue)} {token : Text}
    (grants : Grants library events token) (nothing : GrantsNone library rest) :
    Grants library (events ++ rest) token := by
  obtain ⟨⟨event, member, gives⟩, only⟩ := grants
  refine ⟨⟨event, List.mem_append_left _ member, gives⟩, ?_⟩
  intro event member other gives
  rcases List.mem_append.mp member with inFirst | inRest
  · exact only event inFirst other gives
  · rw [nothing event inRest] at gives
    cases gives

theorem Grants.prepend {earlier : List (CloudEvent HeaderValue)} {token : Text}
    (nothing : GrantsNone library earlier) (grants : Grants library events token) :
    Grants library (earlier ++ events) token := by
  obtain ⟨⟨event, member, gives⟩, only⟩ := grants
  refine ⟨⟨event, List.mem_append_right _ member, gives⟩, ?_⟩
  intro event member other gives
  rcases List.mem_append.mp member with inFirst | inRest
  · rw [nothing event inFirst] at gives
    cases gives
  · exact only event inRest other gives

theorem Renewal.append {rest : List (CloudEvent HeaderValue)}
    (renewal : Renewal library before events outcome after)
    (nothing : GrantsNone library rest) :
    Renewal library before (events ++ rest) outcome after := by
  cases renewal with
  | kept _ none => exact .kept _ (none.append nothing)
  | replaced grants built => exact .replaced (grants.append nothing) built
  | torn grants failed => exact .torn (grants.append nothing) failed

theorem Renewal.prepend {earlier : List (CloudEvent HeaderValue)}
    (nothing : GrantsNone library earlier)
    (renewal : Renewal library before events outcome after) :
    Renewal library before (earlier ++ events) outcome after := by
  cases renewal with
  | kept _ none => exact .kept _ (nothing.append none)
  | replaced grants built => exact .replaced (grants.prepend nothing) built
  | torn grants failed => exact .torn (grants.prepend nothing) failed

/-- The pair stays consistent exactly when it is not torn apart. -/
theorem Renewal.headerMatches_iff (renewal : Renewal library before events outcome after)
    (matched : before.HeaderMatches library) :
    after.HeaderMatches library ↔
      ∀ event ∈ events, ∀ token, granted library event = some token →
        FitsHeader library token := by
  cases renewal with
  | kept _ nothing =>
      refine ⟨fun _ event member token gives => ?_, fun _ => matched⟩
      rw [nothing event member] at gives
      cases gives
  | @replaced token header grants built =>
      refine ⟨fun _ event member other gives => ?_, fun _ => headerMatches_of_built _ built⟩
      rw [grants.only event member other gives]
      exact (makeAuthHeader_ok_iff library).mp ⟨header, built⟩
  | @torn token error grants failed =>
      constructor
      · intro consistent
        have impossible : Except.error error = Except.ok before.authHeader :=
          failed.symm.trans consistent.built
        cases impossible
      · intro fits
        obtain ⟨event, member, gives⟩ := grants.found
        obtain ⟨header, built⟩ :=
          (makeAuthHeader_ok_iff library).mpr (fits event member token gives)
        rw [failed] at built
        cases built

/-- A failed refresh keeps the pair unless it is torn apart. -/
theorem Renewal.kept_of_error {error : CloudError}
    (renewal : Renewal library before events (.error error) after)
    (fits : ∀ event ∈ events, ∀ token, granted library event = some token →
      FitsHeader library token) :
    after = before := by
  cases renewal with
  | kept _ _ => rfl
  | @torn token _ grants failed =>
      obtain ⟨event, member, gives⟩ := grants.found
      obtain ⟨header, built⟩ :=
        (makeAuthHeader_ok_iff library).mpr (fits event member token gives)
      rw [failed] at built
      cases built

theorem executes_requestAccessToken_cases {authEndpoint : Text}
    {request : AccessTokenRequest} {answer : Except CloudError Text}
    (executes : (Client.requestAccessToken library authEndpoint request).Executes
      before trace answer after) :
    after = before ∧
      ((∃ error, answer = .error error ∧ GrantsNone library trace) ∨
        ∃ token, answer = .ok token ∧ Grants library trace token) := by
  unfold Client.requestAccessToken at executes
  cases normalized : normalizeAuthEndpoint authEndpoint with
  | error error =>
      rw [normalized] at executes
      obtain ⟨rfl, rfl, rfl⟩ := executes_ofExcept_bind_error_iff.mp executes
      exact ⟨rfl, .inl ⟨error, rfl, grantsNone_nil⟩⟩
  | ok endpoint =>
      rw [normalized, executes_ofExcept_bind_ok_iff, executes_question_bind_iff] at executes
      obtain ⟨reply, rest, rfl, returned⟩ := executes
      obtain ⟨rfl, rfl, rfl⟩ := executes_ofExcept_iff.mp returned
      refine ⟨rfl, ?_⟩
      have grants : granted library ⟨.postForm endpoint request.formParams, reply⟩ =
          (readTokenReply library reply).toOption := rfl
      cases read : readTokenReply library reply with
      | error error =>
          refine .inl ⟨error, rfl, fun event member => ?_⟩
          rw [List.mem_singleton.mp member, grants, read]
          rfl
      | ok token =>
          rw [read] at grants
          refine .inr ⟨token, rfl, ⟨_, List.mem_singleton_self _, grants⟩, ?_⟩
          intro event member other gives
          rw [List.mem_singleton.mp member, grants] at gives
          exact (Option.some.inj gives).symm

theorem renewal_of_refresh
    (executes : (Client.refresh library).Executes before trace result after) :
    Renewal library before trace result after := by
  rw [Client.refresh, executes_self_bind_iff] at executes
  cases expiry : jwtExpiryUnixSeconds library before.authToken with
  | error error =>
      rw [expiry] at executes
      obtain ⟨rfl, rfl, rfl⟩ := executes_ofExcept_bind_error_iff.mp executes
      exact .kept _ grantsNone_nil
  | ok exp =>
      rw [expiry, executes_ofExcept_bind_ok_iff] at executes
      cases chosen : Client.accessTokenRequest before with
      | none =>
          rw [chosen] at executes
          obtain ⟨rfl, rfl, rfl⟩ := executes_throw_iff.mp executes
          exact .kept _ grantsNone_nil
      | some request =>
          rw [chosen] at executes
          rcases executes_bind_iff.mp executes with ⟨error, rfl, failed⟩ |
            ⟨first, rest, token, middle, rfl, asked, stored⟩
          · obtain ⟨rfl, ⟨_, -, nothing⟩ | ⟨_, impossible, -⟩⟩ :=
              executes_requestAccessToken_cases failed
            · exact .kept _ nothing
            · cases impossible
          · obtain ⟨rfl, ⟨_, impossible, -⟩ | ⟨_, equal, grants⟩⟩ :=
              executes_requestAccessToken_cases asked
            · cases impossible
            cases equal
            rw [executes_modify_bind_iff] at stored
            cases built : makeAuthHeader library token with
            | error error =>
                rw [built] at stored
                obtain ⟨rfl, rfl, rfl⟩ := executes_ofExcept_bind_error_iff.mp stored
                rw [List.append_nil]
                exact .torn grants built
            | ok header =>
                rw [built, executes_ofExcept_bind_ok_iff] at stored
                obtain ⟨rfl, rfl, rfl⟩ := executes_modify_iff.mp stored
                rw [List.append_nil]
                exact .replaced grants built

variable (library) in
/-- A method that keeps the client and asks for no token. -/
def Settles {α : Type} (method : CloudMethod HeaderValue α) : Prop :=
  ∀ ⦃before trace result after⦄, method.Executes before trace result after →
    after = before ∧ GrantsNone library trace

section Settling

variable {α β : Type}

theorem settles_pure (value : α) :
    Settles library (pure value : CloudMethod HeaderValue α) := by
  intro before trace result after executes
  obtain ⟨rfl, -, rfl⟩ := executes_pure_iff.mp executes
  exact ⟨rfl, grantsNone_nil⟩

theorem settles_throw (error : CloudError) :
    Settles library (throw error : CloudMethod HeaderValue α) := by
  intro before trace result after executes
  obtain ⟨rfl, -, rfl⟩ := executes_throw_iff.mp executes
  exact ⟨rfl, grantsNone_nil⟩

theorem settles_ofExcept (outcome : Except CloudError α) :
    Settles library (ofExcept outcome : CloudMethod HeaderValue α) := by
  intro before trace result after executes
  obtain ⟨rfl, -, rfl⟩ := executes_ofExcept_iff.mp executes
  exact ⟨rfl, grantsNone_nil⟩

theorem settles_self :
    Settles library (self : CloudMethod HeaderValue (Client HeaderValue)) := by
  intro before trace result after executes
  obtain ⟨rfl, -, rfl⟩ := executes_self_iff.mp executes
  exact ⟨rfl, grantsNone_nil⟩

theorem settles_question {action : CloudAction HeaderValue}
    (other : ∀ answer, granted library ⟨action, answer⟩ = none) :
    Settles library
      (lift (Program.question action) : CloudMethod HeaderValue action.Answer) := by
  intro before trace result after executes
  obtain ⟨answer, asked, -, rfl⟩ := executes_lift_iff.mp executes
  obtain rfl := Program.runs_question_iff.mp asked
  refine ⟨rfl, fun event member => ?_⟩
  rw [List.mem_singleton.mp member]
  exact other answer

theorem Settles.bind {method : CloudMethod HeaderValue α}
    {next : α → CloudMethod HeaderValue β} (first : Settles library method)
    (second : ∀ value, Settles library (next value)) :
    Settles library (method >>= next) := by
  intro before trace result after executes
  rcases executes_bind_iff.mp executes with ⟨error, -, failed⟩ |
    ⟨_, _, value, middle, rfl, ran, continued⟩
  · exact first failed
  · obtain ⟨rfl, nothing⟩ := first ran
    obtain ⟨rfl, nothingMore⟩ := second value continued
    exact ⟨rfl, nothing.append nothingMore⟩

theorem settles_nowUnixSeconds : Settles library Client.nowUnixSeconds :=
  (settles_question fun _ => rfl).bind fun _ => settles_ofExcept _

theorem settles_attachHeaders (request : CloudRequest HeaderValue) :
    Settles library (Client.attachHeaders request) := by
  refine settles_self.bind fun client => ?_
  cases client.authHeader with
  | some auth => exact settles_pure _
  | none => exact settles_throw _

theorem settles_send (parse : Text → Except String α) (request : CloudRequest HeaderValue) :
    Settles library (Client.send parse request) :=
  (settles_question fun _ => rfl).bind fun _ => settles_ofExcept _

end Settling

theorem renewal_of_ensureAuthenticated
    (executes : (Client.ensureAuthenticated library).Executes before trace result after) :
    Renewal library before trace result after := by
  have settles : Settles library Client.nowUnixSeconds := settles_nowUnixSeconds
  rcases executes_bind_iff.mp executes with ⟨error, rfl, failed⟩ |
    ⟨first, rest, now, middle, rfl, asked, continued⟩
  · obtain ⟨rfl, nothing⟩ := settles failed
    exact .kept _ nothing
  · obtain ⟨rfl, nothing⟩ := settles asked
    rw [executes_self_bind_iff] at continued
    apply Renewal.prepend nothing
    by_cases usable : isAuthTokenUsable library middle.authToken now
    · rw [if_pos usable] at continued
      obtain ⟨rfl, rfl, rfl⟩ := executes_pure_iff.mp continued
      exact .kept _ grantsNone_nil
    · rw [if_neg usable] at continued
      exact renewal_of_refresh continued

variable (library) in
/-- A call that authenticates itself first, and leaves the client alone then. -/
structure Authenticates (before : Client HeaderValue)
    (events : List (CloudEvent HeaderValue)) (after : Client HeaderValue) : Prop where
  intro ::
  split : ∃ first rest outcome, events = first ++ rest ∧
    (Client.ensureAuthenticated library).Executes before first outcome after ∧
    GrantsNone library rest

variable (library) in
/-- A method that either leaves the client alone or authenticates itself first. -/
def Refreshes {α : Type} (method : CloudMethod HeaderValue α) : Prop :=
  ∀ ⦃before trace result after⦄, method.Executes before trace result after →
    (after = before ∧ GrantsNone library trace) ∨ Authenticates library before trace after

section Refreshing

variable {α β : Type}

theorem Settles.refreshes {method : CloudMethod HeaderValue α}
    (settles : Settles library method) : Refreshes library method :=
  fun _ _ _ _ executes => .inl (settles executes)

theorem Refreshes.bind {method : CloudMethod HeaderValue α}
    {next : α → CloudMethod HeaderValue β} (refreshes : Refreshes library method)
    (settles : ∀ value, Settles library (next value)) :
    Refreshes library (method >>= next) := by
  intro before trace result after executes
  rcases executes_bind_iff.mp executes with ⟨error, -, failed⟩ |
    ⟨_, _, value, middle, rfl, ran, continued⟩
  · exact refreshes failed
  · obtain ⟨rfl, nothing⟩ := settles value continued
    rcases refreshes ran with ⟨rfl, before⟩ | ⟨first, rest, outcome, rfl, ensured, none⟩
    · exact .inl ⟨rfl, before.append nothing⟩
    · exact .inr ⟨first, _, outcome, List.append_assoc .., ensured, none.append nothing⟩

theorem refreshes_self_bind {next : Client HeaderValue → CloudMethod HeaderValue β}
    (refreshes : ∀ client, Refreshes library (next client)) :
    Refreshes library (self >>= next) := by
  intro before trace result after executes
  exact refreshes before (executes_self_bind_iff.mp executes)

theorem refreshes_authenticated (request : CloudRequest HeaderValue) :
    Refreshes library (Client.authenticated library request) := by
  refine Refreshes.bind (fun before trace result after executes => ?_)
    fun _ => settles_attachHeaders request
  exact .inr ⟨trace, [], result, (List.append_nil _).symm, executes, grantsNone_nil⟩

variable (parse : Text → Except String α) (url : Text)

theorem refreshes_get : Refreshes library (Client.get library parse url) :=
  (refreshes_authenticated _).bind fun _ => settles_send parse _

theorem refreshes_patch : Refreshes library (Client.patch library parse url) :=
  (refreshes_authenticated _).bind fun _ => settles_send parse _

theorem refreshes_post (body : Json) :
    Refreshes library (Client.post library parse url body) :=
  (refreshes_authenticated _).bind fun _ => settles_send parse _

end Refreshing

theorem refreshes_call (library : CloudLibrary HeaderValue) (endpoint : Endpoint) :
    Refreshes library.toAuthLibrary (endpoint.call library) := by
  cases endpoint with
  | getDevice deviceType =>
      refine (settles_self.bind fun client => ?_).refreshes
      refine (settles_send _ _).bind fun resp => ?_
      cases resp.data with
      | nil => exact settles_throw _
      | cons device devices => exact settles_pure _
  | createBatch sequence jobRuns deviceType =>
      exact refreshes_self_bind fun _ => refreshes_post _ _ _
  | createCudaqJob sequence shots deviceType =>
      exact refreshes_self_bind fun _ => refreshes_post _ _ _
  | cancelBatch batchId => exact refreshes_self_bind fun _ => refreshes_patch _ _
  | getBatch batchId => exact refreshes_self_bind fun _ => refreshes_get _ _
  | getCudaqJob jobId => exact refreshes_self_bind fun _ => refreshes_get _ _
  | getJob jobId => exact refreshes_self_bind fun _ => refreshes_get _ _
  | getBatchResults batchId =>
      exact refreshes_self_bind fun _ =>
        (refreshes_get _ _).bind fun _ => settles_ofExcept _
  | getDeviceSpecs deviceType =>
      refine refreshes_self_bind fun client => ?_
      split_ifs
      · exact ((settles_send _ _).bind fun _ => settles_pure _).refreshes
      · exact (refreshes_get _ _).bind fun _ => settles_pure _

end Renewals

section Runs

variable {library : CloudLibrary HeaderValue} {before after client : Client HeaderValue}
variable {call : Call HeaderValue} {calls : List (Call HeaderValue)}

/-- Every token that the endpoint grants during a call fits a header. -/
def Call.GrantsFit (library : AuthLibrary HeaderValue) (call : Call HeaderValue) : Prop :=
  ∀ event ∈ call.events, ∀ token, granted library event = some token →
    FitsHeader library token

/-- The call ends with a refresh that fails. -/
def Call.RefreshFails (library : AuthLibrary HeaderValue) (before : Client HeaderValue)
    (call : Call HeaderValue) : Prop :=
  ∃ error after, (Client.ensureAuthenticated library).Executes before call.events
    (.error error) after

theorem Call.Steps.renewal (steps : call.Steps library before after) :
    ∃ outcome, Renewal library.toAuthLibrary before call.events outcome after := by
  rcases refreshes_call library call.endpoint steps with ⟨rfl, nothing⟩ |
    ⟨first, rest, outcome, equal, ensured, nothing⟩
  · exact ⟨.ok (), .kept _ nothing⟩
  · rw [equal]
    exact ⟨outcome, (renewal_of_ensureAuthenticated ensured).append nothing⟩

theorem Call.Steps.headerMatches_iff (steps : call.Steps library before after)
    (matched : before.HeaderMatches library.toAuthLibrary) :
    after.HeaderMatches library.toAuthLibrary ↔ call.GrantsFit library.toAuthLibrary := by
  obtain ⟨outcome, renewal⟩ := steps.renewal
  exact renewal.headerMatches_iff matched

/-- A call whose refresh fails does nothing after it. -/
theorem Call.Steps.kept_of_refreshFails (steps : call.Steps library before after)
    (fails : call.RefreshFails library.toAuthLibrary before)
    (fits : call.GrantsFit library.toAuthLibrary) : after = before := by
  obtain ⟨error, final, failed⟩ := fails
  rcases refreshes_call library call.endpoint steps with ⟨same, -⟩ |
    ⟨first, rest, outcome, equal, ensured, -⟩
  · exact same
  · rw [equal] at failed
    obtain ⟨rfl, same⟩ := ensured.eq_of_prefix failed
    obtain ⟨rfl, rfl⟩ := Prod.mk.inj same
    rw [List.append_nil] at equal
    rw [← equal] at ensured
    exact (renewal_of_ensureAuthenticated ensured).kept_of_error fits

theorem headerMatches_of_build {builder : ClientBuilder} {httpClient : Except String Unit}
    (built : builder.build library.toAuthLibrary httpClient = .ok client) :
    client.HeaderMatches library.toAuthLibrary := by
  cases httpClient with
  | error text => cases built
  | ok _ =>
      change (makeAuthHeader library.toAuthLibrary builder.token).bind _ = _ at built
      cases header : makeAuthHeader library.toAuthLibrary builder.token with
      | error error =>
          rw [header] at built
          cases built
      | ok authHeader =>
          rw [header] at built
          cases built
          exact headerMatches_of_built _ header

theorem headerMatches_of_history (initially : client.HeaderMatches library.toAuthLibrary)
    (history : History (Call.Steps library) client calls after)
    (fits : ∀ call ∈ calls, call.GrantsFit library.toAuthLibrary) :
    after.HeaderMatches library.toAuthLibrary := by
  refine history.invariant
    (fun past state => (∀ call ∈ past, call.GrantsFit library.toAuthLibrary) →
      state.HeaderMatches library.toAuthLibrary) (fun _ => initially) ?_ fits
  intro past state call next _ matched steps fits
  have before : state.HeaderMatches library.toAuthLibrary :=
    matched fun call member => fits call (List.mem_append_left _ member)
  have fit : call.GrantsFit library.toAuthLibrary := fits call (by simp)
  exact (steps.headerMatches_iff before).mpr fit

variable (library client calls) in
/-- The header follows the token through a run: it is the token's in every state
reached, and a failed refresh leaves both as they were. -/
structure HeaderFollows : Prop where
  matched : ∀ past rest state, calls = past ++ rest →
    History (Call.Steps library) client past state →
      state.HeaderMatches library.toAuthLibrary
  kept : ∀ past call rest before after, calls = past ++ call :: rest →
    History (Call.Steps library) client past before → call.Steps library before after →
      call.RefreshFails library.toAuthLibrary before →
        after.authToken = before.authToken ∧ after.authHeader = before.authHeader

/-- The header follows the token through every run of a client, unless the token
endpoint grants a token that is not blank and fits no header. -/
theorem headerFollows_iff_of_history {builder : ClientBuilder}
    {httpClient : Except String Unit}
    (built : builder.build library.toAuthLibrary httpClient = .ok client)
    (history : History (Call.Steps library) client calls after) :
    HeaderFollows library client calls ↔
      ∀ call ∈ calls, call.GrantsFit library.toAuthLibrary := by
  have initially : client.HeaderMatches library.toAuthLibrary := headerMatches_of_build built
  constructor
  · intro follows call member
    obtain ⟨past, rest, rfl⟩ := List.append_of_mem member
    obtain ⟨before, earlier, later⟩ := history.split
    cases later with
    | @cons _ next _ _ _ steps _ =>
        have matched : before.HeaderMatches library.toAuthLibrary :=
          follows.matched past (call :: rest) before rfl earlier
        have matchedNext : next.HeaderMatches library.toAuthLibrary :=
          follows.matched (past ++ [call]) rest next (by simp) (earlier.snoc steps)
        exact (steps.headerMatches_iff matched).mp matchedNext
  · intro fits
    constructor
    · rintro past rest state rfl earlier
      refine headerMatches_of_history initially earlier fun call member => ?_
      exact fits call (List.mem_append_left _ member)
    · rintro past call rest before after rfl earlier steps fails
      have fit : call.GrantsFit library.toAuthLibrary := fits call (by simp)
      rw [steps.kept_of_refreshFails fails fit]
      exact ⟨rfl, rfl⟩

end Runs

namespace UnfitToken

/-- A library that reads the one token document and knows the characters of
headers. -/
def library : CloudLibrary Text where
  headerValue text :=
    if text.all fun char => char = '\t' ∨ (' ' ≤ char ∧ char ≤ '~') then .ok text
    else .error "failed to parse header value"
  decodeUrlSafe _ := .error "Invalid symbol"
  parseJson _ := .error "expected value"
  readAccessToken :=
    readDocument "\x7b\"access_token\":\"abc\\n\"\x7d".toList ['a', 'b', 'c', '\n']
  readDevices _ := .error "expected value"
  readPublicSpecs _ := .error "expected value"
  readSpecs _ := .error "expected value"
  readCreatedBatch _ := .error "expected value"
  readCreatedCudaqJob _ := .error "expected value"
  readCanceledBatch _ := .error "expected value"
  readBatch _ := .error "expected value"
  readCudaqJob _ := .error "expected value"
  readJob _ := .error "expected value"
  readResults _ := .error "expected value"
  dump := Json.render

def builder : ClientBuilder :=
  ((ClientBuilder.new ['p']).withAuthEndpoint ['a']).withCredentials ['u'] ['s']

def fresh : Client Text where
  baseUrl := "https://apis.pasqal.cloud".toList
  projectId := ['p']
  authToken := []
  authHeader := none
  authEndpoint := ['a']
  username := some ['u']
  password := some ['s']
  clientId := none
  clientSecret := none

def torn : Client Text :=
  { fresh with authToken := ['a', 'b', 'c', '\n'] }

/-- The token endpoint grants a token that ends with a line break. -/
def renewing : Call Text where
  endpoint := .getBatch ['b']
  events :=
    [⟨.now, .ok 0⟩,
      ⟨.postForm ("https://".toList ++ ['a'])
          (AccessTokenRequest.usernamePassword ['u'] ['s']).formParams,
        .ok {
          status := ⟨200, "OK"⟩
          contentType := some "application/json".toList
          text := .ok "\x7b\"access_token\":\"abc\\n\"\x7d".toList }⟩]
  outcome := .error (.message "failed to parse header value")

/-- The token looks usable now, and no header goes with it. -/
def repeating : Call Text where
  endpoint := .getBatch ['b']
  events := [⟨.now, .ok 1⟩]
  outcome := .error (.message "authorization header is not available")

theorem built : builder.build library.toAuthLibrary (.ok ()) = .ok fresh := by
  rfl

theorem renewing_steps : renewing.Steps library fresh torn := by
  exact .ask (.ask (.done _))

theorem repeating_steps : repeating.Steps library torn torn := by
  exact .ask (.done _)

theorem history : History (Call.Steps library) fresh [renewing, repeating] torn :=
  .cons renewing_steps (.cons repeating_steps (.nil torn))

end UnfitToken

theorem headerFollows_iff_of_history_torn :
    HeaderFollows UnfitToken.library UnfitToken.fresh
        [UnfitToken.renewing, UnfitToken.repeating] ↔
      ∀ call ∈ [UnfitToken.renewing, UnfitToken.repeating],
        call.GrantsFit UnfitToken.library.toAuthLibrary :=
  headerFollows_iff_of_history UnfitToken.built UnfitToken.history

/-- A token that fits no header is stored without one, and is not renewed. -/
theorem exists_header_apart_from_token :
    ∃ (library : CloudLibrary Text) (builder : ClientBuilder) (client final : Client Text)
      (calls : List (Call Text)),
      builder.build library.toAuthLibrary (.ok ()) = .ok client ∧
        History (Call.Steps library) client calls final ∧
        ¬ HeaderFollows library client calls := by
  refine ⟨UnfitToken.library, UnfitToken.builder, UnfitToken.fresh, UnfitToken.torn,
    [UnfitToken.renewing, UnfitToken.repeating], UnfitToken.built, UnfitToken.history, ?_⟩
  intro follows
  have matched : UnfitToken.torn.HeaderMatches UnfitToken.library.toAuthLibrary :=
    follows.matched _ [] _ rfl UnfitToken.history
  have blank : Text.trim UnfitToken.torn.authToken = [] := matched.absent_iff.mp rfl
  exact absurd blank (by decide)

end PasqalCloud
