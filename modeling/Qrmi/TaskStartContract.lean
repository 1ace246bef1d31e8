import Mathlib.Data.Set.Insert
import Qrmi.InteractionServer
import Qrmi.QuantumSystemResource

/-!
# What an error of `task_start` says about the job

The resource interface promises that an error of any kind other than `Other`
means that no task was created.  The quantum system client sends the submission
again when its reply is lost, and the error of the last attempt says nothing
about the earlier ones.
-/

open Interaction
open QuantumSystem

/-! ## The last reply of a call -/

/-- The statuses of a submission that are reported as a definite refusal. -/
def DefiniteStatuses : List Nat :=
  [400, 401, 404, 409, 413, 422]

/-- A submission or a token request that was refused. -/
def IsRefused : SystemEvent → Prop
  | ⟨.send _, .ok response⟩ => response.status.code ∈ DefiniteStatuses
  | ⟨.postForm .., .ok response⟩ => response.status.isSuccess = false
  | _ => False

/-- The last reply of a call is a refusal. -/
def EndsRefused (trace : List SystemEvent) : Prop :=
  ∃ last ∈ trace.getLast?, IsRefused last

theorem not_endsRefused_nil : ¬ EndsRefused [] := by
  rintro ⟨last, member, -⟩
  cases member

@[simp]
theorem endsRefused_snoc {earlier : List SystemEvent} {last : SystemEvent} :
    EndsRefused (earlier ++ [last]) ↔ IsRefused last := by
  simp [EndsRefused]

/-- The events of a later part decide, if there are any. -/
theorem endsRefused_append {first second : List SystemEvent} :
    EndsRefused (first ++ second) ↔
      EndsRefused second ∨ second = [] ∧ EndsRefused first := by
  cases second using List.reverseRecOn with
  | nil => simp [not_endsRefused_nil]
  | append_singleton earlier last =>
      rw [← List.append_assoc, endsRefused_snoc, endsRefused_snoc]
      simp

theorem endsRefused_append_of_not {first second : List SystemEvent}
    (accepted : ¬ EndsRefused first) :
    EndsRefused (first ++ second) ↔ EndsRefused second := by
  rw [endsRefused_append]
  exact or_iff_left fun both => accepted both.2

theorem endsRefused_append_of_ne_nil {first second : List SystemEvent}
    (nonempty : second ≠ []) :
    EndsRefused (first ++ second) ↔ EndsRefused second := by
  rw [endsRefused_append]
  exact or_iff_left fun both => nonempty both.1

/-- An event that is neither a submission nor a token request. -/
def IsQuiet : SystemEvent → Prop
  | ⟨.send _, _⟩ => False
  | ⟨.postForm .., _⟩ => False
  | _ => True

theorem not_endsRefused_of_quiet {trace : List SystemEvent}
    (quiet : ∀ event ∈ trace, IsQuiet event) : ¬ EndsRefused trace := by
  rintro ⟨last, member, refused⟩
  have quietLast := quiet last (List.mem_of_getLast? member)
  obtain ⟨action, answer⟩ := last
  cases action with
  | send request | postForm url form => exact quietLast
  | instant | newUuid | putObject | presign | overtake => exact refused

namespace QuantumSystem

open Method

/-! ## The layers -/

theorem Client.relays_sendThroughRetries (client : Client) (codec : Codec) (fuel : Nat)
    (request : HttpRequest) :
    Relays (.send request) id (client.sendThroughRetries codec fuel request) := by
  have transmitted := relays_transmit (.send request) id
  rw [Client.sendThroughRetries]
  cases client.retryPolicy with
  | none => exact transmitted
  | some policy =>
      cases client.iqpRetryPolicy with
      | true => exact (transmitted.handle _ _ _).handle _ _ _
      | false => exact transmitted.handle _ _ _

/-- Reading a body never fails in the middleware. -/
theorem readBody_ne_middleware {α : Type} {parse : Text → Except String α}
    {response : HttpResponse} {message : String} :
    readBody parse response ≠ .error (.middleware message) := by
  intro failed
  rw [readBody] at failed
  cases received : response.text with
  | error message =>
      rw [received] at failed
      cases failed
  | ok content =>
      rw [received] at failed
      change (parse content).mapError MiddlewareError.reqwest = _ at failed
      cases parsed : parse content with
      | error message =>
          rw [parsed] at failed
          cases failed
      | ok value =>
          rw [parsed] at failed
          cases failed

section Tokens

variable {codec : Codec} {fuel : Nat} {before after : TokenManager}
variable {trace : List SystemEvent}

/-- Renewal ends with a refused or failed token request, or with the time at which
the new token was stored. -/
theorem TokenManager.getAccessToken_cases {result : Except MiddlewareError Unit}
    (executes : (getAccessToken codec fuel).Executes before trace result after) :
    ∃ earlier url form reply,
      (trace = earlier ++ [⟨.postForm url form, reply⟩] ∧ after = before ∧
        ∃ error, result = .error error ∧
          ((∃ message, error = .middleware message) ↔
            IsRefused ⟨.postForm url form, reply⟩)) ∨
      ∃ now token expiry,
        trace = earlier ++ [⟨.postForm url form, reply⟩, ⟨.instant, now⟩] ∧
          result = .ok () ∧ after = before.store token expiry := by
  rw [getAccessToken, executes_self_bind_iff] at executes
  rcases executes_bind_iff.mp executes with ⟨error, rfl, failed⟩ |
    ⟨_, rest, outcome, middle, rfl, requested, continued⟩
  · obtain ⟨_, -, equal, -⟩ := executes_lift_iff.mp failed
    cases equal
  obtain ⟨_, ran, equal, unchanged⟩ := executes_lift_iff.mp requested
  cases equal
  rw [unchanged] at continued
  obtain ⟨form, relays⟩ := before.relays_requestToken codec fuel
  obtain ⟨earlier, reply, rfl, rfl⟩ := relays _ _ ran
  refine ⟨earlier, before.tokenUrl, form, reply, ?_⟩
  cases reply with
  | error message =>
      obtain ⟨rfl, rfl, rfl⟩ := executes_ofExcept_bind_error_iff.mp continued
      exact .inl ⟨List.append_nil _, rfl, _, rfl, iff_of_false nofun id⟩
  | ok response =>
      have answered := executes_ofExcept_bind_ok_iff.mp continued
      by_cases success : response.status.isSuccess
      · have notRefused : ¬ IsRefused
            ⟨.postForm before.tokenUrl form, Except.ok response⟩ := by
          intro refused
          have failure : response.status.isSuccess = false := refused
          rw [success] at failure
          cases failure
        rw [if_pos success] at answered
        cases read : readBody codec.readToken response with
        | error error =>
            rw [read] at answered
            obtain ⟨rfl, rfl, rfl⟩ := executes_ofExcept_bind_error_iff.mp answered
            refine .inl ⟨List.append_nil _, rfl, _, rfl, iff_of_false ?_ notRefused⟩
            rintro ⟨message, rfl⟩
            exact readBody_ne_middleware read
        | ok token =>
            rw [read, executes_ofExcept_bind_ok_iff, storeToken,
              executes_bind_iff] at answered
            rcases answered with ⟨error, -, failed⟩ |
              ⟨_, last, now, middle, rfl, clock, stored⟩
            · obtain ⟨_, -, equal, -⟩ := executes_lift_iff.mp failed
              cases equal
            obtain ⟨_, asked, equal, unchanged⟩ := executes_lift_iff.mp clock
            cases equal
            rw [Program.runs_question_iff.mp asked]
            cases expires : instantAfter now (nineTenths token.expiresIn) with
            | none =>
                rw [expires] at stored
                exact absurd stored Program.not_runs_pending
            | some expiry =>
                rw [expires] at stored
                obtain ⟨rfl, rfl, rfl⟩ := executes_modify_iff.mp stored
                rw [unchanged]
                exact .inr ⟨now, token.accessToken, expiry, by simp, rfl, rfl⟩
      · rw [if_neg success] at answered
        obtain ⟨rfl, rfl, rfl⟩ := executes_throw_iff.mp answered
        refine .inl ⟨List.append_nil _, rfl, _, rfl, iff_of_true ⟨_, rfl⟩ ?_⟩
        exact Bool.eq_false_of_not_eq_true success

theorem TokenManager.getAccessToken_trace_ne_nil
    {result : Except MiddlewareError Unit}
    (executes : (getAccessToken codec fuel).Executes before trace result after) :
    trace ≠ [] := by
  obtain ⟨earlier, url, form, reply, ⟨rfl, -⟩ | ⟨now, token, expiry, rfl, -⟩⟩ :=
    getAccessToken_cases executes
  · simp
  · simp

/-- The method fails in the middleware exactly if its last reply is a refusal. -/
def TellsRefusal {α : Type} (method : TokenMethod α) : Prop :=
  ∀ before trace result after, method.Executes before trace result after →
    ((∃ message, result = .error (.middleware message)) ↔ EndsRefused trace)

/-- What succeeds was not refused last. -/
theorem TellsRefusal.not_endsRefused {α : Type} {method : TokenMethod α}
    (tells : TellsRefusal method) {value : α}
    (executes : method.Executes before trace (.ok value) after) :
    ¬ EndsRefused trace := by
  intro refused
  obtain ⟨message, equal⟩ := (tells _ _ _ _ executes).mpr refused
  cases equal

theorem TellsRefusal.bind {α β : Type} {method : TokenMethod α}
    {next : α → TokenMethod β} (first : TellsRefusal method)
    (second : ∀ value, TellsRefusal (next value)) :
    TellsRefusal (method >>= next) := by
  intro before trace result after executes
  rcases executes_bind_iff.mp executes with ⟨error, rfl, failed⟩ |
    ⟨early, late, value, middle, rfl, ran, continued⟩
  · rw [← first _ _ _ _ failed]
    exact ⟨fun ⟨message, equal⟩ => ⟨message, by cases equal; rfl⟩,
      fun ⟨message, equal⟩ => ⟨message, by cases equal; rfl⟩⟩
  · rw [endsRefused_append_of_not (first.not_endsRefused ran)]
    exact second value _ _ _ _ continued

/-- A method that cannot fail and asks nobody but the clock. -/
theorem tellsRefusal_of_quiet {α : Type} {method : TokenMethod α}
    (quiet : ∀ before trace result after,
      method.Executes before trace result after →
        (∃ value, result = .ok value) ∧ ∀ event ∈ trace, IsQuiet event) :
    TellsRefusal method := by
  intro before trace result after executes
  obtain ⟨⟨value, rfl⟩, silent⟩ := quiet _ _ _ _ executes
  exact iff_of_false (fun ⟨_, equal⟩ => by cases equal)
    (not_endsRefused_of_quiet silent)

theorem tellsRefusal_pure {α : Type} (value : α) :
    TellsRefusal (pure value : TokenMethod α) := by
  refine tellsRefusal_of_quiet fun before trace result after executes => ?_
  obtain ⟨rfl, rfl, -⟩ := executes_pure_iff.mp executes
  exact ⟨⟨value, rfl⟩, List.forall_mem_nil _⟩

theorem tellsRefusal_self : TellsRefusal (self : TokenMethod TokenManager) := by
  refine tellsRefusal_of_quiet fun before trace result after executes => ?_
  obtain ⟨rfl, rfl, -⟩ := executes_self_iff.mp executes
  exact ⟨⟨before, rfl⟩, List.forall_mem_nil _⟩

theorem tellsRefusal_panicking {α : Type} :
    TellsRefusal (panicking : TokenMethod α) :=
  fun _ _ _ _ executes => absurd executes Program.not_runs_pending

namespace TokenManager

theorem tellsRefusal_instantNow : TellsRefusal instantNow := by
  refine tellsRefusal_of_quiet fun before trace result after executes => ?_
  obtain ⟨now, asked, rfl, -⟩ := executes_lift_iff.mp executes
  rw [Program.runs_question_iff.mp asked]
  exact ⟨⟨now, rfl⟩, List.forall_mem_singleton.mpr trivial⟩

theorem tellsRefusal_getAccessToken : TellsRefusal (getAccessToken codec fuel) := by
  intro before trace result after executes
  obtain ⟨earlier, url, form, reply, ⟨rfl, -, error, rfl, tells⟩ |
    ⟨now, token, expiry, rfl, rfl, -⟩⟩ := getAccessToken_cases executes
  · rw [endsRefused_snoc, ← tells]
    simp
  · refine iff_of_false (fun ⟨_, equal⟩ => by cases equal) ?_
    rw [List.append_cons, endsRefused_snoc]
    exact id

theorem tellsRefusal_ensureTokenValidity :
    TellsRefusal (ensureTokenValidity codec fuel) := by
  refine tellsRefusal_self.bind fun manager => ?_
  cases manager.accessToken with
  | none => exact tellsRefusal_getAccessToken
  | some token =>
      have expiryTells : TellsRefusal (expiryOrNow manager) := by
        rw [expiryOrNow]
        cases manager.tokenExpiry with
        | some expiry => exact tellsRefusal_pure expiry
        | none => exact tellsRefusal_instantNow
      refine expiryTells.bind fun expiry => tellsRefusal_instantNow.bind fun now => ?_
      split
      · exact tellsRefusal_getAccessToken
      · exact tellsRefusal_pure ()

theorem tellsRefusal_getToken : TellsRefusal (getToken codec fuel) := by
  refine tellsRefusal_ensureTokenValidity.bind fun _ =>
    tellsRefusal_self.bind fun manager => ?_
  cases manager.accessToken with
  | some token => exact tellsRefusal_pure token
  | none => exact tellsRefusal_panicking

end TokenManager

end Tokens

section Submission

variable {codec : Codec} {fuel : Nat} {trace : List SystemEvent}

/-- An outcome that `run_job` reports with a kind other than `Other`. -/
def IsDefinite : Outcome → Prop
  | .ok response => response.status.code ∈ DefiniteStatuses
  | .error (.middleware _) => True
  | .error (.reqwest _) => False

/-- One round of sending ends with the reply that it returns. -/
theorem AuthMiddleware.sendWith_cases {next : HttpRequest → SystemProgram Outcome}
    (relays : ∀ request, Relays (.send request) id (next request))
    {request : HttpRequest} {token : Text} {before after : TokenManager}
    {result : Except MiddlewareError Outcome}
    (executes : (sendWith next request token).Executes before trace result after) :
    ∃ outcome, result = .ok outcome ∧ trace ≠ [] ∧
      (IsDefinite outcome ↔ EndsRefused trace) := by
  rw [sendWith] at executes
  split at executes
  · obtain ⟨outcome, ran, rfl, -⟩ := executes_lift_iff.mp executes
    obtain ⟨earlier, reply, rfl, rfl⟩ := relays _ _ _ ran
    refine ⟨_, rfl, by simp, ?_⟩
    rw [endsRefused_snoc]
    cases reply with
    | error message => exact Iff.rfl
    | ok response => exact Iff.rfl
  · exact absurd executes Program.not_runs_pending

theorem isDefinite_error_iff {error : MiddlewareError} :
    IsDefinite (.error error) ↔ ∃ message, error = .middleware message := by
  cases error with
  | middleware message => exact iff_of_true trivial ⟨message, rfl⟩
  | reqwest message => exact iff_of_false id (fun ⟨_, equal⟩ => by cases equal)

/-- Failing before the last request says what the last reply says. -/
theorem TellsRefusal.definite {α : Type} {method : TokenMethod α}
    (tells : TellsRefusal method) {before after : TokenManager}
    {error : MiddlewareError}
    (executes : method.Executes before trace (.error error) after) :
    IsDefinite (.error error) ↔ EndsRefused trace := by
  rw [isDefinite_error_iff, ← tells _ _ _ _ executes]
  simp

/-- What all layers return together is definite exactly if the last reply is a
refusal. -/
theorem AuthMiddleware.handle_definite_iff
    {next : HttpRequest → SystemProgram Outcome}
    (relays : ∀ request, Relays (.send request) id (next request))
    {request : HttpRequest} {before after : TokenManager} {outcome : Outcome}
    (executes : (handle codec fuel next request).Executes before trace outcome
      after) :
    IsDefinite outcome ↔ EndsRefused trace := by
  rcases executes_bind_iff.mp executes with ⟨error, rfl, failed⟩ |
    ⟨early, _, token, middle, rfl, acquired, continued⟩
  · exact TokenManager.tellsRefusal_getToken.definite failed
  rw [endsRefused_append_of_not
    (TokenManager.tellsRefusal_getToken.not_endsRefused acquired)]
  rcases executes_bind_iff.mp continued with ⟨error, rfl, failed⟩ |
    ⟨sent, rest, response, _, rfl, ran, decided⟩
  · obtain ⟨_, equal, -⟩ := sendWith_cases relays failed
    cases equal
  obtain ⟨_, equal, -, definite⟩ := sendWith_cases relays ran
  cases equal
  by_cases unauthorized : isUnauthorized response
  · rw [if_pos unauthorized] at decided
    rcases executes_bind_iff.mp decided with ⟨error, rfl, failed⟩ |
      ⟨renewing, resending, _, renewed, rfl, granted, continued⟩
    · have asked := TokenManager.getAccessToken_trace_ne_nil failed
      rw [endsRefused_append_of_ne_nil asked]
      exact TokenManager.tellsRefusal_getAccessToken.definite failed
    have asked := TokenManager.getAccessToken_trace_ne_nil granted
    rw [endsRefused_append_of_ne_nil (by simp [asked]), endsRefused_append_of_not
      (TokenManager.tellsRefusal_getAccessToken.not_endsRefused granted)]
    rcases executes_bind_iff.mp continued with ⟨error, rfl, failed⟩ |
      ⟨again, resent, token, _, rfl, acquired, continued⟩
    · exact TokenManager.tellsRefusal_getToken.definite failed
    rw [endsRefused_append_of_not
      (TokenManager.tellsRefusal_getToken.not_endsRefused acquired)]
    rcases executes_bind_iff.mp continued with ⟨error, rfl, failed⟩ |
      ⟨sent, _, response, _, rfl, ran, returned⟩
    · obtain ⟨_, equal, -⟩ := sendWith_cases relays failed
      cases equal
    obtain ⟨_, equal, -, definite⟩ := sendWith_cases relays ran
    cases equal
    obtain ⟨rfl, rfl, -⟩ := executes_ofExcept_iff.mp returned
    rw [List.append_nil]
    exact definite
  · rw [if_neg unauthorized] at decided
    obtain ⟨rfl, rfl, -⟩ := executes_ofExcept_iff.mp decided
    rw [List.append_nil]
    exact definite

theorem Client.send_definite_iff {request : HttpRequest} {before after : Client}
    {result : Except QuantumSystemError Outcome}
    (executes : (Client.send codec fuel request).Executes before trace result
      after) :
    ∃ outcome, result = .ok outcome ∧ (IsDefinite outcome ↔ EndsRefused trace) := by
  rw [Client.send, executes_self_bind_iff, executes_attempt_iff] at executes
  obtain ⟨outcome, rfl, sent⟩ := executes
  obtain ⟨manager, -, handled⟩ := executes_zoom_iff.mp sent
  exact ⟨outcome, rfl, AuthMiddleware.handle_definite_iff
    (before.relays_sendThroughRetries codec fuel) handled⟩

/-- The errors that are reported with a kind other than `Other`. -/
def PromisesNoTask (error : QuantumSystemError) : Prop :=
  error.toQrmiError.kind ≠ .other

theorem promisesNoTask_fromMiddlewareError {error : MiddlewareError} :
    PromisesNoTask (.fromMiddlewareError error) ↔ IsDefinite (.error error) := by
  cases error with
  | middleware message => exact iff_of_true (fun equal => by cases equal) trivial
  | reqwest message => exact iff_of_false (fun promises => promises rfl) id

theorem promisesNoTask_fromResponse (codec : Codec) (response : HttpResponse)
    (url : Text) :
    PromisesNoTask (.fromResponse codec response url .job) ↔
      IsDefinite (.ok response) := by
  rw [PromisesNoTask, QuantumSystemError.fromResponse]
  change _ ↔ response.status.code ∈ [400, 401, 404, 409, 413, 422]
  generalize response.status.code = code
  split_ifs with unauthorized forbidden missing timeout invalid full serverError
  all_goals simp_all [QuantumSystemError.toQrmiError, QrmiError.kind]

/-- A submission promises that there is no task exactly if its last reply is a
refusal. -/
theorem Client.runJob_promises_iff {payload : Json} {before after : Client}
    {result : Except QuantumSystemError Text}
    (executes : (Client.runJob codec fuel payload).Executes before trace result
      after) :
    (∃ error, result = .error error ∧ PromisesNoTask error) ↔
      EndsRefused trace := by
  rw [Client.runJob, executes_self_bind_iff] at executes
  rcases executes_bind_iff.mp executes with ⟨error, rfl, failed⟩ |
    ⟨sent, _, outcome, _, rfl, ran, decided⟩
  · obtain ⟨_, equal, -⟩ := Client.send_definite_iff failed
    cases equal
  obtain ⟨_, equal, definite⟩ := Client.send_definite_iff ran
  cases equal
  cases outcome with
  | error error =>
      obtain ⟨rfl, rfl, -⟩ := executes_throw_iff.mp decided
      rw [List.append_nil, ← definite, ← promisesNoTask_fromMiddlewareError]
      simp
  | ok response =>
      dsimp only at decided
      by_cases accepted : response.status.code = 204
      · have indefinite : ¬ IsDefinite (.ok response) := by
          change response.status.code ∉ [400, 401, 404, 409, 413, 422]
          rw [accepted]
          decide
        rw [if_pos accepted] at decided
        cases identifier : (payload.get "id").asString with
        | none =>
            rw [identifier] at decided
            exact absurd decided Program.not_runs_pending
        | some id =>
            rw [identifier] at decided
            obtain ⟨rfl, rfl, -⟩ := executes_pure_iff.mp decided
            rw [List.append_nil, ← definite]
            exact iff_of_false (fun ⟨_, equal, _⟩ => by cases equal) indefinite
      · rw [if_neg accepted] at decided
        obtain ⟨rfl, rfl, -⟩ := executes_throw_iff.mp decided
        rw [List.append_nil, ← definite,
          ← promisesNoTask_fromResponse codec response before.jobsUrl]
        simp

/-- Nothing is submitted before the job is described. -/
theorem Client.describeJob_quiet {backend : Text} {programId : ProgramId}
    {timeoutSecs : Nat} {logLevel : LogLevel} {payload : Json}
    {jobId : Option Text} :
    (Client.describeJob codec backend programId timeoutSecs logLevel payload
      jobId).Emits IsQuiet := by
  have presignQuiet : ∀ config bucket key operation expiration,
      (Client.presignedUrl config bucket key operation expiration).Emits IsQuiet := by
    intro config bucket key operation expiration
    refine (emits_lift (Program.emits_question fun _ => trivial)).bind fun reply => ?_
    cases operation with
    | getObject | putObject => exact emits_ofExcept _
  have idQuiet : (Client.chooseId jobId).Emits IsQuiet := by
    cases jobId with
    | some id => exact emits_pure id
    | none => exact emits_lift (Program.emits_question fun _ => trivial)
  refine emits_self.bind fun client => ?_
  cases client.s3Config with
  | none => exact emits_throw _
  | some config =>
      cases client.s3Bucket with
      | none => exact fun _ _ _ runs => absurd runs Program.not_runs_pending
      | some bucket =>
          refine idQuiet.bind fun id => ?_
          refine (emits_lift (Program.emits_question fun _ => trivial)).bind
            fun uploaded => (emits_ofExcept _).bind fun _ => ?_
          refine (presignQuiet _ _ _ _ _).bind fun inputUrl =>
            (presignQuiet _ _ _ _ _).bind fun resultsUrl =>
              (presignQuiet _ _ _ _ _).bind fun logsUrl => ?_
          exact emits_pure _

end Submission

end QuantumSystem

namespace IBMQuantumSystem

open Method

variable {codec : Codec} {fuel : Nat} {payload : Payload}
variable {before after : IBMQuantumSystem} {trace : List SystemEvent}

/-- Starting a task stops before anything was sent, or it ends with the reply that
decides its error. -/
theorem taskStart_cases {result : Except QrmiError Text}
    (executes : (taskStart codec fuel payload).Executes before trace result after) :
    (∀ event ∈ trace, IsQuiet event) ∨
      ((∃ error, result = .error error ∧ error.kind ≠ .other) ↔
        EndsRefused trace) := by
  rw [taskStart, executes_self_bind_iff] at executes
  rcases executes_bind_iff.mp executes with ⟨error, rfl, failed⟩ |
    ⟨_, rest, timeoutSecs, _, rfl, checked, continued⟩
  · obtain ⟨rfl, -⟩ := executes_ofExcept_iff.mp failed
    exact .inl (List.forall_mem_nil _)
  obtain ⟨rfl, -, rfl⟩ := executes_ofExcept_iff.mp checked
  rw [List.nil_append]
  rcases executes_bind_iff.mp continued with ⟨error, rfl, failed⟩ |
    ⟨_, rest, ⟨jobInput, programId⟩, _, rfl, parsed, submitting⟩
  · obtain ⟨rfl, -⟩ := executes_ofExcept_iff.mp failed
    exact .inl (List.forall_mem_nil _)
  obtain ⟨rfl, -, rfl⟩ := executes_ofExcept_iff.mp parsed
  rw [List.nil_append]
  rcases executes_bind_iff.mp submitting with ⟨error, -, failed⟩ |
    ⟨called, _, outcome, _, rfl, ran, returned⟩
  · obtain ⟨_, equal, -⟩ := executes_attempt_iff.mp failed
    cases equal
  obtain ⟨_, equal, attempted⟩ := executes_attempt_iff.mp ran
  cases equal
  obtain ⟨rfl, rfl, -⟩ := executes_ofExcept_iff.mp returned
  rw [List.append_nil]
  obtain ⟨client, -, primitive⟩ := executes_zoom_iff.mp attempted
  rcases executes_bind_iff.mp primitive with ⟨error, rfl, failed⟩ |
    ⟨described, submitted, jobParam, _, rfl, quiet, submission⟩
  · exact .inl (Client.describeJob_quiet.event_of_executes failed)
  · right
    have silent := Client.describeJob_quiet.event_of_executes quiet
    rw [endsRefused_append_of_not (not_endsRefused_of_quiet silent),
      ← Client.runJob_promises_iff submission]
    cases outcome with
    | ok id => simp [Except.mapError]
    | error error => simp [Except.mapError, PromisesNoTask]

end IBMQuantumSystem

/-! ## The server -/

/-- The jobs at the server, and the identifiers that the call has drawn. -/
structure JobStore where
  jobs : Set Text
  drawn : Set Text

namespace JobStore

/-- The identifier that a submission names. -/
def submittedId (baseUrl : Text) (request : HttpRequest) : Option Text :=
  if request.method = .post ∧ request.url = baseUrl ++ "/v1/jobs".toList then
    request.body.bind fun body => (body.get "id").asString
  else none

def Accepts : HttpReply → Prop
  | .ok response => response.status.code = 204
  | .error _ => False

/-- The reply got lost, or it was turned into a server error. -/
def LosesReply : HttpReply → Prop
  | .ok response => response.status.isServerError
  | .error _ => True

/-- A submission under a new identifier may create the job and lose its reply.
What exists already is not created again.  Other clients come and go, but they
do not draw the identifiers of this call. -/
def server (baseUrl : Text) : Server SystemAction SystemAction.Answer JobStore where
  moves store next :=
    next.drawn = store.drawn ∧ ∀ id ∈ store.drawn, (id ∈ next.jobs ↔ id ∈ store.jobs)
  serves store action answer next :=
    match action, answer with
    | .newUuid, id =>
        id ∉ store.jobs ∧ next = { store with drawn := insert id store.drawn }
    | .send request, reply =>
        match submittedId baseUrl request with
        | some id =>
            (id ∉ store.jobs ∧ next = { store with jobs := insert id store.jobs } ∧
              (Accepts reply ∨ LosesReply reply)) ∨
            (¬ Accepts reply ∧ next = store)
        | none => next = store
    | _, _ => next = store

/-- A job that the call submitted exists. -/
def HoldsDrawn (store : JobStore) : Prop :=
  ∃ id ∈ store.drawn, id ∈ store.jobs

/-- What the call submitted before is still there. -/
def Persists (earlier later : JobStore) : Prop :=
  earlier.HoldsDrawn → later.HoldsDrawn

theorem persists_refl (store : JobStore) : Persists store store :=
  id

theorem Persists.trans {first second third : JobStore}
    (before : Persists first second) (after : Persists second third) :
    Persists first third :=
  after ∘ before

/-- An answer with which a job may have been created. -/
def MayCreate : SystemEvent → Prop
  | ⟨.send _, reply⟩ => Accepts reply ∨ LosesReply reply
  | _ => False

theorem not_mayCreate_of_quiet {event : SystemEvent} (quiet : IsQuiet event) :
    ¬ MayCreate event := by
  obtain ⟨action, answer⟩ := event
  cases action with
  | send => exact quiet.elim
  | instant | newUuid | putObject | presign | postForm | overtake => exact id

theorem not_mayCreate_of_refused {event : SystemEvent} (refused : IsRefused event) :
    ¬ MayCreate event := by
  obtain ⟨action, answer⟩ := event
  cases action with
  | instant | newUuid | putObject | presign | postForm | overtake => exact id
  | send request =>
      cases answer with
      | error message => exact refused.elim
      | ok response =>
          have definite : response.status.code ∈ [400, 401, 404, 409, 413, 422] :=
            refused
          rintro (accepted | lost)
          · have created : response.status.code = 204 := accepted
            simp [created] at definite
          · have serverError : response.status.isServerError = true := lost
            simp [HttpStatus.isServerError] at serverError definite
            omega

variable {baseUrl : Text} {store next start final : JobStore}
variable {visited : List JobStore} {trace : List SystemEvent}

theorem holdsDrawn_of_moves (moved : (server baseUrl).moves store next) :
    next.HoldsDrawn ↔ store.HoldsDrawn := by
  obtain ⟨same, kept⟩ := moved
  rw [HoldsDrawn, HoldsDrawn, same]
  exact exists_congr fun id => and_congr_right fun member => kept id member

theorem serves_submission_iff {request : HttpRequest} {reply : HttpReply} {id : Text}
    (named : submittedId baseUrl request = some id) :
    (server baseUrl).serves store (.send request) reply next ↔
      (id ∉ store.jobs ∧ next = { store with jobs := insert id store.jobs } ∧
        (Accepts reply ∨ LosesReply reply)) ∨
      (¬ Accepts reply ∧ next = store) := by
  simp only [server, named]

/-- A request changes nothing, or it creates one job. -/
theorem submission_cases {request : HttpRequest} {reply : HttpReply}
    (served : (server baseUrl).serves store (.send request) reply next) :
    next = store ∨ ∃ id, next = { store with jobs := insert id store.jobs } ∧
      (Accepts reply ∨ LosesReply reply) := by
  cases named : submittedId baseUrl request with
  | none =>
      simp only [server, named] at served
      exact .inl served
  | some id =>
      rcases (serves_submission_iff named).mp served with ⟨-, created, told⟩ | ⟨-, same⟩
      · exact .inr ⟨id, created, told⟩
      · exact .inl same

theorem holdsDrawn_of_serves {event : SystemEvent}
    (served : (server baseUrl).serves store event.1 event.2 next) :
    (store.HoldsDrawn → next.HoldsDrawn) ∧
      (¬ MayCreate event → (next.HoldsDrawn ↔ store.HoldsDrawn)) := by
  obtain ⟨action, answer⟩ := event
  cases action with
  | instant | putObject | presign | postForm | overtake =>
      have same : next = store := served
      rw [same]
      exact ⟨id, fun _ => Iff.rfl⟩
  | newUuid =>
      obtain ⟨fresh, rfl⟩ := served
      have unchanged :
          HoldsDrawn { store with drawn := insert answer store.drawn } ↔
            store.HoldsDrawn := by
        constructor
        · rintro ⟨other, member, present⟩
          rcases Set.mem_insert_iff.mp member with rfl | drawn
          · exact absurd present fresh
          · exact ⟨other, drawn, present⟩
        · rintro ⟨other, drawn, present⟩
          exact ⟨other, Set.mem_insert_of_mem _ drawn, present⟩
      exact ⟨unchanged.mpr, fun _ => unchanged⟩
  | send request =>
      rcases submission_cases served with rfl | ⟨id, rfl, created⟩
      · exact ⟨fun holds => holds, fun _ => Iff.rfl⟩
      · refine ⟨fun ⟨own, drawn, present⟩ => ?_, fun never => absurd created never⟩
        exact ⟨own, drawn, Set.mem_insert_of_mem _ present⟩

theorem persists_of_serves {action : SystemAction} {answer : action.Answer}
    (served : (server baseUrl).serves store action answer next) :
    Persists store next := by
  have event : (server baseUrl).serves store
      (⟨action, answer⟩ : SystemEvent).1 (⟨action, answer⟩ : SystemEvent).2 next :=
    served
  exact (holdsDrawn_of_serves event).1

theorem mem_drawn_of_serves {event : SystemEvent}
    (served : (server baseUrl).serves store event.1 event.2 next) {id : Text} :
    id ∈ next.drawn ↔ id ∈ store.drawn ∨ event = ⟨.newUuid, id⟩ := by
  obtain ⟨action, answer⟩ := event
  cases action with
  | instant | putObject | presign | postForm | overtake =>
      have same : next = store := served
      rw [same]
      simp
  | newUuid =>
      obtain ⟨-, rfl⟩ := served
      simp only [Set.mem_insert_iff, Sigma.mk.injEq, heq_eq_eq, true_and]
      rw [or_comm, eq_comm]
  | send request =>
      rcases submission_cases served with rfl | ⟨created, rfl, -⟩
      · simp
      · simp

/-- The identifiers that a call has drawn are those in its trace. -/
theorem mem_drawn_iff (hosts : (server baseUrl).Hosts start visited trace final)
    (id : Text) :
    id ∈ final.drawn ↔ id ∈ start.drawn ∨ ⟨.newUuid, id⟩ ∈ trace := by
  induction hosts with
  | idle drift =>
      rw [drift.preserves JobStore.drawn And.left]
      simp
  | serve drift answered _ ih =>
      rw [ih, mem_drawn_of_serves answered,
        drift.preserves JobStore.drawn And.left, List.mem_cons, or_assoc]
      simp only [eq_comm]

end JobStore

namespace IBMQuantumSystem

open JobStore

/-- The last reply of the call is a refusal, although the job already existed at
some instant of the call. -/
def RefusedAfterCreation (visited : List JobStore) (trace : List SystemEvent) :
    Prop :=
  (∃ store ∈ visited, store.HoldsDrawn) ∧ EndsRefused trace

/-- The contract of the resource interface: after an error of a kind other than
`Other`, no job with an identifier drawn by the call exists. -/
def KeepsContract (result : Except QrmiError Text) (trace : List SystemEvent)
    (final : JobStore) : Prop :=
  ∀ error, result = .error error → error.kind ≠ .other →
    ∀ id, ⟨.newUuid, id⟩ ∈ trace → id ∉ final.jobs

section Contract

variable {codec : Codec} {fuel : Nat} {payload : Payload}
variable {before after : IBMQuantumSystem} {trace : List SystemEvent}
variable {result : Except QrmiError Text} {start final : JobStore}
variable {visited : List JobStore}

/-- A job of the call is there to stay. -/
theorem holdsDrawn_final {baseUrl : Text}
    (against : (JobStore.server baseUrl).ExecutesAgainst start
      (taskStart codec fuel payload) before visited trace result after final)
    {store : JobStore} (member : store ∈ visited) (holds : store.HoldsDrawn) :
    final.HoldsDrawn := by
  have ordered : (visited ++ [final]).Pairwise JobStore.Persists := by
    refine (Server.RunsAgainst.ordered persists_refl Persists.trans ?_ ?_ against).2
    · exact fun moved => (holdsDrawn_of_moves moved).mpr
    · exact persists_of_serves
  exact (List.pairwise_append.mp ordered).2.2 store member final
    (List.mem_singleton_self _) holds

/-- A job that exists after a refusal existed before it. -/
theorem exists_holdsDrawn_of_endsRefused {baseUrl : Text}
    (hosts : (JobStore.server baseUrl).Hosts start visited trace final)
    (ends : EndsRefused trace) (holds : final.HoldsDrawn) :
    ∃ store ∈ visited, store.HoldsDrawn := by
  obtain ⟨last, member, refused⟩ := ends
  obtain ⟨earlier, rfl⟩ := List.getLast?_eq_some_iff.mp member
  obtain ⟨store, inVisited, next, drifted, served, drift⟩ := hosts.exists_last
  have kept : final.HoldsDrawn = next.HoldsDrawn :=
    drift.preserves HoldsDrawn fun moved => propext (holdsDrawn_of_moves moved)
  have same := (holdsDrawn_of_serves served).2 (not_mayCreate_of_refused refused)
  exact ⟨store, inVisited, same.mp (kept ▸ holds)⟩

/-- A call that was told nothing but quiet answers has no job. -/
theorem not_holdsDrawn_of_quiet {baseUrl : Text}
    (against : (JobStore.server baseUrl).ExecutesAgainst start
      (taskStart codec fuel payload) before visited trace result after final)
    (quiet : ∀ event ∈ trace, IsQuiet event) (fresh : start.drawn = ∅) :
    ¬ final.HoldsDrawn := by
  have kept : final.HoldsDrawn = start.HoldsDrawn := by
    refine Server.RunsAgainst.preserves HoldsDrawn IsQuiet ?_ ?_ against quiet
    · exact fun moved => propext (holdsDrawn_of_moves moved)
    · exact fun served silent =>
        propext ((holdsDrawn_of_serves served).2 (not_mayCreate_of_quiet silent))
  rw [kept]
  rintro ⟨id, drawn, -⟩
  rw [fresh] at drawn
  exact drawn

/-- For every retry policy, every payload and every behaviour of the server, the
contract is kept exactly if the call was not refused after the server had created
its job. -/
theorem taskStart_contract_iff
    (against : (JobStore.server before.apiClient.baseUrl).ExecutesAgainst start
      (taskStart codec fuel payload) before visited trace result after final)
    (fresh : start.drawn = ∅) :
    KeepsContract result trace final ↔ ¬ RefusedAfterCreation visited trace := by
  have drawnIff := mem_drawn_iff against.hosts
  simp only [fresh, Set.mem_empty_iff_false, false_or] at drawnIff
  constructor
  · rintro keeps ⟨⟨store, member, holds⟩, ends⟩
    obtain ⟨id, drawn, present⟩ := holdsDrawn_final against member holds
    rcases taskStart_cases against.executes with quiet | decides
    · exact not_endsRefused_of_quiet quiet ends
    · obtain ⟨error, failed, kind⟩ := decides.mpr ends
      exact keeps error failed kind id ((drawnIff id).mp drawn) present
  · intro unrefused error failed kind id drawn present
    have holds : final.HoldsDrawn := ⟨id, (drawnIff id).mpr drawn, present⟩
    rcases taskStart_cases against.executes with quiet | decides
    · exact not_holdsDrawn_of_quiet against quiet fresh holds
    · have ends := decides.mp ⟨error, failed, kind⟩
      exact unrefused ⟨exists_holdsDrawn_of_endsRefused against.hosts ends holds, ends⟩

end Contract

/-! The reply to the first submission gets lost, the second one finds the job. -/

namespace LostReply

open Method

def settings : SettingsSource :=
  .config fun key =>
    [("QRMI_IBM_QS_ENDPOINT", "https://qs"), ("QRMI_IBM_QS_IAM_APIKEY", "k"),
      ("QRMI_IBM_QS_SERVICE_CRN", "crn"), ("QRMI_IBM_QS_IAM_ENDPOINT", "https://iam"),
      ("QRMI_IBM_QS_S3_BUCKET", "b"), ("QRMI_IBM_QS_S3_ENDPOINT", "https://s3"),
      ("QRMI_IBM_QS_AWS_ACCESS_KEY_ID", "a"),
      ("QRMI_IBM_QS_AWS_SECRET_ACCESS_KEY", "s"), ("QRMI_IBM_QS_S3_REGION", "r"),
      ("QRMI_JOB_TIMEOUT_SECONDS", "60")].findSome? fun entry =>
        if key = entry.1.toList then some entry.2.toList else none

def s3 : S3Config :=
  ⟨"https://s3".toList, "r".toList, "a".toList, "s".toList⟩

def system : IBMQuantumSystem where
  apiClient :=
    { baseUrl := "https://qs".toList
      serviceCrn := "crn".toList
      tokenManager := .new "https://iam/identity/token".toList "k".toList
        (some ⟨some MAX_RETRIES⟩)
      retryPolicy := some ⟨some MAX_RETRIES⟩
      iqpRetryPolicy := true
      s3Config := some s3
      s3Bucket := some "b".toList
      s3ConfigForQsapi := none }
  backendName := "test".toList
  settings := settings

theorem constructed : fromSettings true "test".toList settings = .ok system :=
  (rfl)

def tokenBody : Text :=
  "\x7b\"access_token\":\"t\",\"expires_in\":3600,\"token_type\":\"Bearer\"\x7d".toList

/-- Deserialisers that know the documents of the run. -/
def codec : Codec where
  defaultRetryableStrategy outcome := outcome.toOption.isNone
  readToken := readDocument tokenBody ⟨"t".toList, 3600⟩
  readIamError _ := .error "expected value"
  readError _ := .error "expected value"
  json := .ofTable [.object []]

def payload : Payload :=
  .qiskitPrimitive "\x7b\x7d".toList "sampler".toList

/-- Asking for a token. -/
def renewal : List SystemEvent :=
  [⟨.postForm "https://iam/identity/token".toList
      [("grant_type", "urn:ibm:params:oauth:grant-type:apikey".toList),
        ("apikey", "k".toList)],
    .ok ⟨⟨200, "OK"⟩, some "application/json".toList, .ok tokenBody⟩⟩,
    ⟨.instant, (0 : Nat)⟩]

def conflictResponse : HttpResponse :=
  ⟨⟨409, "Conflict"⟩, some "application/json".toList, .ok []⟩

def authorizedBy (request : HttpRequest) : HttpRequest :=
  { request with authorization := .bearer "t".toList }

/-- Sending a request whose first reply gets lost. -/
def resending (request : HttpRequest) : List SystemEvent :=
  [⟨.send (authorizedBy request), .error "connection reset"⟩,
    ⟨.send (authorizedBy request), .ok conflictResponse⟩]

def stored : TokenManager :=
  system.apiClient.tokenManager.store "t".toList 3240000000000

theorem reads :
    readBody codec.readToken
      ⟨⟨200, "OK"⟩, some "application/json".toList, .ok tokenBody⟩ =
        .ok ⟨"t".toList, 3600⟩ :=
  readBody_document ..

theorem expires : instantAfter 0 (nineTenths 3600) = some 3240000000000 := by
  decide

theorem renews :
    (TokenManager.getAccessToken codec 10).Executes system.apiClient.tokenManager
      renewal (.ok ()) stored := by
  rw [TokenManager.getAccessToken, executes_self_bind_iff]
  refine executes_bind_iff.mpr (.inr ⟨[_], [_], .ok _, _, rfl,
    executes_lift_iff.mpr ⟨_, .ask (.done _), rfl, rfl⟩, ?_⟩)
  have success : (⟨200, "OK"⟩ : HttpStatus).isSuccess = true := rfl
  rw [executes_ofExcept_bind_ok_iff, if_pos success, reads,
    executes_ofExcept_bind_ok_iff]
  refine executes_bind_iff.mpr (.inr ⟨[_], [], (0 : Nat), _, rfl,
    executes_lift_iff.mpr ⟨_, .ask (.done _), rfl, rfl⟩, ?_⟩)
  rw [expires]
  exact .done _

theorem acquires :
    (TokenManager.getToken codec 10).Executes system.apiClient.tokenManager renewal
      (.ok "t".toList) stored := by
  refine executes_bind_iff.mpr (.inr ⟨_, [], (), stored, (List.append_nil _).symm,
    ?_, .done _⟩)
  rw [TokenManager.ensureTokenValidity, executes_self_bind_iff]
  exact renews

theorem resends (request : HttpRequest) :
    (system.apiClient.sendThroughRetries codec 10 (authorizedBy request)).Runs
      (resending request) (.ok conflictResponse) :=
  .ask (.ask (.done _))

theorem handles (request : HttpRequest) :
    (AuthMiddleware.handle codec 10 (system.apiClient.sendThroughRetries codec 10)
      request).Executes system.apiClient.tokenManager (renewal ++ resending request)
        (.ok conflictResponse) stored := by
  refine executes_bind_iff.mpr (.inr ⟨_, _, "t".toList, stored, rfl, acquires, ?_⟩)
  refine executes_bind_iff.mpr (.inr ⟨_, [], .ok conflictResponse, stored,
    (List.append_nil _).symm, ?_, .done _⟩)
  exact executes_lift_iff.mpr ⟨_, resends request, rfl, rfl⟩

def renewed : Client :=
  system.apiClient.withTokenManager stored

def job : Json :=
  .object
    [("id".toList, .string ['j']), ("backend".toList, .string "test".toList),
      Json.stringMember "program_id" "sampler", Json.stringMember "log_level" "debug",
      Json.unsignedMember "timeout_secs" 60,
      ("storage".toList, .object
        [Client.storageEntry "input" ['i'], Client.storageEntry "results" ['r'],
          Client.storageEntry "logs" ['l']])]

def submission : HttpRequest :=
  system.apiClient.runJobRequest job

def refusal : QuantumSystemError :=
  .invalidJobInput "(no error body available; request URL: https://qs/v1/jobs)"

theorem submits :
    (Client.runJob codec 10 job).Executes system.apiClient
      (renewal ++ resending submission) (.error refusal) renewed := by
  rw [Client.runJob, executes_self_bind_iff]
  refine executes_bind_iff.mpr (.inr ⟨_, [], .ok conflictResponse, renewed,
    (List.append_nil _).symm, ?_, .done _⟩)
  rw [Client.send, executes_self_bind_iff]
  refine executes_attempt_iff.mpr ⟨_, rfl, ?_⟩
  exact executes_zoom_iff.mpr ⟨stored, rfl, handles submission⟩

/-- Uploading the input and presigning the addresses. -/
def description : List SystemEvent :=
  [⟨.newUuid, ['j']⟩,
    ⟨.putObject s3 "b".toList "input_j.json".toList "\x7b\x7d".toList, .ok ()⟩,
    ⟨.presign s3 "b".toList "input_j.json".toList .getObject 60, .ok ['i']⟩,
    ⟨.presign s3 "b".toList "results_j.json".toList .putObject 60, .ok ['r']⟩,
    ⟨.presign s3 "b".toList "logs_j.json".toList .putObject 60, .ok ['l']⟩]

theorem describes :
    (Client.describeJob codec "test".toList .sampler 60 .debug (.object [])
      none).Executes system.apiClient description (.ok job) system.apiClient :=
  .ask (.ask (.ask (.ask (.ask (.done _)))))

def trace : List SystemEvent :=
  description ++ (renewal ++ resending submission)

theorem executes :
    (taskStart codec 10 payload).Executes system trace
      (.error refusal.toQrmiError) (system.withClient renewed) := by
  rw [taskStart, executes_self_bind_iff]
  refine executes_bind_iff.mpr (.inr ⟨[], trace, 60, system, rfl, .done _, ?_⟩)
  refine executes_bind_iff.mpr
    (.inr ⟨[], trace, (.object [], .sampler), system, rfl, .done _, ?_⟩)
  refine executes_bind_iff.mpr (.inr ⟨trace, [], .error refusal, system.withClient renewed,
    (List.append_nil _).symm, ?_, .done _⟩)
  refine executes_attempt_iff.mpr ⟨_, rfl, executes_zoom_iff.mpr ⟨renewed, rfl, ?_⟩⟩
  exact executes_bind_iff.mpr (.inr ⟨_, _, job, _, rfl, describes, submits⟩)

def empty : JobStore :=
  ⟨∅, ∅⟩

def drawn : JobStore :=
  ⟨∅, insert ['j'] ∅⟩

def created : JobStore :=
  ⟨insert ['j'] ∅, insert ['j'] ∅⟩

def visited : List JobStore :=
  [empty, drawn, drawn, drawn, drawn, drawn, drawn, drawn, created]

theorem names : submittedId system.apiClient.baseUrl (authorizedBy submission) =
    some ['j'] :=
  rfl

theorem creates :
    (JobStore.server system.apiClient.baseUrl).serves drawn
      (.send (authorizedBy submission)) (.error "connection reset") created :=
  (serves_submission_iff names).mpr (.inl ⟨Set.notMem_empty _, rfl, .inr trivial⟩)

theorem refuses :
    (JobStore.server system.apiClient.baseUrl).serves created
      (.send (authorizedBy submission)) (.ok conflictResponse) created := by
  have unaccepted : ¬ Accepts (.ok conflictResponse) := by
    change ¬ (409 = 204)
    decide
  exact (serves_submission_iff names).mpr (.inr ⟨unaccepted, rfl⟩)

theorem against :
    (JobStore.server system.apiClient.baseUrl).ExecutesAgainst empty
      (taskStart codec 10 payload) system visited trace
      (.error refusal.toQrmiError) (system.withClient renewed) created := by
  refine Server.Hosts.runsAgainst ?_ executes
  exact .serve (.refl _) ⟨Set.notMem_empty _, rfl⟩
    (.serve (.refl _) rfl (.serve (.refl _) rfl (.serve (.refl _) rfl
      (.serve (.refl _) rfl (.serve (.refl _) rfl (.serve (.refl _) rfl
        (.serve (.refl _) creates (.serve (.refl _) refuses (.idle (.refl _))))))))))

end LostReply

theorem taskStart_contract_iff_lost :
    KeepsContract (.error LostReply.refusal.toQrmiError) LostReply.trace
        LostReply.created ↔
      ¬ RefusedAfterCreation LostReply.visited LostReply.trace :=
  taskStart_contract_iff LostReply.against rfl

/-- The reply to the submission that created the job gets lost, the repeated
submission is refused as a duplicate, and the caller is told that its input was
invalid. -/
theorem exists_refused_job :
    ∃ settings system start visited trace error after final id,
      fromSettings true "test".toList settings = .ok system ∧
      (JobStore.server system.apiClient.baseUrl).ExecutesAgainst start
        (taskStart LostReply.codec 10 LostReply.payload) system visited trace
        (.error error) after final ∧
      start.drawn = ∅ ∧ error.kind = .invalidInput ∧ ⟨.newUuid, id⟩ ∈ trace ∧
        id ∈ final.jobs :=
  ⟨LostReply.settings, LostReply.system, LostReply.empty, LostReply.visited,
    LostReply.trace, _, _, LostReply.created, ['j'], LostReply.constructed,
    LostReply.against, rfl, rfl, List.mem_cons_self .., Set.mem_insert _ _⟩

end IBMQuantumSystem
