import Qrmi.MaestroRequest

/-!
# The status of a Maestro server

A status request goes to the native API first.  A server that knows no such
command is pinged instead, and no other answer is taken for such a server.
-/

namespace Maestro

open Interaction

section Replies

variable (json : JsonLibrary)

/-- A line that carries a version 2 document. -/
def Carries (line : Text) (value : Json) : Prop :=
  envelope json line = some (.ok value) ∧ hasVersion value "version" = true

/-- A well-formed refusal with the given code. -/
def RefusesWith (line : Text) (code : Text) : Prop :=
  ∃ value, Carries json line value ∧ (value.get "ok").asBool = some false ∧
    ((value.get "error").get "code").asString = some code

/-- A reply of a server that does not know the status command. -/
def LacksStatus : Reply → Prop
  | .error _ => False
  | .ok line => Text.trim line = "ERROR Unknown command".toList ∨
      RefusesWith json line "unsupported_operation".toList

/-- A reason may be missing, and is a text otherwise. -/
def StatesReason (document : Json) (reason : Option Text) : Prop :=
  (document = .null ∧ reason = none) ∨ ∃ text, document = .string text ∧ reason = some text

/-- A well-formed envelope with the given status. -/
structure StatesStatus (line : Text) (status : ServerStatus) : Prop where
  document : ∃ value, Carries json line value ∧ (value.get "ok").asBool = some true ∧
    ((value.get "status").get "accepting_jobs").asBool = some status.acceptingJobs ∧
    (∃ healthy, ((value.get "status").get "healthy").asBool = some healthy ∧
      status.healthy = some healthy) ∧
    (∃ busy, ((value.get "status").get "busy").asBool = some busy ∧
      status.busy = some busy) ∧
    (∃ count, ((value.get "status").get "pending_job_count").asU64 = some count ∧
      status.pendingJobCount = some count) ∧
    StatesReason ((value.get "status").get "status_reason") status.reason

/-- The status that a reply to the native request states. -/
def AnswersStatus (reply : Reply) (status : ServerStatus) : Prop :=
  ∃ line, reply = .ok line ∧ StatesStatus json line status

/-- An acknowledgement of a ping says whether jobs are accepted, and no more. -/
def AcknowledgesPing (reply : Reply) (status : ServerStatus) : Prop :=
  ∃ line, reply = .ok line ∧ status = ⟨status.acceptingJobs, none, none, none, none⟩ ∧
    (status.acceptingJobs = true ∧
        (Text.trim line = "OK".toList ∨ Text.trim line = "OK YES".toList) ∨
      status.acceptingJobs = false ∧ Text.trim line = "OK NO".toList)

end Replies

namespace RequestClient

section Readers

variable {json : JsonLibrary} {line : Text}

theorem readPing_ok_iff {status : ServerStatus} :
    readPing line = .ok status ↔ AcknowledgesPing (.ok line) status := by
  unfold readPing
  dsimp only
  by_cases accepts : Text.trim line = "OK".toList ∨ Text.trim line = "OK YES".toList
  · rw [if_pos accepts]
    constructor
    · rintro ⟨⟩
      exact ⟨line, rfl, rfl, .inl ⟨rfl, accepts⟩⟩
    · rintro ⟨_, ⟨⟩, equal, ⟨value, -⟩ | ⟨-, refuses⟩⟩
      · rw [equal, value]
      · rw [refuses] at accepts
        exact absurd accepts (by decide)
  · rw [if_neg accepts]
    by_cases refuses : Text.trim line = "OK NO".toList
    · rw [if_pos refuses]
      constructor
      · rintro ⟨⟩
        exact ⟨line, rfl, rfl, .inr ⟨rfl, refuses⟩⟩
      · rintro ⟨_, ⟨⟩, equal, ⟨-, acknowledged⟩ | ⟨value, -⟩⟩
        · exact absurd acknowledged accepts
        · rw [equal, value]
    · rw [if_neg refuses]
      refine iff_of_false (by simp) ?_
      rintro ⟨_, ⟨⟩, -, ⟨-, acknowledged⟩ | ⟨-, acknowledged⟩⟩
      · exact accepts acknowledged
      · exact refuses acknowledged

/-- Of the errors of a reply, only a refusal has a code that the server chose. -/
theorem parseApiResponse_unsupported_iff :
    (∃ error, parseApiResponse json line = .error error ∧
        error.code = "unsupported_operation".toList) ↔
      RefusesWith json line "unsupported_operation".toList := by
  unfold parseApiResponse RefusesWith Carries
  cases read : envelope json line with
  | none => simp [RequestError.new]
  | some parsed =>
      cases parsed with
      | error message => simp [RequestError.new]
      | ok value =>
          by_cases version : hasVersion value "version" = true
          · cases answer : (value.get "ok").asBool with
            | none => simp [version, answer, RequestError.new]
            | some accepted =>
                cases accepted with
                | true => simp [version, answer]
                | false =>
                    cases code : ((value.get "error").get "code").asString <;>
                      simp [version, answer, code]
          · simp [version, RequestError.new]

theorem allowsPing_iff : allowsPing json line = true ↔ LacksStatus json (.ok line) := by
  rw [LacksStatus, ← parseApiResponse_unsupported_iff, allowsPing, Bool.or_eq_true,
    decide_eq_true_iff]
  refine or_congr_right ?_
  cases parseApiResponse json line with
  | error error =>
      constructor
      · exact fun same => ⟨error, rfl, of_decide_eq_true same⟩
      · rintro ⟨_, ⟨⟩, same⟩
        exact decide_eq_true same
  | ok value =>
      refine iff_of_false Bool.false_ne_true ?_
      rintro ⟨_, impossible, -⟩
      cases impossible

theorem parseApiResponse_ok_iff {value : Json} :
    parseApiResponse json line = .ok value ↔
      Carries json line value ∧ (value.get "ok").asBool = some true := by
  unfold parseApiResponse Carries
  cases read : envelope json line with
  | none => simp
  | some parsed =>
      cases parsed with
      | error message => simp
      | ok document =>
          constructor
          · intro accepted
            by_cases version : hasVersion document "version" = true
            · cases answer : (document.get "ok").asBool with
              | none => simp [version, answer] at accepted
              | some positive =>
                  cases positive with
                  | false => simp [version, answer] at accepted
                  | true =>
                      have same : document = value := by
                        simpa [version, answer] using accepted
                      rw [← same]
                      exact ⟨⟨rfl, version⟩, answer⟩
            · simp [version] at accepted
          · rintro ⟨⟨⟨⟩, version⟩, answer⟩
            simp [version, answer]

/-- The members that a status document must have. -/
theorem readStatus_eq_ok_iff {value : Json} {status : ServerStatus} :
    readStatus value = .ok status ↔
      ((value.get "status").get "accepting_jobs").asBool = some status.acceptingJobs ∧
      (∃ healthy, ((value.get "status").get "healthy").asBool = some healthy ∧
        status.healthy = some healthy) ∧
      (∃ busy, ((value.get "status").get "busy").asBool = some busy ∧
        status.busy = some busy) ∧
      (∃ count, ((value.get "status").get "pending_job_count").asU64 = some count ∧
        status.pendingJobCount = some count) ∧
      StatesReason ((value.get "status").get "status_reason") status.reason := by
  unfold readStatus StatesReason
  dsimp only
  obtain ⟨acceptingJobs, healthy, busy, pendingJobCount, reason⟩ := status
  generalize (value.get "status").get "status_reason" = reasonDocument
  generalize ((value.get "status").get "accepting_jobs").asBool = acceptingMember
  generalize ((value.get "status").get "healthy").asBool = healthyMember
  generalize ((value.get "status").get "busy").asBool = busyMember
  generalize ((value.get "status").get "pending_job_count").asU64 = countMember
  cases reasonDocument with
  | null =>
      rcases acceptingMember with _ | _ <;> rcases healthyMember with _ | _ <;>
        rcases busyMember with _ | _ <;> rcases countMember with _ | _ <;>
        simp [bind, Except.bind, pure, Except.pure, eq_comm]
  | string text =>
      rcases acceptingMember with _ | _ <;> rcases healthyMember with _ | _ <;>
        rcases busyMember with _ | _ <;> rcases countMember with _ | _ <;>
        simp [bind, Except.bind, pure, Except.pure, Functor.map, Except.map,
          Json.asString, eq_comm]
  | bool value => simp [bind, Except.bind, Functor.map, Except.map, Json.asString]
  | number value => simp [bind, Except.bind, Functor.map, Except.map, Json.asString]
  | array items => simp [bind, Except.bind, Functor.map, Except.map, Json.asString]
  | object entries => simp [bind, Except.bind, Functor.map, Except.map, Json.asString]

theorem readStatus_ok_iff {status : ServerStatus} :
    (parseApiResponse json line).bind readStatus = .ok status ↔
      StatesStatus json line status := by
  constructor
  · intro accepted
    cases parsed : parseApiResponse json line with
    | error error =>
        rw [parsed] at accepted
        cases accepted
    | ok value =>
        rw [parsed] at accepted
        obtain ⟨carries, positive⟩ := parseApiResponse_ok_iff.mp parsed
        exact ⟨value, carries, positive, readStatus_eq_ok_iff.mp accepted⟩
  · rintro ⟨value, carries, positive, members⟩
    rw [parseApiResponse_ok_iff.mpr ⟨carries, positive⟩]
    exact readStatus_eq_ok_iff.mpr members

end Readers

/-- A status request that was answered, or was followed by a ping. -/
inductive StatusExchange (json : JsonLibrary) :
    List Exchange → Except RequestError ServerStatus → Prop
  | answered {first : Reply} {result : Except RequestError ServerStatus}
      (known : ¬ LacksStatus json first)
      (exact : ∀ status, result = .ok status ↔ AnswersStatus json first status) :
      StatusExchange json [⟨.api statusDocument, first⟩] result
  | pinged {first second : Reply} {result : Except RequestError ServerStatus}
      (unknown : LacksStatus json first)
      (exact : ∀ status, result = .ok status ↔ AcknowledgesPing second status) :
      StatusExchange json [⟨.api statusDocument, first⟩, ⟨.ping, second⟩] result

section Executions

variable {json : JsonLibrary} {before after : RequestClient} {trace : List Exchange}
variable {result : Except RequestError ServerStatus}

/-- What the reply to a ping gives. -/
theorem executes_ping_iff :
    (do
      match ← Method.lift (Program.question .ping) with
      | .error error => Method.throw (.new "transport" error)
      | .ok ping => Method.ofExcept (readPing ping) : ClientMethod ServerStatus).Executes
        before trace result after ↔
      after = before ∧ ∃ second, trace = [⟨.ping, second⟩] ∧
        result = (second.mapError (RequestError.new "transport")).bind readPing := by
  rw [Method.executes_question_bind_iff]
  constructor
  · rintro ⟨second, rest, rfl, continued⟩
    cases second with
    | error error =>
        obtain ⟨rfl, rfl, rfl⟩ := Method.executes_throw_iff.mp continued
        exact ⟨rfl, _, rfl, rfl⟩
    | ok ping =>
        obtain ⟨rfl, rfl, rfl⟩ := Method.executes_ofExcept_iff.mp continued
        exact ⟨rfl, _, rfl, rfl⟩
  · rintro ⟨rfl, second, rfl, rfl⟩
    refine ⟨second, [], rfl, ?_⟩
    cases second with
    | error error => exact Method.executes_throw_iff.mpr ⟨rfl, rfl, rfl⟩
    | ok ping => exact Method.executes_ofExcept_iff.mpr ⟨rfl, rfl, rfl⟩

/-- The results of a status request, as the source computes them from its replies. -/
theorem executes_status_iff :
    (status json).Executes before trace result after ↔
      after = before ∧
        ((∃ error, trace = [⟨.api statusDocument, .error error⟩] ∧
            result = .error (.new "transport" error)) ∨
          (∃ line, ¬ allowsPing json line ∧ trace = [⟨.api statusDocument, .ok line⟩] ∧
            result = (parseApiResponse json line).bind readStatus) ∨
          ∃ line second, allowsPing json line ∧
            trace = [⟨.api statusDocument, .ok line⟩, ⟨.ping, second⟩] ∧
            result = (second.mapError (RequestError.new "transport")).bind readPing) := by
  unfold status
  rw [Method.executes_question_bind_iff]
  constructor
  · rintro ⟨first, rest, rfl, continued⟩
    cases first with
    | error error =>
        obtain ⟨rfl, rfl, rfl⟩ := Method.executes_throw_iff.mp continued
        exact ⟨rfl, .inl ⟨error, rfl, rfl⟩⟩
    | ok line =>
        dsimp only at continued
        by_cases pings : allowsPing json line
        · rw [if_pos pings] at continued
          obtain ⟨rfl, second, rfl, rfl⟩ := executes_ping_iff.mp continued
          exact ⟨rfl, .inr (.inr ⟨line, second, pings, rfl, rfl⟩)⟩
        · rw [if_neg pings] at continued
          obtain ⟨rfl, rfl, rfl⟩ := Method.executes_ofExcept_iff.mp continued
          exact ⟨rfl, .inr (.inl ⟨line, pings, rfl, rfl⟩)⟩
  · rintro ⟨rfl, ⟨error, rfl, rfl⟩ | ⟨line, pings, rfl, rfl⟩ | ⟨line, second, pings, rfl, rfl⟩⟩
    · exact ⟨.error error, [], rfl, Method.executes_throw_iff.mpr ⟨rfl, rfl, rfl⟩⟩
    · refine ⟨.ok line, [], rfl, ?_⟩
      dsimp only
      rw [if_neg pings]
      exact Method.executes_ofExcept_iff.mpr ⟨rfl, rfl, rfl⟩
    · refine ⟨.ok line, [⟨.ping, second⟩], rfl, ?_⟩
      dsimp only
      rw [if_pos pings]
      exact executes_ping_iff.mpr ⟨rfl, second, rfl, rfl⟩

theorem pingResult_ok_iff {second : Reply} {status : ServerStatus} :
    (second.mapError (RequestError.new "transport")).bind readPing = .ok status ↔
      AcknowledgesPing second status := by
  cases second with
  | error error =>
      refine iff_of_false (by simp [Except.mapError, Except.bind]) ?_
      rintro ⟨_, impossible, -⟩
      cases impossible
  | ok ping => exact readPing_ok_iff

theorem statusExchange_of_executes
    (executes : (status json).Executes before trace result after) :
    StatusExchange json trace result := by
  obtain ⟨-, ⟨error, rfl, rfl⟩ | ⟨line, pings, rfl, rfl⟩ | ⟨line, second, pings, rfl, rfl⟩⟩ :=
    executes_status_iff.mp executes
  · refine .answered id fun status => iff_of_false (by simp) ?_
    rintro ⟨_, impossible, -⟩
    cases impossible
  · refine .answered (mt allowsPing_iff.mpr pings) fun status => ?_
    rw [readStatus_ok_iff]
    constructor
    · exact fun states => ⟨line, rfl, states⟩
    · rintro ⟨_, ⟨⟩, states⟩
      exact states
  · exact .pinged (allowsPing_iff.mp pings) fun status => pingResult_ok_iff

end Executions

/-- The fallback of a status request is exact: every pair of replies has its run, the
ping is sent for the replies of a server without the command and no others, and what
is returned is what the last reply states. -/
theorem status_exact (json : JsonLibrary) :
    (∀ client first second, ∃ trace result,
        (status json).Executes client trace result client ∧
        (trace = [⟨.api statusDocument, first⟩] ∨
          trace = [⟨.api statusDocument, first⟩, ⟨.ping, second⟩])) ∧
      ∀ before trace result after, (status json).Executes before trace result after →
        StatusExchange json trace result ∧
          ∀ event ∈ trace, event.1 = .api statusDocument ∨ event.1 = .ping := by
  constructor
  · intro client first second
    cases first with
    | error error =>
        exact ⟨_, _, executes_status_iff.mpr ⟨rfl, .inl ⟨error, rfl, rfl⟩⟩, .inl rfl⟩
    | ok line =>
        by_cases pings : allowsPing json line
        · exact ⟨_, _, executes_status_iff.mpr
            ⟨rfl, .inr (.inr ⟨line, second, pings, rfl, rfl⟩)⟩, .inr rfl⟩
        · exact ⟨_, _, executes_status_iff.mpr
            ⟨rfl, .inr (.inl ⟨line, pings, rfl, rfl⟩)⟩, .inl rfl⟩
  · intro before trace result after executes
    have exchanged := statusExchange_of_executes executes
    refine ⟨exchanged, ?_⟩
    cases exchanged with
    | answered known exact => simp
    | pinged unknown exact => simp

/-- A legacy server is pinged and accepts jobs. -/
theorem status_exact_legacy :
    StatusExchange (.ofTable [])
      [⟨.api statusDocument, .ok "ERROR Unknown command\n".toList⟩, ⟨.ping, .ok "OK\n".toList⟩]
      (.ok ⟨true, none, none, none, none⟩) :=
  have executes : (status (.ofTable [])).Executes (.new "/run/maestro.sock")
      [⟨.api statusDocument, .ok "ERROR Unknown command\n".toList⟩,
        ⟨.ping, .ok "OK\n".toList⟩]
      (.ok ⟨true, none, none, none, none⟩) (.new "/run/maestro.sock") :=
    .ask (.ask (.done _))
  ((status_exact (.ofTable [])).2 _ _ _ _ executes).1

end RequestClient

end Maestro
