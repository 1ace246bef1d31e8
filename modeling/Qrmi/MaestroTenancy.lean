import Qrmi.InteractionHistory
import Qrmi.MaestroObservation
import Qrmi.MaestroSubmission

/-!
# The held session of a Maestro instance

An instance holds at most one session, and everything it remembers belongs to
that session.  The effect of every operation on these two pieces of state is
listed once.  The invariant then follows for all histories of operations, with
whatever replies the server gives.
-/

namespace Maestro

open Interaction

/-- An exchange that creates no task. -/
def Creationless (event : Exchange) : Prop :=
  event.1.createsTask = false

namespace MaestroLocal

section Emission

variable {α : Type} {codecs : Codecs}

theorem creationless_of_observing {event : Exchange} (observing : Observing event) :
    Creationless event := by
  cases observing with
  | query task verb known reply => exact createsTask_command task verb
  | logs session id reply => rfl

theorem emits_taskStatus (taskId : Text) :
    (taskStatus codecs taskId).Emits Creationless :=
  (observes_taskStatus taskId).mono fun _ => creationless_of_observing

theorem emits_taskStop (taskId : Text) :
    (taskStop codecs taskId).Emits Creationless := by
  unfold taskStop
  refine Method.Emits.bind Method.emits_self fun resource => ?_
  refine (Method.emits_ofExcept _).bind fun task => ?_
  apply (emits_taskStatus taskId).bind
  intro status
  split
  · exact Method.emits_pure _
  · have cancels : (taskCall task.cancelAt).Emits Creationless :=
      emits_taskCall (fun _ => asks_acknowledge)
        fun _ => createsTask_command task .cancel
    apply cancels.bind
    intro response
    split
    · exact Method.emits_modify _
    · exact (emits_taskStatus taskId).attempt.bind fun _ => emits_stopOutcome

theorem emits_taskResult (taskId : Text) :
    (taskResult codecs taskId).Emits Creationless := by
  have fetched (task : Task) :
      (taskCall task.getResultsAsStringAt).Emits Creationless := by
    rintro resource trace ⟨result, after⟩ runs event member
    obtain ⟨_, asked, -, -⟩ := executes_taskCall_iff.mp runs
    obtain ⟨reply, rfl, -⟩ := runs_getResultsAsStringAt asked
    rw [List.mem_singleton.mp member]
    exact createsTask_command task .getResults
  unfold taskResult
  refine Method.Emits.bind Method.emits_self fun resource => ?_
  refine (Method.emits_ofExcept _).bind fun task => ?_
  apply (emits_taskStatus taskId).bind
  intro status
  split
  · exact Method.emits_throw _
  · have present : (ensureTaskExists task).Emits Creationless :=
      (observes_ensureTaskExists task).mono fun _ => creationless_of_observing
    apply present.bind
    intro _
    have answered (response : Except String Text) :
        (taskResponse task "Failed to get results" response).Emits Creationless :=
      (observes_taskResponse task _ response).mono fun _ => creationless_of_observing
    exact (fetched task).bind fun _ => answered _

/-- A native request that is one call of a harmless document is harmless. -/
theorem emits_nativeApi {operation : ClientMethod α}
    (emits : operation.Emits Creationless) :
    (nativeApi operation).Emits Creationless :=
  emits.zoom.attempt.bind fun _ => Method.emits_ofExcept _

theorem creationless_of_emits {operation : ClientMethod α} {document : Json}
    (harmless : (Command.api document).createsTask = false)
    (emits : operation.Emits fun event => event.1 = .api document) :
    operation.Emits Creationless :=
  emits.mono fun event asked => by rw [Creationless, asked, harmless]

theorem emits_taskLogs (taskId : Text) :
    (taskLogs codecs taskId).Emits Creationless := by
  unfold taskLogs
  refine Method.Emits.bind Method.emits_self fun resource => ?_
  refine (Method.emits_ofExcept _).bind fun task => ?_
  have asks : (RequestClient.logs codecs.json task.sessionId task.id).Emits
      fun event => event.1 = .api (logsDocument task.sessionId task.id) :=
    RequestClient.emits_callWith.bind fun _ => Method.emits_pure _
  exact emits_nativeApi (creationless_of_emits (by rfl) asks)

theorem emits_target : (target codecs).Emits Creationless :=
  emits_nativeApi
    (creationless_of_emits createsTask_capabilities RequestClient.emits_capabilities)

theorem emits_status : (status codecs).Emits Creationless :=
  (emits_nativeApi RequestClient.creationless_status).bind fun _ => Method.emits_pure _

theorem emits_isAccessible : isAccessible.Emits Creationless := by
  unfold isAccessible
  refine Method.Emits.bind ?_ fun response => ?_
  · rintro resource trace ⟨result, after⟩ runs event member
    obtain ⟨_, asked, -, -⟩ := executes_taskCall_iff.mp runs
    obtain ⟨reply, rfl, -⟩ := runs_sendCommandAt_iff.mp asked
    rw [List.mem_singleton.mp member]
    rfl
  · split
    · exact Method.emits_pure _
    · exact Method.emits_throw _
    · exact Method.emits_throw _

end Emission

section Effects

variable {α : Type} {codecs : Codecs} {before after : MaestroLocal}
variable {trace : List Exchange}

/-- The outcomes of `acquire`. -/
inductive AcquireOutcome (before : MaestroLocal) :
    List Exchange → Except QrmiError Text → MaestroLocal → Prop
  | acquired {reply : Reply} {session : UInt32}
      (free : before.sessionId = none)
      (identified : reply.identifier = some session) :
      AcquireOutcome before [⟨.sessionCreate, reply⟩]
        (.ok (Text.showU32 session)) (before.holdSession session)
  | refused {reply : Reply} (message : String)
      (free : before.sessionId = none)
      (unidentified : reply.identifier = none) :
      AcquireOutcome before [⟨.sessionCreate, reply⟩] (.error (.other message))
        before
  | kept {check : Reply} {held : UInt32} (holds : before.sessionId = some held)
      (present : check.acknowledgement = some true) :
      AcquireOutcome before [⟨.sessionExists held, check⟩]
        (.ok (Text.showU32 held)) before
  | unchecked {check : Reply} {held : UInt32} (message : String)
      (holds : before.sessionId = some held)
      (unanswered : check.acknowledgement = none) :
      AcquireOutcome before [⟨.sessionExists held, check⟩]
        (.error (.other message)) before
  | replaced {check reply : Reply} {held session : UInt32}
      (holds : before.sessionId = some held)
      (missing : check.acknowledgement = some false)
      (identified : reply.identifier = some session) :
      AcquireOutcome before
        [⟨.sessionExists held, check⟩, ⟨.sessionCreate, reply⟩]
        (.ok (Text.showU32 session)) (before.dropSession.holdSession session)
  | lost {check reply : Reply} {held : UInt32} (message : String)
      (holds : before.sessionId = some held)
      (missing : check.acknowledgement = some false)
      (unidentified : reply.identifier = none) :
      AcquireOutcome before
        [⟨.sessionExists held, check⟩, ⟨.sessionCreate, reply⟩]
        (.error (.other message)) before.dropSession

theorem executes_acquireNew {result : Except QrmiError Text}
    (executes : acquireNew.Executes before trace result after) :
    ∃ reply, trace = [⟨.sessionCreate, reply⟩] ∧
      ((∃ session, reply.identifier = some session ∧
          result = .ok (Text.showU32 session) ∧
          after = before.holdSession session) ∨
        ∃ message, reply.identifier = none ∧
          result = .error (.other message) ∧ after = before) := by
  unfold acquireNew at executes
  rcases Method.executes_bind_iff.mp executes with ⟨_, -, failed⟩ |
    ⟨_, rest, created, _, rfl, creates, decided⟩
  · obtain ⟨_, -, impossible, -⟩ := executes_taskCall_iff.mp failed
    cases impossible
  obtain ⟨_, asked, equal, rfl⟩ := executes_taskCall_iff.mp creates
  cases equal
  obtain ⟨reply, rfl, meaning⟩ := runs_newAt asked
  refine ⟨reply, ?_⟩
  cases created with
  | error error =>
      obtain ⟨rfl, rfl, rfl⟩ := Method.executes_throw_iff.mp decided
      have unidentified : reply.identifier = none := by
        cases identified : reply.identifier with
        | none => rfl
        | some session => simpa using (meaning ⟨session⟩).mpr identified
      exact ⟨rfl, .inr ⟨_, unidentified, rfl, rfl⟩⟩
  | ok session =>
      rcases Method.executes_bind_iff.mp decided with ⟨_, -, failed⟩ |
        ⟨_, _, _, _, rfl, held, returned⟩
      · simp at failed
      obtain ⟨rfl, -, rfl⟩ := Method.executes_modify_iff.mp held
      obtain ⟨rfl, rfl, rfl⟩ := Method.executes_pure_iff.mp returned
      exact ⟨rfl, .inl ⟨session.id, (meaning session).mp rfl, rfl, rfl⟩⟩

theorem executes_acquire {result : Except QrmiError Text}
    (executes : acquire.Executes before trace result after) :
    AcquireOutcome before trace result after := by
  unfold acquire at executes
  rw [Method.executes_self_bind_iff] at executes
  cases holds : before.sessionId with
  | none =>
      rw [holds] at executes
      obtain ⟨reply, rfl, ⟨session, identified, rfl, rfl⟩ |
        ⟨message, unidentified, rfl, rfl⟩⟩ := executes_acquireNew executes
      · exact .acquired holds identified
      · exact .refused message holds unidentified
  | some held =>
      rw [holds] at executes
      rcases Method.executes_bind_iff.mp executes with ⟨_, -, failed⟩ |
        ⟨_, rest, response, _, rfl, checks, decided⟩
      · obtain ⟨_, -, impossible, -⟩ := executes_taskCall_iff.mp failed
        cases impossible
      obtain ⟨_, asked, equal, rfl⟩ := executes_taskCall_iff.mp checks
      cases equal
      obtain ⟨check, rfl, meaning⟩ := asks_acknowledge asked
      cases response with
      | error error =>
          obtain ⟨rfl, rfl, rfl⟩ := Method.executes_throw_iff.mp decided
          have unanswered : check.acknowledgement = none := by
            cases answered : check.acknowledgement with
            | none => rfl
            | some value => simpa using (meaning value).mpr answered
          exact .unchecked _ holds unanswered
      | ok present =>
          have answered := (meaning present).mp rfl
          cases present with
          | true =>
              obtain ⟨rfl, rfl, rfl⟩ := Method.executes_pure_iff.mp decided
              exact .kept holds answered
          | false =>
              rcases Method.executes_bind_iff.mp decided with ⟨_, -, failed⟩ |
                ⟨_, _, _, _, rfl, dropped, renewed⟩
              · simp at failed
              obtain ⟨rfl, -, rfl⟩ := Method.executes_modify_iff.mp dropped
              obtain ⟨reply, rfl, ⟨session, identified, rfl, rfl⟩ |
                ⟨message, unidentified, rfl, rfl⟩⟩ :=
                executes_acquireNew renewed
              · exact .replaced holds answered identified
              · exact .lost message holds answered unidentified

/-- The outcomes of `release`. -/
inductive ReleaseOutcome (before : MaestroLocal) (id : Text) :
    List Exchange → Except QrmiError Unit → MaestroLocal → Prop
  | invalid {error : QrmiError} (unparsed : Text.parseU32 id = none) :
      ReleaseOutcome before id [] (.error error) before
  | released {session : UInt32} {reply : Reply}
      (parsed : Text.parseU32 id = some session)
      (deleted : reply.acknowledgement = some true) :
      ReleaseOutcome before id [⟨.sessionDelete session, reply⟩] (.ok ())
        (before.releaseSession session)
  | failed {session : UInt32} {reply : Reply} (message : String)
      (parsed : Text.parseU32 id = some session)
      (undeleted : reply.acknowledgement ≠ some true) :
      ReleaseOutcome before id [⟨.sessionDelete session, reply⟩]
        (.error (.other message)) before

theorem executes_release {id : Text} {result : Except QrmiError Unit}
    (executes : (release id).Executes before trace result after) :
    ReleaseOutcome before id trace result after := by
  unfold release at executes
  cases parsed : Text.parseU32 id with
  | none =>
      rw [parsed] at executes
      obtain ⟨rfl, rfl, rfl⟩ := Method.executes_throw_iff.mp executes
      exact .invalid parsed
  | some session =>
      rw [parsed] at executes
      rcases Method.executes_bind_iff.mp executes with ⟨_, -, failed⟩ |
        ⟨_, rest, response, _, rfl, deletes, decided⟩
      · obtain ⟨_, -, impossible, -⟩ := executes_taskCall_iff.mp failed
        cases impossible
      obtain ⟨_, asked, equal, rfl⟩ := executes_taskCall_iff.mp deletes
      cases equal
      obtain ⟨reply, rfl, meaning⟩ := asks_acknowledge asked
      have deletedIff := meaning true
      split at decided
      · obtain ⟨rfl, rfl, rfl⟩ := Method.executes_modify_iff.mp decided
        exact .released parsed (deletedIff.mp rfl)
      · obtain ⟨rfl, rfl, rfl⟩ := Method.executes_throw_iff.mp decided
        exact .failed _ parsed (by simpa using deletedIff)
      · obtain ⟨rfl, rfl, rfl⟩ := Method.executes_throw_iff.mp decided
        exact .failed _ parsed (by simpa using deletedIff)

/-- The effect of one returned operation on the held session and on the
remembered statuses. -/
inductive Effect (codecs : Codecs) (before : MaestroLocal) :
    Call → MaestroLocal → Prop
  | unchanged {call : Call} (client : RequestClient)
      (creationless : ∀ event ∈ call.trace, Creationless event) :
      Effect codecs before call (before.withClient client)
  | remembered {call : Call} {task : Task} {status : TaskStatus}
      (client : RequestClient)
      (holds : before.sessionId = some task.sessionId)
      (unsettled : ∀ cached, before.terminalTasks.get task.key = some cached →
        cached.isTerminal = false)
      (terminal : status.isTerminal = true)
      (witnessed : task.Witnessed codecs status call.trace)
      (creationless : ∀ event ∈ call.trace, Creationless event) :
      Effect codecs before call
        ((before.withClient client).remember task.key status)
  | started {payload : Payload} {trace : List Exchange}
      {result : Except QrmiError Text} {after : MaestroLocal}
      (outcome : StartOutcome codecs before trace result after) :
      Effect codecs before ⟨.taskStart payload, trace, result⟩ after
  | released {id : Text} {session : UInt32} {trace : List Exchange}
      (parsed : Text.parseU32 id = some session)
      (creationless : ∀ event ∈ trace, Creationless event) :
      Effect codecs before ⟨.release id, trace, .ok ()⟩
        (before.releaseSession session)
  | acquired {session : UInt32} {trace : List Exchange}
      {result : Except QrmiError Text} (free : before.sessionId = none)
      (creationless : ∀ event ∈ trace, Creationless event) :
      Effect codecs before ⟨.acquire, trace, result⟩
        (before.holdSession session)
  | dropped {held : UInt32} {next : Option UInt32} {check : Reply}
      {trace : List Exchange} {result : Except QrmiError Text}
      (holds : before.sessionId = some held)
      (asked : (⟨.sessionExists held, check⟩ : Exchange) ∈ trace)
      (missing : check.acknowledgement = some false)
      (creationless : ∀ event ∈ trace, Creationless event) :
      Effect codecs before ⟨.acquire, trace, result⟩
        { before.dropSession with sessionId := next }

/-- A status query of an instance changes at most the entry of its task, from
evidence in its own exchanges. -/
theorem StatusOutcome.effect {call : Call} {client : RequestClient}
    {taskId : Text} {observed : Except QrmiError TaskStatus}
    (outcome : StatusOutcome codecs (before.withClient client) taskId trace
      observed after)
    (contained : trace.Sublist call.trace)
    (creationless : ∀ event ∈ call.trace, Creationless event) :
    Effect codecs before call after := by
  cases outcome with
  | rejected invalid => exact .unchanged client creationless
  | remembered handle cached => exact .unchanged client creationless
  | observed other handle absent observation =>
      rw [withClient_withClient]
      cases observed with
      | error error => exact .unchanged other creationless
      | ok status =>
          by_cases terminal : status.isTerminal = true
          · rw [noteStatus, if_pos terminal]
            have witnessed := observation.witnessed terminal
            refine .remembered other (task_eq_ok_iff.mp handle).2 ?_ terminal
              (witnessed.mono contained) creationless
            intro cached held
            rw [withClient_terminalTasks, held] at absent
            cases absent
          · rw [noteStatus, if_neg terminal]
            exact .unchanged other creationless

/-- A status query that returns an active status remembers nothing. -/
theorem StatusOutcome.of_active {taskId : Text} {status : TaskStatus}
    {task : Task}
    (outcome : StatusOutcome codecs before taskId trace (.ok status) after)
    (handle : before.task taskId = .ok task)
    (active : status.isTerminal = false) :
    (∃ client, after = before.withClient client) ∧
      ∀ cached, before.terminalTasks.get task.key = some cached →
        cached.isTerminal = false := by
  cases outcome with
  | remembered sameHandle cached =>
      cases handle.symm.trans sameHandle
      refine ⟨⟨_, (withClient_self before).symm⟩, fun other held => ?_⟩
      cases cached.symm.trans held
      exact active
  | observed client sameHandle absent observation =>
      cases handle.symm.trans sameHandle
      refine ⟨⟨client, ?_⟩, fun other held => ?_⟩
      · rw [noteStatus, if_neg (by simp [active])]
      · rw [absent] at held
        cases held

theorem witnessed_of_acknowledged (codecs : Codecs) {task : Task}
    {earlier : List Exchange} {event : Exchange}
    (answered : task.Answered .cancel true event) :
    task.Witnessed codecs .cancelled (earlier ++ [event]) :=
  ⟨_, List.sublist_append_right _ _, .cancelAcknowledged answered⟩

theorem StopOutcome.effect {call : Call} {taskId : Text}
    {result : Except QrmiError Unit}
    (outcome : StopOutcome codecs before taskId trace result after)
    (contained : trace.Sublist call.trace)
    (creationless : ∀ event ∈ call.trace, Creationless event) :
    Effect codecs before call after := by
  cases outcome with
  | rejected invalid => exact .unchanged before.requestClient creationless
  | unobserved observed =>
      have outcome := executes_taskStatus observed
      rw [← withClient_self before] at outcome
      exact outcome.effect contained creationless
  | finished handle terminal observed =>
      have outcome := executes_taskStatus observed
      rw [← withClient_self before] at outcome
      exact outcome.effect contained creationless
  | acknowledged handle active observed answered =>
      obtain ⟨⟨client, rfl⟩, unsettled⟩ :=
        (executes_taskStatus observed).of_active handle active
      exact .remembered client (task_eq_ok_iff.mp handle).2 unsettled rfl
        ((witnessed_of_acknowledged codecs answered).mono contained)
        creationless
  | unacknowledged handle active observed asked unanswered followed reports =>
      obtain ⟨⟨client, rfl⟩, -⟩ :=
        (executes_taskStatus observed).of_active handle active
      refine (executes_taskStatus followed).effect
        (List.Sublist.trans ?_ contained) creationless
      exact (List.sublist_cons_self _ _).trans (List.sublist_append_right _ _)

theorem AcquireOutcome.effect {result : Except QrmiError Text}
    (outcome : AcquireOutcome before trace result after) :
    Effect codecs before ⟨.acquire, trace, result⟩ after := by
  have creationless : ∀ event ∈ trace, Creationless event := by
    cases outcome <;> simp [Creationless, Command.createsTask]
  cases outcome with
  | acquired free identified => exact .acquired free creationless
  | refused message free unidentified => exact .unchanged _ creationless
  | kept holds present => exact .unchanged _ creationless
  | unchecked message holds unanswered => exact .unchanged _ creationless
  | replaced holds missing identified =>
      exact .dropped holds (List.mem_cons_self ..) missing creationless
  | lost message holds missing unidentified =>
      exact .dropped holds (List.mem_cons_self ..) missing creationless

theorem ReleaseOutcome.effect {id : Text} {result : Except QrmiError Unit}
    (outcome : ReleaseOutcome before id trace result after) :
    Effect codecs before ⟨.release id, trace, result⟩ after := by
  have creationless : ∀ event ∈ trace, Creationless event := by
    cases outcome <;> simp [Creationless, Command.createsTask]
  cases outcome with
  | invalid unparsed => exact .unchanged _ creationless
  | released parsed deleted => exact .released parsed creationless
  | failed message parsed undeleted => exact .unchanged _ creationless

/-- A method that only runs one native request leaves session and statuses
alone. -/
theorem exists_client_of_nativeApi {operation : ClientMethod α}
    {result : Except QrmiError α}
    (executes : (nativeApi operation).Executes before trace result after) :
    ∃ client, after = before.withClient client := by
  obtain ⟨_, client, -, -, rfl⟩ := executes_nativeApi_iff.mp executes
  exact ⟨client, rfl⟩

theorem exists_client_of_taskLogs {taskId : Text}
    {result : Except QrmiError Text}
    (executes : (taskLogs codecs taskId).Executes before trace result after) :
    ∃ client, after = before.withClient client := by
  unfold taskLogs at executes
  rw [Method.executes_self_bind_iff] at executes
  cases handle : before.task taskId with
  | error error =>
      rw [handle, Method.executes_ofExcept_bind_error_iff] at executes
      obtain ⟨-, -, rfl⟩ := executes
      exact ⟨_, (withClient_self _).symm⟩
  | ok task =>
      rw [handle, Method.executes_ofExcept_bind_ok_iff] at executes
      exact exists_client_of_nativeApi executes

/-- Every operation has one of the listed effects. -/
theorem Step.effect {call : Call} (step : Step codecs before call after) :
    Effect codecs before call after := by
  obtain ⟨operation, trace, result⟩ := call
  change (perform codecs operation).Executes before trace result after at step
  cases operation with
  | status =>
      have harmless := emits_status.event_of_executes step
      rcases Method.executes_bind_iff.mp step with ⟨_, -, requested⟩ |
        ⟨_, _, _, _, -, requested, returned⟩
      · obtain ⟨client, rfl⟩ := exists_client_of_nativeApi requested
        exact .unchanged client harmless
      · obtain ⟨client, rfl⟩ := exists_client_of_nativeApi requested
        obtain ⟨-, -, rfl⟩ := Method.executes_pure_iff.mp returned
        exact .unchanged client harmless
  | isAccessible =>
      have harmless := emits_isAccessible.event_of_executes step
      rcases Method.executes_bind_iff.mp step with ⟨_, -, failed⟩ |
        ⟨_, _, _, _, -, pinged, decided⟩
      · obtain ⟨_, -, impossible, -⟩ := executes_taskCall_iff.mp failed
        cases impossible
      obtain ⟨_, -, -, rfl⟩ := executes_taskCall_iff.mp pinged
      split at decided
      · obtain ⟨-, -, rfl⟩ := Method.executes_pure_iff.mp decided
        exact .unchanged _ harmless
      · obtain ⟨-, -, rfl⟩ := Method.executes_throw_iff.mp decided
        exact .unchanged _ harmless
      · obtain ⟨-, -, rfl⟩ := Method.executes_throw_iff.mp decided
        exact .unchanged _ harmless
  | acquire => exact (executes_acquire step).effect
  | release id => exact (executes_release step).effect
  | taskStart payload => exact .started (executes_taskStart step)
  | taskStop taskId =>
      exact (executes_taskStop step).effect (List.Sublist.refl _)
        ((emits_taskStop taskId).event_of_executes step)
  | taskStatus taskId =>
      have outcome := executes_taskStatus step
      rw [← withClient_self before] at outcome
      exact outcome.effect (List.Sublist.refl _)
        ((emits_taskStatus taskId).event_of_executes step)
  | taskResult taskId =>
      obtain ⟨earlier, later, observed, rfl, outcome⟩ :=
        executes_taskResult step
      rw [← withClient_self before] at outcome
      exact outcome.effect (List.sublist_append_left _ _)
        ((emits_taskResult taskId).event_of_executes step)
  | taskLogs taskId =>
      obtain ⟨client, rfl⟩ := exists_client_of_taskLogs step
      exact .unchanged client ((emits_taskLogs taskId).event_of_executes step)
  | target =>
      obtain ⟨client, rfl⟩ := exists_client_of_nativeApi step
      exact .unchanged client (emits_target.event_of_executes step)

/-- Every remembered status belongs to the held session. -/
def HoldsKeys (resource : MaestroLocal) : Prop :=
  ∀ key status, resource.terminalTasks.get key = some status →
    resource.sessionId = some key.1

theorem holdsKeys_of_empty {resource : MaestroLocal}
    (nothing : resource.terminalTasks = .empty) : HoldsKeys resource := by
  intro key status cached
  rw [nothing, KeyedStore.get_empty] at cached
  cases cached

theorem HoldsKeys.remember {resource : MaestroLocal} {task : Task}
    (holds : HoldsKeys resource)
    (held : resource.sessionId = some task.sessionId) (status : TaskStatus) :
    HoldsKeys (resource.remember task.key status) := by
  intro key other cached
  change (resource.terminalTasks.insert task.key status).get key = _ at cached
  rw [KeyedStore.get_insert] at cached
  by_cases same : key = task.key
  · rw [same]
    exact held
  · rw [if_neg same] at cached
    exact holds key other cached

theorem HoldsKeys.forget {resource : MaestroLocal}
    (holds : HoldsKeys resource) (key : UInt32 × UInt32) :
    HoldsKeys (resource.forget key) := by
  intro other status cached
  change (resource.terminalTasks.remove key).get other = _ at cached
  rw [KeyedStore.get_remove] at cached
  by_cases same : other = key
  · rw [if_pos same] at cached
    cases cached
  · rw [if_neg same] at cached
    exact holds other status cached

theorem HoldsKeys.releaseSession {resource : MaestroLocal}
    (holds : HoldsKeys resource) (session : UInt32) :
    HoldsKeys (resource.releaseSession session) := by
  intro key status cached
  change (resource.terminalTasks.retain _).get key = _ at cached
  rw [KeyedStore.get_retain] at cached
  by_cases foreign : key.1 = session
  · simp [foreign] at cached
  · have held := holds key status (by simpa [foreign] using cached)
    have notReleased : resource.sessionId ≠ some session := by
      rw [held]
      simpa using foreign
    change (if resource.sessionId = some session then none
      else resource.sessionId) = some key.1
    rw [if_neg notReleased, held]

/-- No operation loses the connection between the held session and the
remembered statuses. -/
theorem Effect.holdsKeys {call : Call} (effect : Effect codecs before call after)
    (holds : HoldsKeys before) : HoldsKeys after := by
  cases effect with
  | unchanged client creationless => exact holds
  | remembered client held unsettled terminal witnessed creationless =>
      have same : HoldsKeys (before.withClient client) := holds
      exact same.remember held _
  | started outcome =>
      cases outcome with
      | unsent error client negotiates => exact holds
      | unaccepted error client held negotiates read => exact holds
      | submitted client held negotiates read =>
          have same : HoldsKeys (before.withClient client) := holds
          exact same.forget _
      | executed held outcome => exact holds.forget _
      | failed held outcome => exact holds
  | released parsed creationless => exact holds.releaseSession _
  | acquired free creationless =>
      intro key status cached
      have held := holds key status cached
      rw [free] at held
      cases held
  | dropped held asked missing creationless => exact holdsKeys_of_empty rfl

/-- A failing release changes nothing; a successful release of another session
keeps the held one with its entries; a failing acquisition changes nothing
unless the held session was reported missing and no replacement was created. -/
structure KeepsTenancy (codecs : Codecs) (resource : MaestroLocal) : Prop where
  failedRelease : ∀ {id trace error after},
    Step codecs resource ⟨.release id, trace, .error error⟩ after →
      after = resource
  foreignRelease : ∀ {id trace session after},
    Step codecs resource ⟨.release id, trace, .ok ()⟩ after →
    Text.parseU32 id = some session → resource.sessionId ≠ some session →
      after.sessionId = resource.sessionId ∧
        ∀ key, resource.sessionId = some key.1 →
          after.terminalTasks.get key = resource.terminalTasks.get key
  failedAcquire : ∀ {trace error after},
    Step codecs resource ⟨.acquire, trace, .error error⟩ after →
      after = resource ∨
        ∃ held check reply, resource.sessionId = some held ∧
          trace = [⟨.sessionExists held, check⟩, ⟨.sessionCreate, reply⟩] ∧
          check.acknowledgement = some false ∧ reply.identifier = none ∧
          after.sessionId = none ∧ after.terminalTasks = .empty

theorem keepsTenancy (codecs : Codecs) (resource : MaestroLocal) :
    KeepsTenancy codecs resource := by
  constructor
  · intro id trace error after step
    cases executes_release step with
    | invalid unparsed => rfl
    | failed message parsed undeleted => rfl
  · intro id trace session after step parsed foreign
    cases executes_release step with
    | released sameParsed deleted =>
        cases parsed.symm.trans sameParsed
        refine ⟨if_neg foreign, fun key held => ?_⟩
        change (resource.terminalTasks.retain _).get key = _
        rw [KeyedStore.get_retain, if_pos]
        have distinct : key.1 ≠ session := by
          rintro rfl
          exact foreign held
        simpa using distinct
  · intro trace error after step
    cases executes_acquire step with
    | refused message free unidentified => exact .inl rfl
    | unchecked message holds unanswered => exact .inl rfl
    | lost message holds missing unidentified =>
        exact .inr ⟨_, _, _, holds, rfl, missing, unidentified, rfl, rfl⟩

/-- In every state reached from a constructed instance the remembered statuses
belong to the held session, and releases and acquisitions keep the tenancy as
described. -/
theorem tenancy_of_constructed {start resource : MaestroLocal}
    {calls : List Call} (constructed : Constructed start)
    (history : History (Step codecs) start calls resource) :
    HoldsKeys resource ∧ KeepsTenancy codecs resource := by
  have initially : HoldsKeys start :=
    holdsKeys_of_empty (terminalTasks_of_constructed constructed)
  have invariant := history.stateInvariant HoldsKeys initially
    fun holds step => step.effect.holdsKeys holds
  exact ⟨invariant, keepsTenancy codecs resource⟩

end Effects

namespace Observed

/-- An instance that was handed a session by its environment. -/
def start : MaestroLocal :=
  fresh "maestro".toList (some 7) "/run/maestro.sock"

def task : Task :=
  ⟨1, 7⟩

def trace : List Exchange :=
  [⟨task.command .exists, .ok "OK YES".toList⟩,
    ⟨task.command .failed, .ok "OK YES".toList⟩]

def call : Call :=
  ⟨.taskStatus "1".toList, trace, .ok .failed⟩

def codecs : Codecs where
  json := .ofTable []
  serde := .ofTable [.object []]

theorem constructed : Constructed start :=
  .inl ⟨"maestro".toList, fun name =>
    if name = "maestro_QRMI_JOB_ACQUISITION_TOKEN".toList then
      .value "7".toList
    else .notPresent, rfl⟩

theorem step : Step codecs start call (start.remember task.key .failed) :=
  .ask (.ask (.done _))

end Observed

theorem tenancy_of_constructed_observed :
    HoldsKeys (Observed.start.remember Observed.task.key .failed) ∧
      KeepsTenancy Observed.codecs
        (Observed.start.remember Observed.task.key .failed) :=
  tenancy_of_constructed Observed.constructed (.cons Observed.step (.nil _))

end MaestroLocal

end Maestro
