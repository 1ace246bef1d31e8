import Qrmi.MaestroTenancy

/-!
# Remembered terminal statuses

A terminal status is remembered with evidence and then answered from memory.
This file follows such an entry through histories of operations: where it comes
from, when it is forgotten, and what a status query and a cancellation return
in between.  Task numbers are reused by the server, so an entry must not
survive the creation of a new task of the same name; a failed legacy submission
is the one operation that leaves it behind.
-/

namespace Maestro

open Interaction

/-- An exchange from whose reply the instance learned that a task was
created. -/
def Task.CreatedBy (codecs : Codecs) (task : Task) (event : Exchange) : Prop :=
  (event.1 = .taskCreate task.sessionId ∧
      event.2.identifier = some task.id) ∨
    ∃ document, event.1 = .api (submitDocument task.sessionId document) ∧
      RequestClient.readSubmission codecs.json event.2 = .ok task.id

theorem Task.CreatedBy.createsTask {codecs : Codecs} {task : Task}
    {event : Exchange} (created : task.CreatedBy codecs event) :
    event.1.createsTask = true := by
  rcases created with ⟨asked, -⟩ | ⟨document, asked, -⟩
  · rw [asked, createsTask_taskCreate]
  · rw [asked, createsTask_submit]

theorem Creationless.not_createdBy {codecs : Codecs} {event : Exchange}
    (creationless : Creationless event) (task : Task) :
    ¬ task.CreatedBy codecs event := by
  intro created
  have creates := created.createsTask
  rw [creationless] at creates
  cases creates

theorem submitDocument_session {first second : UInt32} {one other : Json}
    (equal : submitDocument first one = submitDocument second other) :
    first = second := by
  simp only [submitDocument, requestDocument, Json.unsignedMember] at equal
  simp at equal
  exact UInt32.toNat_inj.mp equal.1

namespace MaestroLocal

section Entries

variable {codecs : Codecs} {before after : MaestroLocal} {call : Call}
variable {task : Task} {status : TaskStatus}

theorem get_remember (resource : MaestroLocal) (key other : UInt32 × UInt32)
    (status : TaskStatus) :
    (resource.remember key status).terminalTasks.get other =
      if other = key then some status
      else resource.terminalTasks.get other :=
  KeyedStore.get_insert ..

theorem get_forget (resource : MaestroLocal) (key other : UInt32 × UInt32) :
    (resource.forget key).terminalTasks.get other =
      if other = key then none else resource.terminalTasks.get other :=
  KeyedStore.get_remove ..

theorem get_releaseSession (resource : MaestroLocal) (session : UInt32)
    (key : UInt32 × UInt32) :
    (resource.releaseSession session).terminalTasks.get key =
      if key.1 = session then none else resource.terminalTasks.get key := by
  change (resource.terminalTasks.retain _).get key = _
  rw [KeyedStore.get_retain]
  by_cases own : key.1 = session <;> simp [own]

theorem key_injective {first second : Task} (equal : first.key = second.key) :
    first = second := by
  obtain ⟨id, session⟩ := first
  obtain ⟨otherId, otherSession⟩ := second
  obtain ⟨rfl, rfl⟩ := Prod.mk.inj equal
  rfl

/-- An entry of the state after an operation was there before, or the operation
saw evidence for it. -/
theorem Effect.origin (effect : Effect codecs before call after)
    (cached : after.terminalTasks.get task.key = some status) :
    before.terminalTasks.get task.key = some status ∨
      (status.isTerminal = true ∧ task.Witnessed codecs status call.trace ∧
        ∀ event ∈ call.trace, Creationless event) := by
  cases effect with
  | unchanged client creationless => exact .inl cached
  | remembered client holds unsettled terminal witnessed creationless =>
      rw [get_remember] at cached
      split at cached
      · rename_i same
        cases key_injective same
        cases cached
        exact .inr ⟨terminal, witnessed, creationless⟩
      · exact .inl cached
  | started outcome =>
      cases outcome with
      | unsent error client negotiates => exact .inl cached
      | unaccepted error client held negotiates read => exact .inl cached
      | submitted client held negotiates read =>
          rw [get_forget] at cached
          split at cached
          · cases cached
          · exact .inl cached
      | executed held outcome =>
          rw [get_forget] at cached
          split at cached
          · cases cached
          · exact .inl cached
      | failed held outcome => exact .inl cached
  | released parsed creationless =>
      rw [get_releaseSession] at cached
      split at cached
      · cases cached
      · exact .inl cached
  | acquired free creationless => exact .inl cached
  | dropped holds asked missing creationless => cases cached

/-- The events after which a remembered status is void: the task was started
again, its session was released, or its session was found gone. -/
inductive Ends (task : Task) : Call → Prop
  | restarted {payload : Payload} {trace : List Exchange} {text : Text}
      (named : Text.parseU32 text = some task.id) :
      Ends task ⟨.taskStart payload, trace, .ok text⟩
  | released {id : Text} {trace : List Exchange}
      (named : Text.parseU32 id = some task.sessionId) :
      Ends task ⟨.release id, trace, .ok ()⟩
  | lost {trace : List Exchange} {result : Except QrmiError Text}
      {check : Reply}
      (asked : (⟨.sessionExists task.sessionId, check⟩ : Exchange) ∈ trace)
      (missing : check.acknowledgement = some false) :
      Ends task ⟨.acquire, trace, result⟩

/-- A terminal status of a task of the held session is remembered. -/
structure Settled (task : Task) (status : TaskStatus)
    (resource : MaestroLocal) : Prop where
  terminal : status.isTerminal = true
  held : resource.sessionId = some task.sessionId
  cached : resource.terminalTasks.get task.key = some status

/-- A remembered terminal status survives every operation that does not end
it. -/
theorem Effect.settled (effect : Effect codecs before call after)
    (settled : Settled task status before) (lasting : ¬ Ends task call) :
    Settled task status after := by
  obtain ⟨terminal, held, cached⟩ := settled
  have kept {key : UInt32 × UInt32} (other : task.key ≠ key) :
      (before.forget key).terminalTasks.get task.key = some status := by
    rw [get_forget, if_neg other, cached]
  cases effect with
  | unchanged client creationless => exact ⟨terminal, held, cached⟩
  | remembered client holds unsettled newTerminal witnessed creationless =>
      refine ⟨terminal, held, ?_⟩
      rw [get_remember]
      split
      · rename_i same
        have active := unsettled status (by rw [← same, cached])
        rw [terminal] at active
        cases active
      · exact cached
  | started outcome =>
      cases outcome with
      | unsent error client negotiates => exact ⟨terminal, held, cached⟩
      | unaccepted error client other negotiates read =>
          exact ⟨terminal, held, cached⟩
      | submitted client sameHeld negotiates read =>
          refine ⟨terminal, held, kept fun same => lasting ?_⟩
          apply Ends.restarted
          rw [Text.parseU32_showU32, (Prod.mk.inj same).2]
      | executed sameHeld outcome =>
          refine ⟨terminal, held, kept fun same => lasting ?_⟩
          apply Ends.restarted
          rw [Text.parseU32_showU32, key_injective same]
      | failed other outcome => exact ⟨terminal, held, cached⟩
  | released parsed creationless =>
      have foreign : task.key.1 ≠ _ := fun same =>
        lasting (.released (parsed.trans (congrArg some same.symm)))
      refine ⟨terminal, ?_, ?_⟩
      · change (if before.sessionId = some _ then none
          else before.sessionId) = some task.sessionId
        rw [if_neg (by rw [held]; simpa [Task.key] using foreign), held]
      · rw [get_releaseSession, if_neg foreign, cached]
  | acquired free creationless =>
      rw [free] at held
      cases held
  | dropped holds asked missing creationless =>
      rw [held] at holds
      cases holds
      exact (lasting (.lost asked missing)).elim

/-- What a status query and a cancellation of a settled task do: they answer
from memory. -/
theorem Settled.answers {taskId : Text} (settled : Settled task status before)
    (named : Text.parseU32 taskId = some task.id) :
    (∀ {trace result}, Step codecs before ⟨.taskStatus taskId, trace, result⟩
        after → trace = [] ∧ result = .ok status) ∧
      ∀ {trace result}, Step codecs before ⟨.taskStop taskId, trace, result⟩
        after → trace = [] ∧ result = .ok () := by
  have handle : before.task taskId = .ok task :=
    task_eq_ok_iff.mpr ⟨named, settled.held⟩
  have query {trace : List Exchange} {result : Except QrmiError TaskStatus}
      {final : MaestroLocal}
      (executes : (taskStatus codecs taskId).Executes before trace result final) :
      trace = [] ∧ result = .ok status := by
    cases executes_taskStatus executes with
    | rejected invalid =>
        rw [handle] at invalid
        cases invalid
    | remembered sameHandle cached =>
        cases handle.symm.trans sameHandle
        rw [settled.cached] at cached
        cases cached
        exact ⟨rfl, rfl⟩
    | observed client sameHandle absent observation =>
        cases handle.symm.trans sameHandle
        rw [settled.cached] at absent
        cases absent
  constructor
  · intro trace result step
    exact query step
  · intro trace result step
    cases executes_taskStop step with
    | rejected invalid =>
        rw [handle] at invalid
        cases invalid
    | unobserved observed => cases (query observed).2
    | finished sameHandle terminal observed => exact ⟨(query observed).1, rfl⟩
    | acknowledged sameHandle active observed answered =>
        cases (query observed).2
        rw [settled.terminal] at active
        cases active
    | unacknowledged sameHandle active observed asked unanswered followed reports =>
        cases (query observed).2
        rw [settled.terminal] at active
        cases active

/-- An operation that ends a status leaves no entry of its task. -/
theorem Step.forgets (step : Step codecs before call after)
    (holds : HoldsKeys after) (ends : Ends task call) :
    after.terminalTasks.get task.key = none := by
  have elsewhere {session : UInt32} (held : after.sessionId = some session)
      (foreign : task.sessionId ≠ session) :
      after.terminalTasks.get task.key = none := by
    cases cached : after.terminalTasks.get task.key with
    | none => rfl
    | some status =>
        have own := holds task.key status cached
        rw [held] at own
        exact (foreign (Option.some.inj own).symm).elim
  have forgotten {resource : MaestroLocal} {session id : UInt32}
      (afterEq : after = resource.forget (session, id))
      (held : resource.sessionId = some session) (named : id = task.id) :
      after.terminalTasks.get task.key = none := by
    subst named
    by_cases own : task.sessionId = session
    · rw [afterEq, get_forget, if_pos]
      rw [← own]
      rfl
    · exact elsewhere (by rw [afterEq]; exact held) own
  cases ends with
  | restarted named =>
      cases executes_taskStart step with
      | submitted client held negotiates read =>
          rw [Text.parseU32_showU32] at named
          exact forgotten rfl held (Option.some.inj named)
      | executed held outcome =>
          rw [Text.parseU32_showU32] at named
          cases outcome with
          | executed identified configures confirmed =>
              exact forgotten rfl held (Option.some.inj named)
  | released named =>
      cases executes_release step with
      | released parsed deleted =>
          rw [get_releaseSession, if_pos]
          exact Option.some.inj (named.symm.trans parsed)
  | lost asked missing =>
      cases executes_acquire step with
      | acquired free identified => simp at asked
      | refused message free unidentified => simp at asked
      | kept held present =>
          simp only [List.mem_singleton, Sigma.mk.injEq] at asked
          obtain ⟨-, rfl⟩ := asked
          rw [missing] at present
          cases present
      | unchecked message held unanswered =>
          simp only [List.mem_singleton, Sigma.mk.injEq] at asked
          obtain ⟨-, rfl⟩ := asked
          rw [missing] at unanswered
          cases unanswered
      | replaced held unheld identified => rfl
      | lost message held unheld unidentified => rfl

/-- The call of a history that first saw evidence for a status that is still
valid. -/
def Justified (codecs : Codecs) (task : Task) (status : TaskStatus)
    (calls : List Call) : Prop :=
  ∃ earlier call later, calls = earlier ++ call :: later ∧
    task.Witnessed codecs status call.trace ∧
    ∀ other ∈ later, ¬ Ends task other

/-- Every entry is terminal, belongs to the held session and is justified by the
past calls. -/
structure JustifiedEntries (codecs : Codecs) (calls : List Call)
    (resource : MaestroLocal) : Prop where
  holdsKeys : HoldsKeys resource
  justified : ∀ task status,
    resource.terminalTasks.get task.key = some status →
      status.isTerminal = true ∧ Justified codecs task status calls

theorem JustifiedEntries.step {calls : List Call}
    (justified : JustifiedEntries codecs calls before)
    (step : Step codecs before call after) :
    JustifiedEntries codecs (calls ++ [call]) after := by
  have holds := step.effect.holdsKeys justified.holdsKeys
  refine ⟨holds, fun task status cached => ?_⟩
  rcases step.effect.origin cached with old | ⟨terminal, witnessed, -⟩
  · obtain ⟨terminal, earlier, seen, later, rfl, witnessed, lasting⟩ :=
      justified.justified task status old
    refine ⟨terminal, earlier, seen, later ++ [call], by simp, witnessed, ?_⟩
    intro other member ends
    rcases List.mem_append.mp member with inLater | last
    · exact lasting other inLater ends
    · rw [List.mem_singleton.mp last] at ends
      rw [step.forgets holds ends] at cached
      cases cached
  · exact ⟨terminal, calls, call, [], rfl, witnessed, by simp⟩

theorem justifiedEntries_of_constructed {start resource : MaestroLocal}
    {calls : List Call} (constructed : Constructed start)
    (history : History (Step codecs) start calls resource) :
    JustifiedEntries codecs calls resource := by
  have nothing := terminalTasks_of_constructed constructed
  have initially : JustifiedEntries codecs [] start := by
    refine ⟨holdsKeys_of_empty nothing, fun task status cached => ?_⟩
    rw [nothing, KeyedStore.get_empty] at cached
    cases cached
  exact history.invariant (JustifiedEntries codecs) initially
    fun _ justified step => justified.step step

/-- A status query that returns a terminal status leaves it settled, and has
evidence for it whenever it asked the server. -/
theorem StatusOutcome.settled {taskId : Text} {trace : List Exchange}
    (outcome : StatusOutcome codecs before taskId trace (.ok status) after)
    (terminal : status.isTerminal = true) :
    ∃ task, before.task taskId = .ok task ∧ Settled task status after ∧
      (trace ≠ [] → task.Witnessed codecs status trace) := by
  cases outcome with
  | remembered handle cached =>
      have held := (task_eq_ok_iff.mp handle).2
      exact ⟨_, handle, ⟨terminal, held, cached⟩, fun asked => (asked rfl).elim⟩
  | observed client handle absent observation =>
      have held := (task_eq_ok_iff.mp handle).2
      refine ⟨_, handle, ?_, fun _ => observation.witnessed terminal⟩
      rw [noteStatus, if_pos terminal]
      refine ⟨terminal, held, ?_⟩
      rw [get_remember, if_pos rfl]

theorem Settled.history {resource : MaestroLocal} {calls : List Call}
    (settled : Settled task status before)
    (history : History (Step codecs) before calls resource)
    (lasting : ∀ call ∈ calls, ¬ Ends task call) :
    Settled task status resource := by
  induction history with
  | nil => exact settled
  | cons step _ ih =>
      apply ih
      · exact step.effect.settled settled
          (lasting _ (List.mem_cons_self ..))
      · exact fun call member => lasting call (List.mem_cons_of_mem _ member)

/-- What a status query says about a task whose existence the server denied
during that query. -/
theorem missing_of_taskStatus {taskId : Text} {trace : List Exchange}
    {result : Except QrmiError TaskStatus} {event : Exchange}
    (step : Step codecs before ⟨.taskStatus taskId, trace, result⟩ after)
    (handle : before.task taskId = .ok task) (member : event ∈ trace)
    (missing : task.Answered .exists false event) :
    (result = .ok .cancelled ∧ task.Witnessed codecs .cancelled trace) ∨
      result = .error (.taskNotFound (toString task.id)) := by
  cases executes_taskStatus step with
  | rejected invalid => cases member
  | remembered sameHandle cached => cases member
  | observed client sameHandle absent observation =>
      cases handle.symm.trans sameHandle
      exact observation.of_missing member missing

/-- Terminal statuses are justified and stable.  A terminal status that a query
returns is justified by the calls up to and including it; until an ending event
every query of the same number returns it and every cancellation succeeds,
without any exchange.  A task that is merely missing is not found. -/
theorem terminal_status_stable {start reached final : MaestroLocal}
    {past : List Call} {taskId : Text} {trace : List Exchange}
    {result : Except QrmiError TaskStatus} (constructed : Constructed start)
    (history : History (Step codecs) start past reached)
    (queried : Step codecs reached ⟨.taskStatus taskId, trace, result⟩ final) :
    (∀ status, result = .ok status → status.isTerminal = true →
      ∃ task, Text.parseU32 taskId = some task.id ∧
        reached.sessionId = some task.sessionId ∧
        Justified codecs task status
          (past ++ [⟨.taskStatus taskId, trace, result⟩]) ∧
        (trace ≠ [] → task.Witnessed codecs status trace) ∧
        ∀ {later resource after sameId}, History (Step codecs) final later resource →
          (∀ call ∈ later, ¬ Ends task call) →
          Text.parseU32 sameId = Text.parseU32 taskId →
          (∀ {trace result},
            Step codecs resource ⟨.taskStatus sameId, trace, result⟩ after →
              trace = [] ∧ result = .ok status) ∧
          (∀ {trace result},
            Step codecs resource ⟨.taskStop sameId, trace, result⟩ after →
              trace = [] ∧ result = .ok ())) ∧
    ∀ task event, reached.task taskId = .ok task → event ∈ trace →
      task.Answered .exists false event →
      (result = .ok .cancelled ∧ task.Witnessed codecs .cancelled trace) ∨
        result = .error (.taskNotFound (toString task.id)) := by
  refine ⟨fun status returned terminal => ?_, fun task event handle member
    missing => missing_of_taskStatus queried handle member missing⟩
  subst returned
  obtain ⟨task, handle, settled, witnessed⟩ :=
    (executes_taskStatus queried).settled terminal
  obtain ⟨named, held⟩ := task_eq_ok_iff.mp handle
  have entries := justifiedEntries_of_constructed constructed
    (history.snoc queried)
  obtain ⟨-, justified⟩ := entries.justified task status settled.cached
  refine ⟨task, named, held, justified, witnessed, ?_⟩
  intro later resource after sameId continued lasting same
  have stillSettled := settled.history continued lasting
  exact stillSettled.answers (same.trans named)

end Entries

theorem terminal_status_stable_observed :
    Justified Observed.codecs Observed.task .failed [Observed.call] ∧
      Observed.task.Witnessed Observed.codecs .failed Observed.trace := by
  obtain ⟨task, named, held, justified, witnessed, -⟩ :=
    (terminal_status_stable Observed.constructed (.nil _) Observed.step).1
      .failed rfl rfl
  have same : task = Observed.task := by
    obtain ⟨id, session⟩ := task
    have idEq : some 1 = some id := named
    have sessionEq : some 7 = some session := held
    rw [← Option.some.inj idEq, ← Option.some.inj sessionEq]
    rfl
  rw [same] at justified witnessed
  exact ⟨justified, witnessed (by simp [Observed.trace])⟩

section Freshness

variable {codecs : Codecs} {before after : MaestroLocal} {call : Call}
variable {task : Task} {status : TaskStatus}

/-- A legacy submission whose task was created but not completely configured:
its creation, its configuration, and the cancellation that cleans up. -/
structure Abandons (task : Task) (configuration : List Exchange)
    (cancelReply : Reply) (trace : List Exchange) : Prop where
  trace_eq : ∃ reply, reply.identifier = some task.id ∧
    trace = ⟨.taskCreate task.sessionId, reply⟩ :: (configuration ++
      [⟨task.command .cancel, cancelReply⟩])
  configures : ∀ event ∈ configuration, task.Configures event
  unconfirmed : ¬ Confirmed configuration

theorem not_createdBy_of_negotiates {negotiation : List Exchange}
    {event : Exchange}
    (negotiates : ∀ event ∈ negotiation, event.1 = .api capabilitiesDocument)
    (member : event ∈ negotiation) : ¬ task.CreatedBy codecs event := by
  apply Creationless.not_createdBy
  rw [Creationless, negotiates event member, createsTask_capabilities]

/-- After a creation that the instance learned of, the created task has no
entry, unless its submission was abandoned. -/
theorem Effect.creation {event : Exchange}
    (effect : Effect codecs before call after) (member : event ∈ call.trace)
    (created : task.CreatedBy codecs event) :
    after.terminalTasks.get task.key = none ∨
      ∃ configuration cancelReply,
        Abandons task configuration cancelReply call.trace := by
  cases effect with
  | unchanged client creationless =>
      exact ((creationless event member).not_createdBy task created).elim
  | remembered client holds unsettled terminal witnessed creationless =>
      exact ((creationless event member).not_createdBy task created).elim
  | released parsed creationless =>
      exact ((creationless event member).not_createdBy task created).elim
  | acquired free creationless =>
      exact ((creationless event member).not_createdBy task created).elim
  | dropped holds asked missing creationless =>
      exact ((creationless event member).not_createdBy task created).elim
  | started outcome =>
      cases outcome with
      | unsent error client negotiates =>
          exact (not_createdBy_of_negotiates negotiates member created).elim
      | unaccepted error client held negotiates read =>
          rcases List.mem_append.mp member with inNegotiation | last
          · exact (not_createdBy_of_negotiates negotiates inNegotiation
              created).elim
          · rw [List.mem_singleton.mp last] at created
            rcases created with ⟨impossible, -⟩ | ⟨_, -, accepted⟩
            · cases impossible
            · rw [read] at accepted
              cases accepted
      | submitted client held negotiates read =>
          rcases List.mem_append.mp member with inNegotiation | last
          · exact (not_createdBy_of_negotiates negotiates inNegotiation
              created).elim
          · rw [List.mem_singleton.mp last] at created
            rcases created with ⟨impossible, -⟩ | ⟨_, sent, accepted⟩
            · cases impossible
            have sameSession := submitDocument_session (Command.api.inj sent)
            rw [read] at accepted
            refine .inl ?_
            rw [get_forget, if_pos]
            rw [sameSession, Except.ok.inj accepted]
            rfl
      | executed held outcome =>
          cases outcome with
          | executed identified configures confirmed =>
              refine .inl ?_
              rw [get_forget, if_pos]
              rcases List.mem_cons.mp member with rfl | inConfiguration
              · rcases created with ⟨sent, named⟩ | ⟨_, impossible, -⟩
                · cases sent
                  cases identified.symm.trans named
                  rfl
                · cases impossible
              · have harmless := (configures event
                  inConfiguration).not_createsTask
                rw [created.createsTask] at harmless
                cases harmless
      | failed held outcome =>
          cases outcome with
          | uncreated message unidentified =>
              rw [List.mem_singleton.mp member] at created
              rcases created with ⟨-, named⟩ | ⟨_, impossible, -⟩
              · rw [unidentified] at named
                cases named
              · cases impossible
          | abandoned message identified configures unconfirmed =>
              refine .inr ?_
              rcases List.mem_cons.mp member with rfl | inRest
              · rcases created with ⟨sent, named⟩ | ⟨_, impossible, -⟩
                · cases sent
                  cases identified.symm.trans named
                  exact ⟨_, _, ⟨_, identified, rfl⟩, configures, unconfirmed⟩
                · cases impossible
              · rcases List.mem_append.mp inRest with inConfiguration | last
                · have harmless := (configures event
                    inConfiguration).not_createsTask
                  rw [created.createsTask] at harmless
                  cases harmless
                · have creates := created.createsTask
                  rw [List.mem_singleton.mp last, createsTask_command] at creates
                  cases creates

/-- The exchanges of a history of calls. -/
def log (calls : List Call) : List Exchange :=
  calls.flatMap Call.trace

/-- Every remembered status was observed or acknowledged after the most recent
creation of its task that the instance learned of. -/
def FreshStatuses (codecs : Codecs) (exchanges : List Exchange)
    (resource : MaestroLocal) : Prop :=
  ∀ (task : Task) status,
    resource.terminalTasks.get task.key = some status →
      ∃ earlier later, exchanges = earlier ++ later ∧
        (∀ event ∈ later, ¬ task.CreatedBy codecs event) ∧
        task.Witnessed codecs status later

/-- A submission that leaves a stale status behind: its task was created under
the number of a remembered one and then abandoned, and the clean-up did not
confirm that very status. -/
def StaleSubmission (before : MaestroLocal) (call : Call) : Prop :=
  ∃ (task : Task) (status : TaskStatus) (configuration : List Exchange)
    (cancelReply : Reply),
    before.terminalTasks.get task.key = some status ∧
      Abandons task configuration cancelReply call.trace ∧
      ¬ (status = .cancelled ∧ cancelReply.acknowledgement = some true)

theorem FreshStatuses.step {exchanges : List Exchange}
    (fresh : FreshStatuses codecs exchanges before)
    (step : Step codecs before call after)
    (careful : ¬ StaleSubmission before call) :
    FreshStatuses codecs (exchanges ++ call.trace) after := by
  intro task status cached
  rcases step.effect.origin cached with old | ⟨-, witnessed, creationless⟩
  · by_cases quiet : ∀ event ∈ call.trace, ¬ task.CreatedBy codecs event
    · obtain ⟨earlier, later, rfl, uncreated, witnessed⟩ := fresh task status old
      refine ⟨earlier, later ++ call.trace, by simp, fun event member => ?_,
        witnessed.mono (List.sublist_append_left _ _)⟩
      rcases List.mem_append.mp member with inLater | inTrace
      · exact uncreated event inLater
      · exact quiet event inTrace
    · push Not at quiet
      obtain ⟨event, member, created⟩ := quiet
      rcases step.effect.creation member created with gone |
        ⟨configuration, cancelReply, abandons⟩
      · rw [cached] at gone
        cases gone
      -- Only the clean-up of the abandoned task can vouch for its status.
      have confirmed : status = .cancelled ∧
          cancelReply.acknowledgement = some true := by
        by_contra unconfirmed
        exact careful ⟨task, status, configuration, cancelReply, old, abandons,
          unconfirmed⟩
      obtain ⟨rfl, acknowledged⟩ := confirmed
      obtain ⟨reply, -, shape⟩ := abandons.trace_eq
      have answered : task.Answered .cancel true
          ⟨task.command .cancel, cancelReply⟩ := ⟨rfl, acknowledged⟩
      refine ⟨exchanges ++ ⟨.taskCreate task.sessionId, reply⟩ :: configuration,
        [⟨task.command .cancel, cancelReply⟩], by simp [shape], ?_, ?_⟩
      · intro event member
        rw [List.mem_singleton.mp member]
        have harmless : Creationless ⟨task.command .cancel, cancelReply⟩ := rfl
        exact harmless.not_createdBy task
      · exact ⟨_, List.Sublist.refl _, .cancelAcknowledged answered⟩
  · exact ⟨exchanges, call.trace, rfl,
      fun event member => (creationless event member).not_createdBy task,
      witnessed⟩

/-- The exchanges after an abandoned creation vouch for nothing but the
acknowledged clean-up. -/
theorem Abandons.witnessed {configuration trace : List Exchange}
    {cancelReply : Reply} (abandons : Abandons task configuration cancelReply trace)
    (witnessed : task.Witnessed codecs status
      (configuration ++ [⟨task.command .cancel, cancelReply⟩])) :
    status = .cancelled ∧ cancelReply.acknowledgement = some true := by
  have located {verb : TaskVerb} {flag : Bool} {event : Exchange}
      (member : event ∈ configuration ++ [⟨task.command .cancel, cancelReply⟩])
      (unconfiguring : verb.configures = false)
      (answered : task.Answered verb flag event) :
      verb = .cancel ∧ cancelReply.acknowledgement = some flag := by
    rcases List.mem_append.mp member with inConfiguration | last
    · obtain ⟨other, configures, asked⟩ :=
        abandons.configures event inConfiguration
      have same : other = verb := by
        simpa [Task.command] using asked.symm.trans answered.1
      rw [same, unconfiguring] at configures
      cases configures
    · rw [List.mem_singleton.mp last] at answered
      refine ⟨?_, answered.2⟩
      simpa [Task.command] using answered.1.symm
  obtain ⟨evidence, contained, justifies⟩ := witnessed
  cases justifies with
  | failed answered =>
      cases (located (contained.subset (by simp)) rfl answered).1
  | completed hasFinished notFailed =>
      cases (located (contained.subset (by simp)) rfl hasFinished).1
  | cancelAcknowledged answered =>
      exact ⟨rfl, (located (contained.subset (by simp)) rfl answered).2⟩
  | cancellationRecorded isMissing recorded =>
      cases (located (contained.subset (by simp)) rfl isMissing).1

/-- An abandoned submission changes nothing. -/
theorem Abandons.unchanged {configuration : List Exchange} {cancelReply : Reply}
    (effect : Effect codecs before call after)
    (abandons : Abandons task configuration cancelReply call.trace) :
    after.terminalTasks = before.terminalTasks := by
  obtain ⟨reply, identified, shape⟩ := abandons.trace_eq
  have creating : (⟨.taskCreate task.sessionId, reply⟩ : Exchange) ∈ call.trace := by
    simp [shape]
  have created : task.CreatedBy codecs ⟨.taskCreate task.sessionId, reply⟩ :=
    .inl ⟨rfl, identified⟩
  have cancelling :
      (⟨task.command .cancel, cancelReply⟩ : Exchange) ∈ call.trace := by
    simp [shape]
  cases effect with
  | unchanged client creationless => rfl
  | remembered client holds unsettled terminal witnessed creationless =>
      exact ((creationless _ creating).not_createdBy task created).elim
  | released parsed creationless =>
      exact ((creationless _ creating).not_createdBy task created).elim
  | acquired free creationless => rfl
  | dropped holds asked missing creationless =>
      exact ((creationless _ creating).not_createdBy task created).elim
  | started outcome =>
      cases outcome with
      | unsent error client negotiates => rfl
      | unaccepted error client held negotiates read => rfl
      | submitted client held negotiates read =>
          rcases List.mem_append.mp creating with inNegotiation | last
          · exact (not_createdBy_of_negotiates negotiates inNegotiation
              created).elim
          · simp at last
      | executed held outcome =>
          cases outcome with
          | executed identified configures confirmed =>
              rcases List.mem_cons.mp cancelling with same | inConfiguration
              · simp [Task.command] at same
              · obtain ⟨verb, configuring, asked⟩ :=
                  configures _ inConfiguration
                have same : verb = .cancel := by
                  simp only [Task.command, Command.task.injEq] at asked
                  exact asked.2.2.symm
                rw [same] at configuring
                cases configuring
      | failed held outcome => rfl

/-- The condition on submissions is exact: a stale submission leaves a status
that is not fresh. -/
theorem not_freshStatuses_of_stale (exchanges : List Exchange)
    (step : Step codecs before call after)
    (stale : StaleSubmission before call) :
    ¬ FreshStatuses codecs (exchanges ++ call.trace) after := by
  intro fresh
  obtain ⟨task, status, configuration, cancelReply, cached, abandons,
    unconfirmed⟩ := stale
  obtain ⟨reply, identified, shape⟩ := abandons.trace_eq
  rw [← abandons.unchanged step.effect] at cached
  obtain ⟨earlier, later, split, uncreated, witnessed⟩ :=
    fresh task status cached
  have created : task.CreatedBy codecs ⟨.taskCreate task.sessionId, reply⟩ :=
    .inl ⟨rfl, identified⟩
  have notLater : (⟨.taskCreate task.sessionId, reply⟩ : Exchange) ∉ later :=
    fun member => uncreated _ member created
  have contained : later.Sublist (configuration ++
      [⟨task.command .cancel, cancelReply⟩]) := by
    rw [shape] at split
    rcases List.append_eq_append_iff.mp split with
      ⟨middle, rfl, suffix⟩ | ⟨middle, rfl, rfl⟩
    · cases middle with
      | nil =>
          rw [List.nil_append] at suffix
          rw [← suffix] at notLater
          simp at notLater
      | cons first rest =>
          obtain ⟨-, tail⟩ := List.cons.inj suffix
          rw [tail]
          exact List.sublist_append_right _ _
    · simp at notLater
  exact unconfirmed (abandons.witnessed (witnessed.mono contained))

/-- In every run without a stale submission all remembered statuses are fresh
in every state reached. -/
theorem terminalTasks_fresh {start reached : MaestroLocal} {calls : List Call}
    (constructed : Constructed start)
    (history : History (fun before call after =>
      Step codecs before call after ∧ ¬ StaleSubmission before call)
      start calls reached) :
    FreshStatuses codecs (log calls) reached := by
  have nothing := terminalTasks_of_constructed constructed
  have initially : FreshStatuses codecs (log []) start := by
    intro task status cached
    rw [nothing, KeyedStore.get_empty] at cached
    cases cached
  refine history.invariant (fun calls => FreshStatuses codecs (log calls))
    initially fun {past state call next} _ fresh taken => ?_
  have extended := fresh.step taken.1 taken.2
  simpa [log] using extended

end Freshness

namespace Observed

/-- The remembered task number is created again, and its configuration is
refused. -/
def abandonedTrace : List Exchange :=
  [⟨.taskCreate 7, .ok "OK 1".toList⟩,
    ⟨task.command (.setType .execute), .ok "ERROR busy".toList⟩,
    ⟨task.command .cancel, .ok "ERROR busy".toList⟩]

def abandonedPayload : Payload :=
  .maestroLocal "qreg q[1];".toList "execute".toList 1 0 0 [] "{}".toList

def abandonedCall : Call :=
  ⟨.taskStart abandonedPayload, abandonedTrace, .error (.other
    ("Maestro task 1 was created but submission failed: " ++
      "Failed to set task type: Failed to set task type: busy"))⟩

theorem abandonedStep :
    Step codecs (start.remember task.key .failed) abandonedCall
      (start.remember task.key .failed) :=
  .ask (.ask (.ask (.done _)))

theorem careful : ¬ StaleSubmission start call := by
  rintro ⟨task, status, configuration, cancelReply, cached, -⟩
  cases cached

theorem stale : StaleSubmission (start.remember task.key .failed)
    abandonedCall := by
  refine ⟨task, .failed, [⟨task.command (.setType .execute),
    .ok "ERROR busy".toList⟩], .ok "ERROR busy".toList, rfl,
    ⟨⟨.ok "OK 1".toList, rfl, rfl⟩, ?_, ?_⟩, by simp⟩
  · intro event member
    rw [List.mem_singleton.mp member]
    exact ⟨.setType .execute, rfl, rfl⟩
  · intro confirmed
    have acknowledged := confirmed _ (List.mem_singleton_self _)
    cases acknowledged

end Observed

theorem terminalTasks_fresh_observed :
    FreshStatuses Observed.codecs (log [Observed.call])
      (Observed.start.remember Observed.task.key .failed) :=
  terminalTasks_fresh Observed.constructed
    (.cons ⟨Observed.step, Observed.careful⟩ (.nil _))

/-- A failed status survives the creation of another task of its name. -/
theorem exists_stale_terminalTask :
    ∃ start calls reached, Constructed start ∧
      History (Step Observed.codecs) start calls reached ∧
      ¬ FreshStatuses Observed.codecs (log calls) reached := by
  refine ⟨Observed.start, [Observed.call, Observed.abandonedCall], _,
    Observed.constructed,
    .cons Observed.step (.cons Observed.abandonedStep (.nil _)), ?_⟩
  exact not_freshStatuses_of_stale Observed.trace Observed.abandonedStep
    Observed.stale

end MaestroLocal

end Maestro
