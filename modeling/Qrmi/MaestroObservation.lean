import Mathlib.Data.List.Sublists
import Qrmi.MaestroLocalExecution

/-!
# Observing and stopping a Maestro task

A terminal status is remembered only after the server has given evidence for
it.  The outcomes of a status query and of a cancellation are listed here with
the exchanges that led to them; an unavailable task is never taken for a
finished one.
-/

namespace Maestro

open Interaction

/-- Whether the reply to a request for diagnostics ends with a confirmed
cancellation. -/
def recordsCancellation (codecs : Codecs) (reply : Reply) : Bool :=
  match readApiReply (parseApiResponse codecs.json) reply with
  | .ok value => MaestroLocal.endsCancelled codecs (codecs.json.dump value)
  | .error _ => false

/-- The exchanges that justify a terminal status. -/
inductive Task.Evidence (codecs : Codecs) (task : Task) :
    TaskStatus → List Exchange → Prop
  | failed {event : Exchange} (answered : task.Answered .failed true event) :
      Evidence codecs task .failed [event]
  | completed {finished failed : Exchange}
      (hasFinished : task.Answered .finished true finished)
      (notFailed : task.Answered .failed false failed) :
      Evidence codecs task .completed [finished, failed]
  | cancelAcknowledged {event : Exchange}
      (answered : task.Answered .cancel true event) :
      Evidence codecs task .cancelled [event]
  | cancellationRecorded {missing : Exchange} {reply : Reply}
      (isMissing : task.Answered .exists false missing)
      (recorded : recordsCancellation codecs reply = true) :
      Evidence codecs task .cancelled
        [missing, ⟨.api (logsDocument task.sessionId task.id), reply⟩]

/-- A trace that contains evidence for a status, in order. -/
def Task.Witnessed (codecs : Codecs) (task : Task) (status : TaskStatus)
    (trace : List Exchange) : Prop :=
  ∃ evidence, evidence.Sublist trace ∧ task.Evidence codecs status evidence

theorem Task.Witnessed.mono {codecs : Codecs} {task : Task}
    {status : TaskStatus} {trace larger : List Exchange}
    (witnessed : task.Witnessed codecs status trace)
    (contained : trace.Sublist larger) :
    task.Witnessed codecs status larger := by
  obtain ⟨evidence, inTrace, justifies⟩ := witnessed
  exact ⟨evidence, inTrace.trans contained, justifies⟩

namespace MaestroLocal

/-- A terminal status that is concluded from a transcript is witnessed by it. -/
theorem witnessed_of_concludes {codecs : Codecs} {task : Task}
    {flags : List (TaskVerb × Bool)} {status : TaskStatus}
    {trace : List Exchange} (concludes : Concludes flags status)
    (transcribes : Transcribes task flags trace)
    (terminal : status.isTerminal = true) :
    task.Witnessed codecs status trace := by
  cases concludes with
  | failed =>
      rcases transcribes with _ | ⟨-, _ | ⟨failed, _ | _⟩⟩
      refine ⟨_, ?_, .failed failed⟩
      simp
  | lateFailed =>
      rcases transcribes with _ |
        ⟨-, _ | ⟨-, _ | ⟨-, _ | ⟨failed, _ | _⟩⟩⟩⟩
      refine ⟨_, ?_, .failed failed⟩
      simp
  | completed =>
      rcases transcribes with _ |
        ⟨-, _ | ⟨-, _ | ⟨finished, _ | ⟨failed, _ | _⟩⟩⟩⟩
      refine ⟨_, ?_, .completed finished failed⟩
      exact .cons _ (.cons _ (List.Sublist.refl _))
  | running => cases terminal
  | queued => cases terminal

/-- Every exchange of a transcript answers one of its flags. -/
theorem exists_flag_of_transcribes {task : Task}
    {flags : List (TaskVerb × Bool)} {trace : List Exchange}
    (transcribes : Transcribes task flags trace) {event : Exchange}
    (member : event ∈ trace) :
    ∃ flag ∈ flags, task.Answered flag.1 flag.2 event := by
  induction transcribes with
  | nil => cases member
  | cons answered _ ih =>
      rcases List.mem_cons.mp member with rfl | inRest
      · exact ⟨_, List.mem_cons_self .., answered⟩
      · obtain ⟨flag, inFlags, answeredLater⟩ := ih inRest
        exact ⟨flag, List.mem_cons_of_mem _ inFlags, answeredLater⟩

/-- The last exchange of a transcript answers its last flag. -/
theorem answered_of_getLast? {task : Task} {flags : List (TaskVerb × Bool)}
    {trace : List Exchange} {flag : TaskVerb × Bool} {event : Exchange}
    (transcribes : Transcribes task flags trace) (lastFlag : flags.getLast? = some flag)
    (lastEvent : trace.getLast? = some event) : task.Answered flag.1 flag.2 event := by
  induction transcribes with
  | nil => cases lastFlag
  | cons answered rest ih =>
      cases rest with
      | nil =>
          cases lastFlag
          cases lastEvent
          exact answered
      | cons next rest =>
          rw [List.getLast?_cons_cons] at lastFlag lastEvent
          exact ih lastFlag lastEvent

/-- No question about the existence of the task was denied in a transcript from
which a status is concluded. -/
theorem not_answered_missing_of_concludes {task : Task}
    {flags : List (TaskVerb × Bool)} {status : TaskStatus}
    {trace : List Exchange} (concludes : Concludes flags status)
    (transcribes : Transcribes task flags trace) :
    ∀ event ∈ trace, ¬ task.Answered .exists false event := by
  intro event member missing
  have noDenial : ∀ flag ∈ flags, flag ≠ (.exists, false) := by
    cases concludes <;> simp
  obtain ⟨flag, inFlags, answered⟩ :=
    exists_flag_of_transcribes transcribes member
  obtain ⟨verb, value⟩ := verb_eq_of_answered answered missing
  exact noDenial flag inFlags (Prod.ext verb value)

variable {codecs : Codecs} {before after : MaestroLocal}
variable {trace : List Exchange}

/-- A look at the diagnostics sends at most one document and finds a recorded
cancellation exactly when its reply records one. -/
theorem executes_cancellationRecorded {task : Task}
    {result : Except QrmiError Bool}
    (executes : (cancellationRecorded codecs task).Executes
      before trace result after) :
    ∃ client, after = before.withClient client ∧
      ((trace = [] ∧ result = .ok false) ∨
        ∃ reply,
          trace = [⟨.api (logsDocument task.sessionId task.id), reply⟩] ∧
          result = .ok (recordsCancellation codecs reply)) := by
  unfold cancellationRecorded at executes
  rcases Method.executes_bind_iff.mp executes with ⟨_, rfl, failed⟩ |
    ⟨first, second, outcome, middle, rfl, attempted, rest⟩
  · obtain ⟨_, impossible, -⟩ := Method.executes_attempt_iff.mp failed
    cases impossible
  obtain ⟨_, equal, requested⟩ := Method.executes_attempt_iff.mp attempted
  cases equal
  obtain ⟨reported, client, ran, rfl, rfl⟩ :=
    executes_nativeApi_iff.mp requested
  refine ⟨client, ?_⟩
  have sent := RequestClient.executes_logs ran
  cases reported with
  | error error =>
      obtain ⟨rfl, rfl, rfl⟩ := Method.executes_pure_iff.mp rest
      refine ⟨rfl, ?_⟩
      rw [List.append_nil]
      rcases sent with ⟨rfl, -⟩ | ⟨reply, rfl, read⟩
      · exact .inl ⟨rfl, rfl⟩
      · refine .inr ⟨reply, rfl, ?_⟩
        unfold recordsCancellation
        cases parsed : readApiReply (parseApiResponse codecs.json) reply with
        | error parseError => rfl
        | ok value => simp [parsed, Except.map] at read
  | ok logs =>
      obtain ⟨rfl, rfl, rfl⟩ := Method.executes_pure_iff.mp rest
      refine ⟨rfl, ?_⟩
      rw [List.append_nil]
      rcases sent with ⟨-, _, impossible⟩ | ⟨reply, rfl, read⟩
      · cases impossible
      · refine .inr ⟨reply, rfl, ?_⟩
        unfold recordsCancellation
        cases parsed : readApiReply (parseApiResponse codecs.json) reply with
        | error parseError => simp [parsed, Except.map] at read
        | ok value =>
            rw [parsed] at read
            cases read
            rfl

/-- The outcomes of observing a task whose status is not remembered. -/
inductive Observation (codecs : Codecs) (task : Task) :
    List Exchange → Except QrmiError TaskStatus → Prop
  | concluded {trace : List Exchange} {flags : List (TaskVerb × Bool)}
      {status : TaskStatus} (concludes : Concludes flags status)
      (transcribes : Transcribes task flags trace) :
      Observation codecs task trace (.ok status)
  | recorded {earlier : List Exchange} {missing : Exchange} {reply : Reply}
      (isMissing : task.Answered .exists false missing)
      (recorded : recordsCancellation codecs reply = true) :
      Observation codecs task
        (earlier ++ [missing,
          ⟨.api (logsDocument task.sessionId task.id), reply⟩])
        (.ok .cancelled)
  | missing {earlier later : List Exchange} {missing : Exchange}
      (isMissing : task.Answered .exists false missing) :
      Observation codecs task (earlier ++ missing :: later)
        (.error (.taskNotFound (toString task.id)))
  | unknown {trace : List Exchange} (message : String)
      (present : ∀ event ∈ trace, ¬ task.Answered .exists false event) :
      Observation codecs task trace (.error (.other message))

theorem executes_observedTaskStatus {task : Task}
    {result : Except QrmiError TaskStatus}
    (executes : (observedTaskStatus codecs task).Executes
      before trace result after) :
    ∃ client, after = before.withClient client ∧
      Observation codecs task trace result := by
  unfold observedTaskStatus at executes
  rcases Method.executes_bind_iff.mp executes with ⟨_, rfl, failed⟩ |
    ⟨first, second, outcome, middle, rfl, attempted, rest⟩
  · obtain ⟨_, impossible, -⟩ := Method.executes_attempt_iff.mp failed
    cases impossible
  obtain ⟨_, equal, queried⟩ := Method.executes_attempt_iff.mp attempted
  cases equal
  obtain ⟨rfl, concluded | ⟨error, rfl, earlier, check, rfl, present, checked⟩⟩ :=
    executes_serverTaskStatus queried
  · obtain ⟨flags, status, concludes, transcribes, rfl⟩ := concluded
    obtain ⟨rfl, rfl, rfl⟩ := Method.executes_ofExcept_iff.mp rest
    refine ⟨_, (withClient_self _).symm, ?_⟩
    rw [List.append_nil]
    exact .concluded concludes transcribes
  rcases checked with ⟨missing, rfl⟩ | ⟨unknown, message, rfl⟩
  · have isMissing : task.Answered .exists false
        ⟨task.command .exists, check⟩ := ⟨rfl, missing⟩
    rcases Method.executes_bind_iff.mp rest with ⟨_, rfl, failed⟩ |
      ⟨looked, last, found, middle, rfl, recorded, rest⟩
    · obtain ⟨_, -, ⟨-, impossible⟩ | ⟨_, -, impossible⟩⟩ :=
        executes_cancellationRecorded failed <;> cases impossible
    obtain ⟨client, rfl, looks⟩ := executes_cancellationRecorded recorded
    cases found with
    | false =>
        obtain ⟨rfl, rfl, rfl⟩ := Method.executes_throw_iff.mp rest
        refine ⟨client, rfl, ?_⟩
        rw [List.append_assoc]
        exact .missing isMissing
    | true =>
        obtain ⟨rfl, rfl, rfl⟩ := Method.executes_pure_iff.mp rest
        refine ⟨client, rfl, ?_⟩
        rcases looks with ⟨-, impossible⟩ | ⟨reply, rfl, found⟩
        · cases impossible
        have records : recordsCancellation codecs reply = true :=
          (Except.ok.inj found).symm
        rw [List.append_nil, List.append_assoc]
        exact .recorded isMissing records
  · obtain ⟨rfl, rfl, rfl⟩ := Method.executes_ofExcept_iff.mp rest
    refine ⟨_, (withClient_self _).symm, ?_⟩
    rw [List.append_nil]
    refine .unknown message fun event member missing => ?_
    rcases List.mem_append.mp member with inEarlier | last
    · exact present event inEarlier missing
    · rw [List.mem_singleton.mp last] at missing
      exact unknown missing.2

/-- An exchange that asks about a task and changes nothing. -/
inductive Observing : Exchange → Prop
  | query (task : Task) (verb : TaskVerb)
      (known : verb ∈ [TaskVerb.exists, .failed, .finished, .running]) (reply : Reply) :
      Observing ⟨task.command verb, reply⟩
  | logs (session id : UInt32) (reply : Reply) :
      Observing ⟨.api (logsDocument session id), reply⟩

section Emission

variable {α : Type}

theorem emits_taskCall {allowed : Exchange → Prop} {command : Command}
    {call : String → Dialogue (Except String Bool)}
    (asks : ∀ socket, Asks command (call socket))
    (allows : ∀ reply, allowed ⟨command, reply⟩) : (taskCall call).Emits allowed := by
  rintro resource trace ⟨result, after⟩ runs event member
  obtain ⟨response, asked, -, -⟩ := executes_taskCall_iff.mp runs
  obtain ⟨reply, rfl, -⟩ := asks _ asked
  rw [List.mem_singleton.mp member]
  exact allows reply

theorem observes_ensureTaskExists (task : Task) :
    (ensureTaskExists task).Emits Observing := by
  rintro resource trace ⟨result, after⟩ runs event member
  obtain ⟨check, rfl, -, -⟩ := executes_ensureTaskExists runs
  rw [List.mem_singleton.mp member]
  exact .query task .exists (by decide) check

theorem observes_taskResponse (task : Task) (operation : String)
    (response : Except String α) :
    (taskResponse task operation response).Emits Observing := by
  rintro resource trace ⟨result, after⟩ runs event member
  obtain ⟨-, ⟨_, -, rfl, -⟩ | ⟨_, check, _, -, rfl, -⟩⟩ :=
    executes_taskResponse runs
  · cases member
  · rw [List.mem_singleton.mp member]
    exact .query task .exists (by decide) check

theorem observes_serverTaskStatus (task : Task) :
    (serverTaskStatus task).Emits Observing := by
  have query {β : Type} {verb : TaskVerb} {operation : String}
      {call : String → Dialogue (Except String Bool)}
      {next : Bool → LocalMethod β}
      (asks : ∀ socket, Asks (task.command verb) (call socket))
      (known : verb ∈ [TaskVerb.exists, .failed, .finished, .running])
      (rest : ∀ flag, (next flag).Emits Observing) :
      Method.Emits (do
        let response ← taskCall call
        let flag ← taskResponse task operation response
        next flag : LocalMethod β) Observing :=
    (emits_taskCall asks fun reply => .query task verb known reply).bind fun response =>
      (observes_taskResponse task operation response).bind rest
  unfold serverTaskStatus
  apply (observes_ensureTaskExists task).bind
  intro _
  apply query (fun _ => asks_acknowledge) (by decide)
  intro hasFailed
  split
  · exact Method.emits_pure _
  apply query (fun _ => asks_acknowledge) (by decide)
  intro hasFinished
  split
  · apply query (fun _ => asks_acknowledge) (by decide)
    intro _
    exact Method.emits_pure _
  · apply query (fun _ => asks_acknowledge) (by decide)
    intro _
    exact Method.emits_pure _

theorem observes_cancellationRecorded (task : Task) :
    (cancellationRecorded codecs task).Emits Observing := by
  rintro resource trace ⟨result, after⟩ runs event member
  obtain ⟨_, -, ⟨rfl, -⟩ | ⟨reply, rfl, -⟩⟩ := executes_cancellationRecorded runs
  · cases member
  · rw [List.mem_singleton.mp member]
    exact .logs _ _ reply

theorem observes_taskStatus (taskId : Text) :
    (taskStatus codecs taskId).Emits Observing := by
  have observed (task : Task) : (observedTaskStatus codecs task).Emits Observing := by
    unfold observedTaskStatus
    apply (observes_serverTaskStatus task).attempt.bind
    intro outcome
    split
    · apply (observes_cancellationRecorded task).bind
      intro recorded
      split
      · exact Method.emits_pure _
      · exact Method.emits_throw _
    · exact Method.emits_ofExcept _
  unfold taskStatus
  refine Method.Emits.bind Method.emits_self fun resource => ?_
  refine (Method.emits_ofExcept _).bind fun task => ?_
  split
  · exact Method.emits_pure _
  · apply (observed task).bind
    intro status
    dsimp only
    split
    · exact (Method.emits_modify _).bind fun _ => Method.emits_pure _
    · exact Method.emits_pure _

end Emission

/-- A terminal status is observed with evidence. -/
theorem Observation.witnessed {task : Task} {status : TaskStatus}
    (observation : Observation codecs task trace (.ok status))
    (terminal : status.isTerminal = true) :
    task.Witnessed codecs status trace := by
  cases observation with
  | concluded concludes transcribes =>
      exact witnessed_of_concludes concludes transcribes terminal
  | recorded isMissing recorded =>
      exact ⟨_, List.sublist_append_right _ _,
        .cancellationRecorded isMissing recorded⟩

/-- A task that the server reports missing is either recorded as cancelled or
not found. -/
theorem Observation.of_missing {task : Task} {event : Exchange}
    {result : Except QrmiError TaskStatus}
    (observation : Observation codecs task trace result)
    (member : event ∈ trace) (missing : task.Answered .exists false event) :
    (result = .ok .cancelled ∧ task.Witnessed codecs .cancelled trace) ∨
      result = .error (.taskNotFound (toString task.id)) := by
  cases observation with
  | concluded concludes transcribes =>
      exact (not_answered_missing_of_concludes concludes transcribes event
        member missing).elim
  | recorded isMissing recorded =>
      exact .inl ⟨rfl, _, List.sublist_append_right _ _,
        .cancellationRecorded isMissing recorded⟩
  | missing isMissing => exact .inr rfl
  | unknown message present => exact (present event member missing).elim

/-- What a returned status changes: a terminal one is remembered. -/
def noteStatus (task : Task) (result : Except QrmiError TaskStatus)
    (resource : MaestroLocal) : MaestroLocal :=
  match result with
  | .ok status =>
      if status.isTerminal then resource.remember task.key status else resource
  | .error _ => resource

/-- The outcomes of `task_status`. -/
inductive StatusOutcome (codecs : Codecs) (before : MaestroLocal)
    (taskId : Text) :
    List Exchange → Except QrmiError TaskStatus → MaestroLocal → Prop
  | rejected {error : QrmiError} (invalid : before.task taskId = .error error) :
      StatusOutcome codecs before taskId [] (.error error) before
  | remembered {task : Task} {status : TaskStatus}
      (handle : before.task taskId = .ok task)
      (cached : before.terminalTasks.get task.key = some status) :
      StatusOutcome codecs before taskId [] (.ok status) before
  | observed {task : Task} {trace : List Exchange}
      {result : Except QrmiError TaskStatus} (client : RequestClient)
      (handle : before.task taskId = .ok task)
      (absent : before.terminalTasks.get task.key = none)
      (observation : Observation codecs task trace result) :
      StatusOutcome codecs before taskId trace result
        ((before.withClient client).noteStatus task result)

theorem executes_taskStatus {taskId : Text}
    {result : Except QrmiError TaskStatus}
    (executes : (taskStatus codecs taskId).Executes before trace result after) :
    StatusOutcome codecs before taskId trace result after := by
  unfold taskStatus at executes
  rw [Method.executes_self_bind_iff] at executes
  cases handle : before.task taskId with
  | error error =>
      rw [handle, Method.executes_ofExcept_bind_error_iff] at executes
      obtain ⟨rfl, rfl, rfl⟩ := executes
      exact .rejected handle
  | ok task =>
      rw [handle, Method.executes_ofExcept_bind_ok_iff] at executes
      cases cached : before.terminalTasks.get task.key with
      | some status =>
          rw [cached] at executes
          obtain ⟨rfl, rfl, rfl⟩ := Method.executes_pure_iff.mp executes
          exact .remembered handle cached
      | none =>
          rw [cached] at executes
          rcases Method.executes_bind_iff.mp executes with ⟨error, rfl, failed⟩ |
            ⟨first, second, status, middle, rfl, observed, rest⟩
          · obtain ⟨client, rfl, observation⟩ :=
              executes_observedTaskStatus failed
            exact .observed client handle cached observation
          · obtain ⟨client, rfl, observation⟩ :=
              executes_observedTaskStatus observed
            have noted := StatusOutcome.observed client handle cached observation
            dsimp only at rest
            by_cases terminal : status.isTerminal = true
            · rw [if_pos terminal] at rest
              rcases Method.executes_bind_iff.mp rest with
                ⟨_, -, failed⟩ | ⟨_, _, _, _, rfl, modified, returned⟩
              · simp at failed
              obtain ⟨rfl, -, rfl⟩ := Method.executes_modify_iff.mp modified
              obtain ⟨rfl, rfl, rfl⟩ := Method.executes_pure_iff.mp returned
              rw [noteStatus, if_pos terminal] at noted
              simpa using noted
            · rw [if_neg terminal] at rest
              obtain ⟨rfl, rfl, rfl⟩ := Method.executes_pure_iff.mp rest
              rw [noteStatus, if_neg terminal] at noted
              simpa using noted

/-- A status query that found the task ended. -/
def EndsTerminal (followUp : Except QrmiError TaskStatus) : Prop :=
  ∃ status, followUp = .ok status ∧ status.isTerminal = true

/-- The outcomes of `task_stop`, with the status queries that it made. -/
inductive StopOutcome (codecs : Codecs) (before : MaestroLocal)
    (taskId : Text) :
    List Exchange → Except QrmiError Unit → MaestroLocal → Prop
  | rejected {error : QrmiError} (invalid : before.task taskId = .error error) :
      StopOutcome codecs before taskId [] (.error error) before
  | unobserved {trace : List Exchange} {error : QrmiError}
      {after : MaestroLocal}
      (observed : (taskStatus codecs taskId).Executes before trace (.error error) after) :
      StopOutcome codecs before taskId trace (.error error) after
  | finished {trace : List Exchange} {status : TaskStatus} {task : Task}
      {after : MaestroLocal} (handle : before.task taskId = .ok task)
      (terminal : status.isTerminal = true)
      (observed : (taskStatus codecs taskId).Executes before trace (.ok status) after) :
      StopOutcome codecs before taskId trace (.ok ()) after
  | acknowledged {earlier : List Exchange} {event : Exchange}
      {status : TaskStatus} {task : Task} {middle : MaestroLocal}
      (handle : before.task taskId = .ok task)
      (active : status.isTerminal = false)
      (observed : (taskStatus codecs taskId).Executes before earlier (.ok status) middle)
      (answered : task.Answered .cancel true event) :
      StopOutcome codecs before taskId (earlier ++ [event]) (.ok ())
        (middle.remember task.key .cancelled)
  | unacknowledged {earlier later : List Exchange} {event : Exchange}
      {status : TaskStatus} {task : Task} {middle after : MaestroLocal}
      {followUp : Except QrmiError TaskStatus} {result : Except QrmiError Unit}
      (handle : before.task taskId = .ok task)
      (active : status.isTerminal = false)
      (observed : (taskStatus codecs taskId).Executes before earlier (.ok status) middle)
      (asked : event.1 = task.command .cancel)
      (unanswered : event.2.acknowledgement ≠ some true)
      (followed : (taskStatus codecs taskId).Executes middle later followUp after)
      (reports : result = .ok () ↔ EndsTerminal followUp) :
      StopOutcome codecs before taskId (earlier ++ event :: later) result after

/-- The report of an unacknowledged cancellation depends on the follow-up check,
and tells of a stop only when that check saw the task end. -/
theorem executes_stopOutcome {taskId : Text} {response : Except String Bool}
    {followUp : Except QrmiError TaskStatus} {result : Except QrmiError Unit}
    (executes : (stopOutcome taskId response followUp).Executes
      before trace result after) :
    trace = [] ∧ after = before ∧ (result = .ok () ↔ EndsTerminal followUp) := by
  have refused {error : QrmiError} (active : ¬ EndsTerminal followUp)
      (throws : (Method.throw error : LocalMethod Unit).Executes
        before trace result after) :
      trace = [] ∧ after = before ∧ (result = .ok () ↔ EndsTerminal followUp) := by
    obtain ⟨rfl, rfl, rfl⟩ := Method.executes_throw_iff.mp throws
    exact ⟨rfl, rfl, by simp [active]⟩
  unfold stopOutcome at executes
  split at executes
  iterate 3
    obtain ⟨rfl, rfl, rfl⟩ := Method.executes_pure_iff.mp executes
    exact ⟨rfl, rfl, by simp [EndsTerminal, TaskStatus.isTerminal]⟩
  · exact refused (by simp [EndsTerminal]) executes
  · rename_i notCompleted notFailed notCancelled _
    have active : ¬ EndsTerminal followUp := by
      rintro ⟨status, rfl, terminal⟩
      cases status <;> simp_all [TaskStatus.isTerminal]
    split at executes
    · exact refused active executes
    · exact refused active executes
    · cases executes

/-- It sends nothing. -/
theorem emits_stopOutcome {taskId : Text} {response : Except String Bool}
    {followUp : Except QrmiError TaskStatus} {allowed : Exchange → Prop} :
    (stopOutcome taskId response followUp).Emits allowed :=
  Method.emits_silent fun _ _ _ _ executes => (executes_stopOutcome executes).1

theorem executes_taskStop {taskId : Text} {result : Except QrmiError Unit}
    (executes : (taskStop codecs taskId).Executes before trace result after) :
    StopOutcome codecs before taskId trace result after := by
  unfold taskStop at executes
  rw [Method.executes_self_bind_iff] at executes
  cases handle : before.task taskId with
  | error error =>
      rw [handle, Method.executes_ofExcept_bind_error_iff] at executes
      obtain ⟨rfl, rfl, rfl⟩ := executes
      exact .rejected handle
  | ok task =>
      rw [handle, Method.executes_ofExcept_bind_ok_iff] at executes
      rcases Method.executes_bind_iff.mp executes with ⟨error, rfl, failed⟩ |
        ⟨earlier, rest, status, middle, rfl, observed, decided⟩
      · exact .unobserved failed
      by_cases terminal : status.isTerminal = true
      · rw [if_pos terminal] at decided
        obtain ⟨rfl, rfl, rfl⟩ := Method.executes_pure_iff.mp decided
        rw [List.append_nil]
        exact .finished handle terminal observed
      have active : status.isTerminal = false := by simpa using terminal
      rw [if_neg terminal] at decided
      rcases Method.executes_bind_iff.mp decided with ⟨_, -, failed⟩ |
        ⟨_, later, response, _, rfl, cancelled, answered⟩
      · obtain ⟨_, -, impossible, -⟩ := executes_taskCall_iff.mp failed
        cases impossible
      obtain ⟨_, asked, equal, rfl⟩ := executes_taskCall_iff.mp cancelled
      cases equal
      obtain ⟨reply, rfl, meaning⟩ := asks_acknowledge asked
      split at answered
      · obtain ⟨rfl, rfl, rfl⟩ := Method.executes_modify_iff.mp answered
        rw [List.append_nil]
        exact .acknowledged handle active observed
          ⟨rfl, (meaning true).mp rfl⟩
      · rename_i unconfirmed
        have unanswered : reply.acknowledgement ≠ some true :=
          fun acknowledged => unconfirmed ((meaning true).mpr acknowledged)
        rcases Method.executes_bind_iff.mp answered with ⟨_, -, failed⟩ |
          ⟨_, last, followUp, _, rfl, attempted, reported⟩
        · obtain ⟨_, impossible, -⟩ := Method.executes_attempt_iff.mp failed
          cases impossible
        obtain ⟨_, equal, followed⟩ := Method.executes_attempt_iff.mp attempted
        cases equal
        obtain ⟨rfl, rfl, reports⟩ := executes_stopOutcome reported
        rw [List.append_nil]
        exact .unacknowledged handle active observed rfl unanswered followed reports

/-- Fetching a result observes the status first and changes nothing after
that. -/
theorem executes_taskResult {taskId : Text} {result : Except QrmiError Text}
    (executes : (taskResult codecs taskId).Executes before trace result after) :
    ∃ earlier later observed, trace = earlier ++ later ∧
      StatusOutcome codecs before taskId earlier observed after := by
  unfold taskResult at executes
  rw [Method.executes_self_bind_iff] at executes
  cases handle : before.task taskId with
  | error error =>
      rw [handle, Method.executes_ofExcept_bind_error_iff] at executes
      obtain ⟨rfl, rfl, rfl⟩ := executes
      exact ⟨[], [], _, rfl, .rejected handle⟩
  | ok task =>
      rw [handle, Method.executes_ofExcept_bind_ok_iff] at executes
      rcases Method.executes_bind_iff.mp executes with ⟨error, rfl, failed⟩ |
        ⟨earlier, rest, status, middle, rfl, observed, decided⟩
      · exact ⟨trace, [], _, by simp, executes_taskStatus failed⟩
      have outcome := executes_taskStatus observed
      refine ⟨earlier, rest, .ok status, rfl, ?_⟩
      by_cases completed : status = .completed
      · rw [if_neg (not_not_intro completed)] at decided
        rcases Method.executes_bind_iff.mp decided with ⟨_, -, failed⟩ |
          ⟨_, _, _, _, -, present, fetching⟩
        · obtain ⟨_, -, rfl, -⟩ := executes_ensureTaskExists failed
          exact outcome
        obtain ⟨_, -, rfl, -⟩ := executes_ensureTaskExists present
        rcases Method.executes_bind_iff.mp fetching with ⟨_, -, failed⟩ |
          ⟨_, _, _, _, -, fetched, reported⟩
        · obtain ⟨_, -, impossible, -⟩ := executes_taskCall_iff.mp failed
          cases impossible
        obtain ⟨_, -, -, rfl⟩ := executes_taskCall_iff.mp fetched
        obtain ⟨rfl, -⟩ := executes_taskResponse reported
        exact outcome
      · rw [if_pos completed] at decided
        obtain ⟨-, -, rfl⟩ := Method.executes_throw_iff.mp decided
        exact outcome

end MaestroLocal

end Maestro
