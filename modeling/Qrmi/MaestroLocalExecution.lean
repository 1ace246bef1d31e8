import Mathlib.Data.List.Forall2
import Qrmi.MaestroLocal

/-!
# Executing the queries of the Maestro Local resource

What the pieces of the task operations exchange, return and change.  Native
requests touch the request client only, and legacy queries touch nothing, so a
query leaves the session and the remembered statuses alone whatever the server
answers.
-/

namespace Maestro

open Interaction

/-- An exchange in which the server acknowledged a task command with the given
value. -/
def Task.Answered (task : Task) (verb : TaskVerb) (value : Bool)
    (event : Exchange) : Prop :=
  event.1 = task.command verb ∧ event.2.acknowledgement = some value

namespace MaestroLocal

@[simp]
theorem withClient_sessionId (resource : MaestroLocal)
    (client : RequestClient) :
    (resource.withClient client).sessionId = resource.sessionId :=
  rfl

@[simp]
theorem withClient_terminalTasks (resource : MaestroLocal)
    (client : RequestClient) :
    (resource.withClient client).terminalTasks = resource.terminalTasks :=
  rfl

@[simp]
theorem withClient_requestClient (resource : MaestroLocal)
    (client : RequestClient) :
    (resource.withClient client).requestClient = client :=
  rfl

@[simp]
theorem withClient_withClient (resource : MaestroLocal)
    (first second : RequestClient) :
    (resource.withClient first).withClient second =
      resource.withClient second :=
  rfl

@[simp]
theorem withClient_self (resource : MaestroLocal) :
    resource.withClient resource.requestClient = resource :=
  rfl

@[simp]
theorem task_withClient (resource : MaestroLocal) (client : RequestClient)
    (taskId : Text) :
    (resource.withClient client).task taskId = resource.task taskId :=
  rfl

/-- A task handle is obtained from a valid id and the held session. -/
theorem task_eq_ok_iff {resource : MaestroLocal} {taskId : Text}
    {task : Task} :
    resource.task taskId = .ok task ↔
      Text.parseU32 taskId = some task.id ∧
        resource.sessionId = some task.sessionId := by
  cases task with
  | mk id session =>
      unfold MaestroLocal.task getSessionId
      cases parsed : Text.parseU32 taskId with
      | none => simp
      | some number =>
          cases held : resource.sessionId with
          | none => simp [Except.map]
          | some holder => simp [Except.map]

variable {α : Type} {before after : MaestroLocal} {trace : List Exchange}

/-- A legacy exchange leaves the resource alone. -/
@[simp]
theorem executes_taskCall_iff {call : String → Dialogue α}
    {result : Except QrmiError α} :
    (taskCall call).Executes before trace result after ↔
      ∃ value, (call before.requestClient.socket).Runs trace value ∧
        result = .ok value ∧ after = before := by
  simp [taskCall]

/-- A native request changes at most the request client. -/
theorem executes_nativeApi_iff {operation : ClientMethod α}
    {result : Except QrmiError α} :
    (nativeApi operation).Executes before trace result after ↔
      ∃ outcome client,
        operation.Executes before.requestClient trace outcome client ∧
        result = outcome.mapError nativeError ∧
        after = before.withClient client := by
  unfold nativeApi
  rw [Method.executes_bind_iff]
  simp only [Method.executes_attempt_iff, Method.executes_zoom_iff,
    Method.executes_ofExcept_iff]
  constructor
  · rintro (⟨error, -, _, impossible, -⟩ |
      ⟨first, second, outcome, middle, rfl, ⟨_, equal, client, rfl, ran⟩,
        rfl, rfl, rfl⟩)
    · cases impossible
    · cases equal
      exact ⟨outcome, client, by simpa using ran, rfl, rfl⟩
  · rintro ⟨outcome, client, ran, rfl, rfl⟩
    exact .inr ⟨trace, [], outcome, before.withClient client, by simp,
      ⟨outcome, rfl, client, rfl, ran⟩, rfl, rfl, rfl⟩

/-- The error of a query is decided by an existence check: a task that is
confirmed missing is not found, anything else is an unclassified failure. -/
def CheckedError (check : Reply) (task : Task) (error : QrmiError) : Prop :=
  (check.acknowledgement = some false ∧
      error = .taskNotFound (toString task.id)) ∨
    (check.acknowledgement ≠ some false ∧ ∃ message, error = .other message)

theorem executes_ensureTaskExists {task : Task}
    {result : Except QrmiError Unit}
    (executes : (ensureTaskExists task).Executes before trace result after) :
    ∃ check, trace = [⟨task.command .exists, check⟩] ∧ after = before ∧
      ((check.acknowledgement = some true ∧ result = .ok ()) ∨
        ∃ error, result = .error error ∧ CheckedError check task error) := by
  unfold ensureTaskExists taskExists at executes
  simp only [Method.executes_bind_iff, executes_taskCall_iff] at executes
  rcases executes with ⟨error, rfl, _, -, impossible, -⟩ |
    ⟨first, second, response, middle, rfl, ⟨_, asked, equal, rfl⟩, rest⟩
  · cases impossible
  · cases equal
    obtain ⟨check, rfl, meaning⟩ := asks_acknowledge asked
    refine ⟨check, ?_⟩
    cases response with
    | error message =>
        obtain ⟨rfl, rfl, rfl⟩ := Method.executes_throw_iff.mp rest
        have unknown : check.acknowledgement ≠ some false := by
          rw [ne_eq, ← meaning]
          simp
        exact ⟨rfl, rfl, .inr ⟨_, rfl, .inr ⟨unknown, _, rfl⟩⟩⟩
    | ok present =>
        have acknowledged := (meaning present).mp rfl
        cases present with
        | true =>
            obtain ⟨rfl, rfl, rfl⟩ := Method.executes_pure_iff.mp rest
            exact ⟨rfl, rfl, .inl ⟨acknowledged, rfl⟩⟩
        | false =>
            obtain ⟨rfl, rfl, rfl⟩ := Method.executes_throw_iff.mp rest
            exact ⟨rfl, rfl, .inr ⟨_, rfl, .inl ⟨acknowledged, rfl⟩⟩⟩

theorem executes_taskResponse {task : Task} {operation : String}
    {response : Except String α} {result : Except QrmiError α}
    (executes : (taskResponse task operation response).Executes
      before trace result after) :
    after = before ∧
      ((∃ value, response = .ok value ∧ trace = [] ∧ result = .ok value) ∨
        ∃ message check error, response = .error message ∧
          trace = [⟨task.command .exists, check⟩] ∧ result = .error error ∧
          CheckedError check task error) := by
  cases response with
  | ok value =>
      obtain ⟨rfl, rfl, rfl⟩ := Method.executes_pure_iff.mp executes
      exact ⟨rfl, .inl ⟨value, rfl, rfl, rfl⟩⟩
  | error message =>
      simp only [taskResponse, taskExists, Method.executes_bind_iff,
        executes_taskCall_iff] at executes
      rcases executes with ⟨error, rfl, _, -, impossible, -⟩ |
        ⟨first, second, present, middle, rfl, ⟨_, asked, equal, rfl⟩, rest⟩
      · cases impossible
      · cases equal
        obtain ⟨check, rfl, meaning⟩ := asks_acknowledge asked
        have missing := meaning false
        split at rest
        · obtain ⟨rfl, rfl, rfl⟩ := Method.executes_throw_iff.mp rest
          exact ⟨rfl, .inr ⟨message, check, _, rfl, rfl, rfl,
            .inl ⟨missing.mp rfl, rfl⟩⟩⟩
        · rename_i present notMissing
          obtain ⟨rfl, rfl, rfl⟩ := Method.executes_throw_iff.mp rest
          exact ⟨rfl, .inr ⟨message, check, _, rfl, rfl, rfl,
            .inr ⟨fun no => notMissing (missing.mpr no), _, rfl⟩⟩⟩

/-- A query either goes on with the acknowledged flag or ends with the error
that an existence check decides. -/
theorem executes_query {β : Type} {task : Task} {verb : TaskVerb}
    {operation : String} {call : String → Dialogue (Except String Bool)}
    {next : Bool → LocalMethod β} {result : Except QrmiError β}
    (asks : ∀ socket, Asks (task.command verb) (call socket))
    (executes : (do
      let response ← taskCall call
      let flag ← taskResponse task operation response
      next flag : LocalMethod β).Executes before trace result after) :
    (∃ event flag rest, trace = event :: rest ∧
        task.Answered verb flag event ∧
        (next flag).Executes before rest result after) ∨
      ∃ reply check error,
        trace = [⟨task.command verb, reply⟩, ⟨task.command .exists, check⟩] ∧
        reply.acknowledgement = none ∧ after = before ∧
        result = .error error ∧ CheckedError check task error := by
  simp only [Method.executes_bind_iff, executes_taskCall_iff] at executes
  rcases executes with ⟨error, rfl, _, -, impossible, -⟩ |
    ⟨first, second, response, middle, rfl, ⟨_, asked, equal, rfl⟩, rest⟩
  · cases impossible
  · cases equal
    obtain ⟨reply, rfl, meaning⟩ := asks _ asked
    rcases rest with ⟨error, rfl, failed⟩ |
      ⟨none, continued, flag, middle, rfl, answered, rest⟩
    · obtain ⟨rfl, ⟨_, -, -, impossible⟩ |
        ⟨message, check, _, rfl, rfl, equal, checked⟩⟩ :=
        executes_taskResponse failed
      · cases impossible
      · cases equal
        have unanswered : reply.acknowledgement = none := by
          cases held : reply.acknowledgement with
          | none => rfl
          | some value => simpa using (meaning value).mpr held
        exact .inr ⟨reply, check, error, rfl, unanswered, rfl, rfl, checked⟩
    · obtain ⟨rfl, ⟨_, rfl, rfl, equal⟩ | ⟨_, _, _, -, -, impossible, -⟩⟩ :=
        executes_taskResponse answered
      · cases equal
        exact .inl ⟨_, flag, continued, rfl,
          ⟨rfl, (meaning flag).mp rfl⟩, rest⟩
      · cases impossible

/-- The acknowledged flags from which a status is concluded. -/
inductive Concludes : List (TaskVerb × Bool) → TaskStatus → Prop
  | failed : Concludes [(.exists, true), (.failed, true)] .failed
  | lateFailed :
      Concludes [(.exists, true), (.failed, false), (.finished, true),
        (.failed, true)] .failed
  | completed :
      Concludes [(.exists, true), (.failed, false), (.finished, true),
        (.failed, false)] .completed
  | running :
      Concludes [(.exists, true), (.failed, false), (.finished, false),
        (.running, true)] .running
  | queued :
      Concludes [(.exists, true), (.failed, false), (.finished, false),
        (.running, false)] .queued

/-- A trace in which every question was acknowledged with the given flag. -/
def Transcribes (task : Task) (flags : List (TaskVerb × Bool))
    (trace : List Exchange) : Prop :=
  List.Forall₂ (fun flag event => task.Answered flag.1 flag.2 event)
    flags trace

/-- The two ways in which a status query can fail, by its last exchange. -/
def QueryFails (task : Task) (trace : List Exchange) (error : QrmiError) :
    Prop :=
  ∃ earlier check, trace = earlier ++ [⟨task.command .exists, check⟩] ∧
    (∀ event ∈ earlier, ¬ task.Answered .exists false event) ∧
    CheckedError check task error

theorem verb_eq_of_answered {task : Task} {first second : TaskVerb}
    {one other : Bool} {event : Exchange}
    (firstAnswer : task.Answered first one event)
    (secondAnswer : task.Answered second other event) :
    first = second ∧ one = other := by
  obtain ⟨asked, acknowledged⟩ := firstAnswer
  obtain ⟨askedToo, acknowledgedToo⟩ := secondAnswer
  constructor
  · simpa [Task.command] using asked.symm.trans askedToo
  · simpa using acknowledged.symm.trans acknowledgedToo

theorem QueryFails.cons {task : Task} {event : Exchange}
    {error : QrmiError} {verb : TaskVerb} {flag : Bool}
    (answered : task.Answered verb flag event)
    (notMissing : ¬ (verb = .exists ∧ flag = false))
    (fails : QueryFails task trace error) :
    QueryFails task (event :: trace) error := by
  obtain ⟨earlier, check, rfl, present, checked⟩ := fails
  refine ⟨event :: earlier, check, rfl, fun other member missing => ?_, checked⟩
  rcases List.mem_cons.mp member with rfl | inEarlier
  · exact notMissing (verb_eq_of_answered answered missing)
  · exact present other inEarlier missing

theorem queryFails_of_unanswered {task : Task} {verb : TaskVerb}
    {reply check : Reply} {error : QrmiError}
    (unanswered : reply.acknowledgement = none)
    (checked : CheckedError check task error) :
    QueryFails task
      [⟨task.command verb, reply⟩, ⟨task.command .exists, check⟩] error := by
  refine ⟨[⟨task.command verb, reply⟩], check, rfl, fun event member => ?_,
    checked⟩
  rw [List.mem_singleton.mp member]
  rintro ⟨-, acknowledged⟩
  simp [unanswered] at acknowledged

/-- A status query returns the status concluded from its acknowledged flags, or
fails on an existence check. -/
theorem executes_serverTaskStatus {task : Task}
    {result : Except QrmiError TaskStatus}
    (executes : (serverTaskStatus task).Executes before trace result after) :
    after = before ∧
      ((∃ flags status, Concludes flags status ∧
          Transcribes task flags trace ∧ result = .ok status) ∨
        ∃ error, result = .error error ∧ QueryFails task trace error) := by
  unfold serverTaskStatus at executes
  rw [Method.executes_bind_iff] at executes
  rcases executes with ⟨error, rfl, missing⟩ |
    ⟨first, rest, _, middle, rfl, present, executes⟩
  · obtain ⟨check, rfl, rfl, ⟨-, impossible⟩ | ⟨_, equal, checked⟩⟩ :=
      executes_ensureTaskExists missing
    · cases impossible
    · cases equal
      exact ⟨rfl, .inr ⟨error, rfl, [], check, rfl, by simp, checked⟩⟩
  obtain ⟨check, rfl, rfl, ⟨acknowledged, -⟩ | ⟨_, impossible, -⟩⟩ :=
    executes_ensureTaskExists present
  case inr => cases impossible
  have existing : task.Answered .exists true ⟨task.command .exists, check⟩ :=
    ⟨rfl, acknowledged⟩
  rw [List.singleton_append]
  rcases executes_query (fun _ => asks_acknowledge) executes with
    ⟨failedEvent, hasFailed, rest, rfl, failed, executes⟩ |
    ⟨reply, check, error, rfl, unanswered, rfl, rfl, checked⟩
  case inr =>
    exact ⟨rfl, .inr ⟨error, rfl,
      (queryFails_of_unanswered unanswered checked).cons existing (by simp)⟩⟩
  cases hasFailed with
  | true =>
      obtain ⟨rfl, rfl, rfl⟩ := Method.executes_pure_iff.mp executes
      exact ⟨rfl, .inl ⟨_, _, .failed,
        .cons existing (.cons failed .nil), rfl⟩⟩
  | false =>
      simp only [Bool.false_eq_true, if_false] at executes
      rcases executes_query (fun _ => asks_acknowledge) executes with
        ⟨finishedEvent, hasFinished, rest, rfl, finished, executes⟩ |
        ⟨reply, check, error, rfl, unanswered, rfl, rfl, checked⟩
      case inr =>
        exact ⟨rfl, .inr ⟨error, rfl,
          ((queryFails_of_unanswered unanswered checked).cons failed
            (by simp)).cons existing (by simp)⟩⟩
      cases hasFinished with
      | true =>
          simp only [if_true] at executes
          rcases executes_query (fun _ => asks_acknowledge) executes with
            ⟨lateEvent, hasFailed, rest, rfl, late, executes⟩ |
            ⟨reply, check, error, rfl, unanswered, rfl, rfl, checked⟩
          case inr =>
            exact ⟨rfl, .inr ⟨error, rfl,
              (((queryFails_of_unanswered unanswered checked).cons finished
                (by simp)).cons failed (by simp)).cons existing (by simp)⟩⟩
          obtain ⟨rfl, rfl, rfl⟩ := Method.executes_pure_iff.mp executes
          have transcript : Transcribes task [(.exists, true),
              (.failed, false), (.finished, true), (.failed, hasFailed)] _ :=
            .cons existing (.cons failed (.cons finished (.cons late .nil)))
          cases hasFailed with
          | true => exact ⟨rfl, .inl ⟨_, _, .lateFailed, transcript, rfl⟩⟩
          | false => exact ⟨rfl, .inl ⟨_, _, .completed, transcript, rfl⟩⟩
      | false =>
          simp only [Bool.false_eq_true, if_false] at executes
          rcases executes_query (fun _ => asks_acknowledge) executes with
            ⟨runningEvent, isRunning, rest, rfl, running, executes⟩ |
            ⟨reply, check, error, rfl, unanswered, rfl, rfl, checked⟩
          case inr =>
            exact ⟨rfl, .inr ⟨error, rfl,
              (((queryFails_of_unanswered unanswered checked).cons finished
                (by simp)).cons failed (by simp)).cons existing (by simp)⟩⟩
          obtain ⟨rfl, rfl, rfl⟩ := Method.executes_pure_iff.mp executes
          have transcript : Transcribes task [(.exists, true),
              (.failed, false), (.finished, false), (.running, isRunning)] _ :=
            .cons existing (.cons failed (.cons finished (.cons running .nil)))
          cases isRunning with
          | true => exact ⟨rfl, .inl ⟨_, _, .running, transcript, rfl⟩⟩
          | false => exact ⟨rfl, .inl ⟨_, _, .queued, transcript, rfl⟩⟩

end MaestroLocal

end Maestro
