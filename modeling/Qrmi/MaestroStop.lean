import Qrmi.MaestroTenancy

/-!
# Stopping a Maestro task

A cancellation is sent at most once, after the task was seen active in the same
call.  A success means that the end of the task is remembered, and a cancellation
that changed nothing is reported and remembers nothing.
-/

namespace Maestro

open Interaction

/-- A request to cancel some task. -/
def Cancels (event : Exchange) : Prop :=
  ∃ task : Task, event.1 = task.command .cancel

namespace MaestroLocal

variable {codecs : Codecs} {before after : MaestroLocal} {taskId : Text}
variable {trace : List Exchange}

/-- Whether a terminal status is remembered for a task. -/
def RemembersEnd (resource : MaestroLocal) (task : Task) : Prop :=
  ∃ status, resource.terminalTasks.get task.key = some status ∧
    status.isTerminal = true

theorem not_cancels_of_observing {event : Exchange} (observing : Observing event) :
    ¬ Cancels event := by
  rintro ⟨task, cancels⟩
  cases observing with
  | query other verb known reply =>
      have same : verb = .cancel := by
        injection cancels
      rw [same] at known
      exact absurd known (by decide)
  | logs session id reply => cases cancels

/-- A status query cancels nothing. -/
theorem not_cancels_of_taskStatus {result : Except QrmiError TaskStatus}
    (executes : (taskStatus codecs taskId).Executes before trace result after) :
    ∀ event ∈ trace, ¬ Cancels event := fun event member =>
  not_cancels_of_observing ((observes_taskStatus taskId).event_of_executes executes event member)

/-- A status query neither replaces the session nor answers for another task. -/
theorem task_of_taskStatus {result : Except QrmiError TaskStatus}
    (executes : (taskStatus codecs taskId).Executes before trace result after) :
    after.task taskId = before.task taskId := by
  cases executes_taskStatus executes with
  | rejected invalid => rfl
  | remembered handle cached => rfl
  | observed client handle absent observation =>
      cases result with
      | error error => rfl
      | ok status =>
          by_cases terminal : status.isTerminal
          · rw [noteStatus, if_pos terminal]
            rfl
          · rw [noteStatus, if_neg terminal]
            rfl

/-- A terminal status that was returned is remembered. -/
theorem remembersEnd_of_taskStatus {status : TaskStatus} {task : Task}
    (handle : before.task taskId = .ok task) (terminal : status.isTerminal = true)
    (executes : (taskStatus codecs taskId).Executes before trace (.ok status) after) :
    after.RemembersEnd task := by
  cases executes_taskStatus executes with
  | remembered sameHandle cached =>
      cases handle.symm.trans sameHandle
      exact ⟨status, cached, terminal⟩
  | observed client sameHandle absent observation =>
      cases handle.symm.trans sameHandle
      refine ⟨status, ?_, terminal⟩
      rw [noteStatus, if_pos terminal]
      exact KeyedStore.get_insert_self _ _ _

theorem not_endsTerminal_of_active {status : TaskStatus}
    (active : status.isTerminal = false) : ¬ EndsTerminal (.ok status) := by
  rintro ⟨other, same, terminal⟩
  cases same
  rw [active] at terminal
  cases terminal

/-- Nothing is remembered of a query that did not find the task ended. -/
theorem terminalTasks_of_taskStatus {result : Except QrmiError TaskStatus}
    (active : ¬ EndsTerminal result)
    (executes : (taskStatus codecs taskId).Executes before trace result after) :
    after.terminalTasks = before.terminalTasks := by
  cases executes_taskStatus executes with
  | rejected invalid => rfl
  | remembered handle cached => rfl
  | observed client handle absent observation =>
      cases result with
      | error error => rfl
      | ok status =>
          have running : ¬ status.isTerminal := fun terminal => active ⟨status, rfl, terminal⟩
          rw [noteStatus, if_neg running]
          rfl

/-- What a call of `task_stop` did around a cancellation that it sent. -/
structure Cancellation (codecs : Codecs) (before : MaestroLocal) (taskId : Text)
    (earlier : List Exchange) (event : Exchange) (later : List Exchange)
    (result : Except QrmiError Unit) (after : MaestroLocal) : Prop where
  only : ∀ other ∈ earlier ++ later, ¬ Cancels other
  active : ∃ task status middle, before.task taskId = .ok task ∧
    event.1 = task.command .cancel ∧
    (taskStatus codecs taskId).Executes before earlier (.ok status) middle ∧
    status.isTerminal = false ∧
    (event.2.acknowledgement ≠ some true →
      ∃ followUp, (taskStatus codecs taskId).Executes middle later followUp after ∧
        (¬ EndsTerminal followUp →
          (∃ error, result = .error error) ∧ after.terminalTasks = before.terminalTasks))

theorem StopOutcome.cancellation {result : Except QrmiError Unit}
    {earlier later : List Exchange} {event : Exchange}
    (outcome : StopOutcome codecs before taskId (earlier ++ event :: later) result after)
    (isCancel : Cancels event) :
    Cancellation codecs before taskId earlier event later result after := by
  have isMember : event ∈ earlier ++ event :: later := by simp
  -- A cancellation between two stretches without one is found in one way only.
  have located {front back : List Exchange} {sent : Exchange}
      (same : earlier ++ event :: later = front ++ sent :: back)
      (inFront : ∀ other ∈ front, ¬ Cancels other)
      (inBack : ∀ other ∈ back, ¬ Cancels other) :
      front = earlier ∧ sent = event ∧ back = later :=
    (List.append_cons_inj_of_notMem (fun member => inFront event member isCancel)
      fun member => inBack event member isCancel).mp same.symm
  generalize whole : earlier ++ event :: later = trace at outcome isMember
  cases outcome with
  | rejected invalid => cases isMember
  | unobserved observed =>
      exact absurd isCancel (not_cancels_of_taskStatus observed event isMember)
  | finished handle terminal observed =>
      exact absurd isCancel (not_cancels_of_taskStatus observed event isMember)
  | acknowledged handle active observed answered =>
      have noneEarlier := not_cancels_of_taskStatus observed
      obtain ⟨rfl, rfl, rfl⟩ := located whole noneEarlier (List.forall_mem_nil _)
      refine ⟨by simpa using noneEarlier, _, _, _, handle, answered.1, observed, active, ?_⟩
      intro refused
      exact absurd answered.2 refused
  | unacknowledged handle active observed asked unanswered followed reports =>
      have noneEarlier := not_cancels_of_taskStatus observed
      have noneLater := not_cancels_of_taskStatus followed
      obtain ⟨rfl, rfl, rfl⟩ := located whole noneEarlier noneLater
      constructor
      · intro other member
        rcases List.mem_append.mp member with inEarlier | inLater
        · exact noneEarlier other inEarlier
        · exact noneLater other inLater
      · refine ⟨_, _, _, handle, asked, observed, active, fun _ => ⟨_, followed, ?_⟩⟩
        intro stillActive
        constructor
        · cases result with
          | error error => exact ⟨error, rfl⟩
          | ok done => exact absurd (reports.mp rfl) stillActive
        · have unchanged := terminalTasks_of_taskStatus stillActive followed
          exact unchanged.trans
            (terminalTasks_of_taskStatus (not_endsTerminal_of_active active) observed)

/-- `task_stop` answers with a success only when the end of the task is remembered. -/
theorem StopOutcome.remembersEnd
    (outcome : StopOutcome codecs before taskId trace (.ok ()) after) :
    ∃ task, before.task taskId = .ok task ∧ after.RemembersEnd task := by
  cases outcome with
  | finished handle terminal observed =>
      exact ⟨_, handle, remembersEnd_of_taskStatus handle terminal observed⟩
  | acknowledged handle active observed answered =>
      exact ⟨_, handle, _, KeyedStore.get_insert_self _ _ _, rfl⟩
  | unacknowledged handle active observed asked unanswered followed reports =>
      obtain ⟨status, rfl, terminal⟩ := reports.mp rfl
      have sameHandle := (task_of_taskStatus observed).trans handle
      exact ⟨_, handle, remembersEnd_of_taskStatus sameHandle terminal followed⟩

theorem taskCall_returns {α : Type} {call : String → Dialogue α}
    (total : ∀ socket, (call socket).Total) : (taskCall call).Returns :=
  Method.returns_self.bind fun _ => Method.returns_lift (total _)

theorem acknowledge_total {socket : String} {command : Command}
    {failure unexpected : String} :
    (acknowledge socket command failure unexpected).Total := by
  have sends : (sendCommandAt socket command).Total :=
    (Program.total_question _).bind fun _ => Program.total_pure _
  apply sends.bind
  intro response
  cases response <;> exact Program.total_pure _

theorem taskResponse_returns {α : Type} (task : Task) (operation : String)
    (response : Except String α) : (taskResponse task operation response).Returns := by
  cases response with
  | ok value => exact Method.returns_pure value
  | error error =>
      refine (taskCall_returns fun _ => acknowledge_total).bind fun check => ?_
      split <;> exact Method.returns_throw _

theorem serverTaskStatus_returns (task : Task) : (serverTaskStatus task).Returns := by
  have present : (ensureTaskExists task).Returns := by
    refine (taskCall_returns fun _ => acknowledge_total).bind fun check => ?_
    split
    · exact Method.returns_throw _
    · exact Method.returns_pure _
    · exact Method.returns_throw _
  have query {β : Type} {operation : String}
      {call : String → Dialogue (Except String Bool)} {next : Bool → LocalMethod β}
      (total : ∀ socket, (call socket).Total) (rest : ∀ flag, (next flag).Returns) :
      Method.Returns (do
        let response ← taskCall call
        let flag ← taskResponse task operation response
        next flag : LocalMethod β) :=
    (taskCall_returns total).bind fun response =>
      (taskResponse_returns task operation response).bind rest
  unfold serverTaskStatus
  refine present.bind fun _ => query (fun _ => acknowledge_total) fun hasFailed => ?_
  split
  · exact Method.returns_pure _
  refine query (fun _ => acknowledge_total) fun hasFinished => ?_
  split
  · exact query (fun _ => acknowledge_total) fun _ => Method.returns_pure _
  · exact query (fun _ => acknowledge_total) fun _ => Method.returns_pure _

theorem cancellationRecorded_returns (task : Task) :
    (cancellationRecorded codecs task).Returns := by
  have calls {document : Json} {parse : Text → Except RequestError Json} :
      (RequestClient.callWith codecs.json document parse).Returns := by
    unfold RequestClient.callWith
    split
    · exact Method.returns_throw _
    · refine (Method.returns_lift (Program.total_question _)).bind fun reply => ?_
      exact (Method.returns_modify _).bind fun _ => Method.returns_ofExcept _
  have asks : (RequestClient.logs codecs.json task.sessionId task.id).Returns :=
    calls.bind fun _ => Method.returns_pure _
  unfold cancellationRecorded
  have requests : (nativeApi
      (RequestClient.logs codecs.json task.sessionId task.id)).Returns :=
    asks.zoom.attempt.bind fun outcome => Method.returns_ofExcept _
  refine requests.attempt.bind fun outcome => ?_
  split <;> exact Method.returns_pure _

theorem taskStatus_returns (taskId : Text) : (taskStatus codecs taskId).Returns := by
  have observes (task : Task) : (observedTaskStatus codecs task).Returns := by
    refine (serverTaskStatus_returns task).attempt.bind fun outcome => ?_
    split
    · refine (cancellationRecorded_returns task).bind fun recorded => ?_
      split
      · exact Method.returns_pure _
      · exact Method.returns_throw _
    · exact Method.returns_ofExcept _
  refine Method.returns_self.bind fun resource => ?_
  refine (Method.returns_ofExcept _).bind fun task => ?_
  split
  · exact Method.returns_pure _
  · refine (observes task).bind fun status => ?_
    dsimp only
    split
    · exact (Method.returns_modify _).bind fun _ => Method.returns_pure _
    · exact Method.returns_pure _

/-- The panic is behind an acknowledged cancellation. -/
theorem stopOutcome_returns {response : Except String Bool}
    {followUp : Except QrmiError TaskStatus} (unacknowledged : response ≠ .ok true) :
    (stopOutcome taskId response followUp).Returns := by
  unfold stopOutcome
  split
  iterate 3 exact Method.returns_pure _
  · exact Method.returns_throw _
  · split
    · exact Method.returns_throw _
    · exact Method.returns_throw _
    · exact absurd rfl unacknowledged

theorem taskStop_returns (codecs : Codecs) (taskId : Text) :
    (taskStop codecs taskId).Returns := by
  refine Method.returns_self.bind fun resource => ?_
  refine (Method.returns_ofExcept _).bind fun task => ?_
  refine (taskStatus_returns taskId).bind fun status => ?_
  split
  · exact Method.returns_pure _
  refine (taskCall_returns fun _ => acknowledge_total).bind fun response => ?_
  split
  · exact Method.returns_modify _
  · rename_i unacknowledged
    refine (taskStatus_returns taskId).attempt.bind fun followUp => ?_
    exact stopOutcome_returns fun acknowledged => unacknowledged acknowledged

/-- `task_stop` never reaches its panic, remembers the end of every task that it
reports as stopped, and cancels once, after an active status of the same call. -/
theorem taskStop_exact (codecs : Codecs) (taskId : Text) :
    (taskStop codecs taskId).Returns ∧
      ∀ before trace result after,
        (taskStop codecs taskId).Executes before trace result after →
          (result = .ok () →
            ∃ task, before.task taskId = .ok task ∧ after.RemembersEnd task) ∧
          ∀ earlier event later, trace = earlier ++ event :: later → Cancels event →
            Cancellation codecs before taskId earlier event later result after := by
  refine ⟨taskStop_returns codecs taskId, ?_⟩
  intro before trace result after executes
  have outcome := executes_taskStop executes
  constructor
  · rintro rfl
    exact outcome.remembersEnd
  · rintro earlier event later rfl isCancel
    exact outcome.cancellation isCancel

namespace Observed

/-- A status query that finds the task running. -/
def runs : List Exchange :=
  [⟨task.command .exists, .ok "OK YES".toList⟩,
    ⟨task.command .failed, .ok "OK NO".toList⟩,
    ⟨task.command .finished, .ok "OK NO".toList⟩,
    ⟨task.command .running, .ok "OK YES".toList⟩]

def refusal : Exchange :=
  ⟨task.command .cancel, .ok "OK NO".toList⟩

theorem executes_refused :
    (taskStop codecs "1".toList).Executes start (runs ++ refusal :: runs)
      (.error (.other "Maestro refused to cancel active task 1")) start :=
  .ask (.ask (.ask (.ask (.ask (.ask (.ask (.ask (.ask (.done _)))))))))

end Observed

theorem taskStop_exact_refused :
    Cancellation Observed.codecs Observed.start "1".toList Observed.runs Observed.refusal
      Observed.runs (.error (.other "Maestro refused to cancel active task 1"))
      Observed.start :=
  ((taskStop_exact Observed.codecs "1".toList).2 _ _ _ _ Observed.executes_refused).2
    _ _ _ rfl ⟨Observed.task, rfl⟩

end MaestroLocal

end Maestro
