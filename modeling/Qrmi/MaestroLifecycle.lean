import Qrmi.InteractionServer
import Qrmi.MaestroTerminalTasks

/-!
# Status queries against a moving task

A status is assembled from several exchanges while the task goes through its
lifecycle.  The status that is returned was current at some instant of the
query, with one exception: the answers that a task is neither finished nor
running do not show that it is still queued, since a task that was already
running can finish between the two questions.
-/

namespace Maestro

open Interaction

/-- The phases of a task at the server.  A failure becomes visible in the
failed flag no later than in the finished flag. -/
inductive Phase
  | queued
  | running
  | failing
  | failed
  | succeeded
  | cancelled
  deriving DecidableEq

/-- A task at the server. -/
structure ServerTask where
  phase : Phase
  present : Bool
  deriving DecidableEq

namespace ServerTask

def hasFailed (task : ServerTask) : Bool :=
  task.phase == .failing || task.phase == .failed

def hasFinished (task : ServerTask) : Bool :=
  task.phase == .failed || task.phase == .succeeded

/-- The status of a task at an instant.  A removed task has none, but its
cancellation stays on record. -/
def status : ServerTask → Option TaskStatus
  | ⟨.cancelled, _⟩ => some .cancelled
  | ⟨_, false⟩ => none
  | ⟨.queued, true⟩ => some .queued
  | ⟨.running, true⟩ => some .running
  | ⟨.failing, true⟩ | ⟨.failed, true⟩ => some .failed
  | ⟨.succeeded, true⟩ => some .completed

/-- The transitions of a task. -/
inductive Advances : ServerTask → ServerTask → Prop
  | starts : Advances ⟨.queued, true⟩ ⟨.running, true⟩
  | succeeds : Advances ⟨.running, true⟩ ⟨.succeeded, true⟩
  | fails : Advances ⟨.running, true⟩ ⟨.failing, true⟩
  | settles : Advances ⟨.failing, true⟩ ⟨.failed, true⟩
  | failsAtOnce : Advances ⟨.running, true⟩ ⟨.failed, true⟩
  | isCancelled {phase : Phase}
      (active : phase = .queued ∨ phase = .running) :
      Advances ⟨phase, true⟩ ⟨.cancelled, false⟩
  | isRemoved {phase : Phase} : Advances ⟨phase, true⟩ ⟨phase, false⟩

/-- The flags that the server acknowledges.  Flags of a removed task are not
acknowledged at all. -/
def Answers (task : ServerTask) : TaskVerb → Bool → Prop
  | .exists, value => value = task.present
  | .failed, value => task.present = true ∧ value = task.hasFailed
  | .finished, value => task.present = true ∧ value = task.hasFinished
  | .running, value => task.present = true ∧
      (task.phase = .failing ∨ value = (task.phase == .running))
  | _, _ => True

/-- What no transition undoes. -/
structure Precedes (first second : ServerTask) : Prop where
  hasFailed : first.hasFailed = true → second.hasFailed = true
  hasFinished : first.hasFinished = true → second.hasFinished = true
  queued : second.phase = .queued → first.phase = .queued
  present : second.present = true → first.present = true
  succeeded : first.phase = .succeeded → second.phase = .succeeded

theorem Precedes.refl (task : ServerTask) : Precedes task task :=
  ⟨id, id, id, id, id⟩

theorem Precedes.trans {first second third : ServerTask}
    (before : Precedes first second) (after : Precedes second third) :
    Precedes first third where
  hasFailed failed := after.hasFailed (before.hasFailed failed)
  hasFinished finished := after.hasFinished (before.hasFinished finished)
  queued queued := before.queued (after.queued queued)
  present present := before.present (after.present present)
  succeeded succeeded := after.succeeded (before.succeeded succeeded)

theorem Advances.precedes {first second : ServerTask}
    (advances : Advances first second) : Precedes first second := by
  cases advances with
  | isCancelled active =>
      rcases active with rfl | rfl <;> constructor <;> decide
  | isRemoved => exact ⟨id, id, id, fun _ => rfl, id⟩
  | starts => constructor <;> decide
  | succeeds => constructor <;> decide
  | fails => constructor <;> decide
  | settles => constructor <;> decide
  | failsAtOnce => constructor <;> decide

/-- A task fails out of its running phase. -/
theorem Advances.eq_running {first second : ServerTask}
    (advances : Advances first second) (notYet : ¬ first.hasFailed = true)
    (failed : second.hasFailed = true) : first = ⟨.running, true⟩ := by
  cases advances with
  | starts => cases failed
  | succeeds => cases failed
  | fails => rfl
  | settles => exact (notYet rfl).elim
  | failsAtOnce => rfl
  | isCancelled active => cases failed
  | isRemoved => exact (notYet failed).elim

end ServerTask

/-- A server that lets one task go through its lifecycle and acknowledges only
true flags about it.  It may also leave any question without acknowledgement,
and it answers all other questions as it likes. -/
def lifecycle (codecs : Codecs) (task : Task) :
    Server Command (fun _ => Reply) ServerTask where
  moves := ServerTask.Advances
  serves world command reply next :=
    next = world ∧
      (∀ verb value, command = task.command verb →
        reply.acknowledgement = some value → world.Answers verb value) ∧
      (command = .api (logsDocument task.sessionId task.id) →
        recordsCancellation codecs reply = true → world.phase = .cancelled)

namespace MaestroLocal

section Linearization

variable {codecs : Codecs} {task : Task} {start final : ServerTask}
variable {visited : List ServerTask} {trace : List Exchange}

theorem answers_of_served {world : ServerTask} {event : Exchange}
    {verb : TaskVerb} {value : Bool}
    (served : ∃ next, (lifecycle codecs task).serves world event.1 event.2 next)
    (answered : task.Answered verb value event) : world.Answers verb value := by
  obtain ⟨next, -, truthful, -⟩ := served
  exact truthful verb value answered.1 answered.2

variable {α : Type} {program : Dialogue α} {value : α}

theorem precedes_of_lifecycle
    (against : (lifecycle codecs task).RunsAgainst start program visited trace
      value final) :
    (∀ world ∈ visited ++ [final], ServerTask.Precedes start world) ∧
      (visited ++ [final]).Pairwise ServerTask.Precedes := by
  apply against.ordered ServerTask.Precedes.refl ServerTask.Precedes.trans
  · intro world next moved
    exact ServerTask.Advances.precedes moved
  · rintro world command reply next ⟨rfl, -⟩
    exact .refl _

/-- A task that fails during a run was running at an instant of it. -/
theorem exists_running_of_hasFailed
    (against : (lifecycle codecs task).RunsAgainst start program visited trace
      value final)
    (notYet : ¬ start.hasFailed = true) {world : ServerTask}
    (member : world ∈ visited ++ [final]) (failed : world.hasFailed = true) :
    ∃ earlier ∈ visited ++ [final], earlier.status = some .running := by
  obtain ⟨last, inVisited, next, before, after, moved | ⟨_, _, rfl, -⟩⟩ :=
    against.exists_crossing (fun world => ¬ world.hasFailed = true) notYet
      member (not_not_intro failed)
  · rw [not_not] at after
    have running := ServerTask.Advances.eq_running moved before after
    refine ⟨last, List.mem_append_left _ inVisited, ?_⟩
    rw [running]
    rfl
  · exact (after before).elim

theorem status_of_hasFailed {world : ServerTask}
    (present : world.present = true) (failed : world.hasFailed = true) :
    world.status = some .failed := by
  obtain ⟨phase, _⟩ := world
  cases present
  cases phase with
  | failing => rfl
  | failed => rfl
  | queued => cases failed
  | running => cases failed
  | succeeded => cases failed
  | cancelled => cases failed

theorem status_of_hasFinished {world : ServerTask}
    (present : world.present = true) (finished : world.hasFinished = true)
    (notFailed : world.hasFailed = false) : world.status = some .completed := by
  obtain ⟨phase, _⟩ := world
  cases present
  cases phase with
  | succeeded => rfl
  | failed => cases notFailed
  | queued => cases finished
  | running => cases finished
  | failing => cases finished
  | cancelled => cases finished

/-- The flags of a transcript were true of the task at instants of the run, in
order. -/
theorem exists_worlds_of_transcribes {flags : List (TaskVerb × Bool)}
    (against : (lifecycle codecs task).RunsAgainst start program visited trace
      value final)
    (transcribes : Transcribes task flags trace) :
    ∃ worlds, (∀ world ∈ worlds, world ∈ visited ++ [final]) ∧
      worlds.Pairwise ServerTask.Precedes ∧
      List.Forall₂ (fun flag world => ServerTask.Answers world flag.1 flag.2)
        flags worlds := by
  obtain ⟨instants, contained, served⟩ := against.exists_instants
  have inRun : instants.Sublist (visited ++ [final]) :=
    contained.trans (List.sublist_append_left _ _)
  have ordered := (precedes_of_lifecycle against).2
  refine ⟨instants, fun _ member => inRun.subset member, ordered.sublist inRun, ?_⟩
  clear inRun contained ordered against
  induction transcribes generalizing instants with
  | nil =>
      cases served
      exact .nil
  | cons answered _ ih =>
      cases served with
      | cons here later =>
          exact .cons (answers_of_served here answered) (ih _ later)

/-- A status concluded from acknowledged flags was current during the query,
unless it was concluded from a denied running flag. -/
theorem exists_status_of_concludes {flags : List (TaskVerb × Bool)}
    {status : TaskStatus}
    (against : (lifecycle codecs task).RunsAgainst start program visited trace
      value final)
    (concludes : Concludes flags status)
    (transcribes : Transcribes task flags trace)
    (queued : status = .queued → start.phase = .queued) :
    ∃ world ∈ visited ++ [final], world.status = some status := by
  obtain ⟨worlds, inRun, ordered, answers⟩ :=
    exists_worlds_of_transcribes against transcribes
  have fromStart := (precedes_of_lifecycle against).1
  cases concludes with
  | failed =>
      simp only [List.forall₂_cons_left_iff, List.forall₂_nil_left_iff]
        at answers
      obtain ⟨_, _, -, ⟨world, _, ⟨present, failed⟩, rfl, rfl⟩, rfl⟩ := answers
      exact ⟨world, inRun world (by simp),
        status_of_hasFailed present failed.symm⟩
  | lateFailed =>
      simp only [List.forall₂_cons_left_iff, List.forall₂_nil_left_iff]
        at answers
      obtain ⟨_, _, -, ⟨_, _, -, ⟨_, _, -, ⟨world, _, ⟨present, failed⟩, rfl,
        rfl⟩, rfl⟩, rfl⟩, rfl⟩ := answers
      exact ⟨world, inRun world (by simp),
        status_of_hasFailed present failed.symm⟩
  | completed =>
      simp only [List.forall₂_cons_left_iff, List.forall₂_nil_left_iff]
        at answers
      obtain ⟨_, _, -, ⟨_, _, -, ⟨atFinished, _, ⟨-, finished⟩, ⟨world, _,
        ⟨present, notFailed⟩, rfl, rfl⟩, rfl⟩, rfl⟩, rfl⟩ := answers
      have stays : atFinished.Precedes world := by
        simp only [List.pairwise_cons, List.mem_singleton] at ordered
        exact ordered.2.2.1 world rfl
      exact ⟨world, inRun world (by simp), status_of_hasFinished present
        (stays.hasFinished finished.symm) notFailed.symm⟩
  | running =>
      simp only [List.forall₂_cons_left_iff, List.forall₂_nil_left_iff]
        at answers
      obtain ⟨_, _, -, ⟨atFailed, _, ⟨-, notFailed⟩, ⟨_, _, -, ⟨world, _,
        ⟨present, running⟩, rfl, rfl⟩, rfl⟩, rfl⟩, rfl⟩ := answers
      rcases running with failing | isRunning
      · have notYet : ¬ start.hasFailed = true := by
          intro already
          have still := (fromStart atFailed (inRun atFailed (by simp))).hasFailed
            already
          rw [← notFailed] at still
          cases still
        exact exists_running_of_hasFailed against notYet
          (inRun world (by simp)) (by simp [ServerTask.hasFailed, failing])
      · refine ⟨world, inRun world (by simp), ?_⟩
        obtain ⟨phase, _⟩ := world
        have phaseEq : phase = .running := by simpa using isRunning.symm
        cases present
        rw [phaseEq]
        rfl
  | queued =>
      simp only [List.forall₂_cons_left_iff, List.forall₂_nil_left_iff]
        at answers
      obtain ⟨world, _, present, -, rfl⟩ := answers
      have atStart := (fromStart world (inRun world (by simp))).present
        present.symm
      refine ⟨start, against.start_mem, ?_⟩
      obtain ⟨phase, _⟩ := start
      have phaseEq : phase = .queued := queued rfl
      cases atStart
      rw [phaseEq]
      rfl

/-- A query whose last exchange denies that the task is running. -/
def DeniesRunning (task : Task) (trace : List Exchange) : Prop :=
  ∃ event, trace.getLast? = some event ∧ task.Answered .running false event

theorem eq_queued_of_deniesRunning {status : TaskStatus}
    (observation : Observation codecs task trace (.ok status))
    (denies : DeniesRunning task trace) : status = .queued := by
  obtain ⟨event, last, denied⟩ := denies
  cases observation with
  | recorded isMissing recorded =>
      simp only [List.getLast?_append, List.getLast?_cons_cons,
        List.getLast?_singleton, Option.some_or, Option.some.injEq] at last
      rw [← last] at denied
      cases denied.1
  | concluded concludes transcribes =>
      cases concludes with
      | failed =>
          have answered := answered_of_getLast? transcribes rfl last
          cases (verb_eq_of_answered answered denied).1
      | lateFailed =>
          have answered := answered_of_getLast? transcribes rfl last
          cases (verb_eq_of_answered answered denied).1
      | completed =>
          have answered := answered_of_getLast? transcribes rfl last
          cases (verb_eq_of_answered answered denied).1
      | running =>
          have answered := answered_of_getLast? transcribes rfl last
          cases (verb_eq_of_answered answered denied).2
      | queued => rfl

theorem deniesRunning_of_queued
    (observation : Observation codecs task trace (.ok .queued)) :
    DeniesRunning task trace := by
  cases observation with
  | concluded concludes transcribes =>
      cases concludes with
      | queued =>
          simp only [Transcribes, List.forall₂_cons_left_iff,
            List.forall₂_nil_left_iff] at transcribes
          obtain ⟨_, _, -, ⟨_, _, -, ⟨_, _, -, ⟨final, _, answered, rfl, rfl⟩,
            rfl⟩, rfl⟩, rfl⟩ := transcribes
          exact ⟨final, rfl, answered⟩

/-- An observed status was current during the query, except when a task that
had already left the queue is concluded to be queued from a denied running
flag. -/
theorem Observation.exists_status_iff {status : TaskStatus}
    (observation : Observation codecs task trace (.ok status))
    (against : (lifecycle codecs task).RunsAgainst start program visited trace
      value final) :
    (∃ world ∈ visited ++ [final], world.status = some status) ↔
      ¬ (start.phase ≠ .queued ∧ DeniesRunning task trace) := by
  constructor
  · rintro ⟨world, member, current⟩ ⟨left, denies⟩
    have queued := eq_queued_of_deniesRunning observation denies
    have phase : world.phase = .queued := by
      rw [queued] at current
      obtain ⟨phase, present⟩ := world
      cases phase <;> cases present <;> first | rfl | cases current
    have order := (precedes_of_lifecycle against).1 world member
    exact left (order.queued phase)
  · intro careful
    have queued : status = .queued → start.phase = .queued := by
      rintro rfl
      by_contra left
      exact careful ⟨left, deniesRunning_of_queued observation⟩
    cases observation with
    | concluded concludes transcribes =>
        exact exists_status_of_concludes against concludes transcribes queued
    | recorded isMissing recorded =>
        obtain ⟨world, inVisited, next, -, -, cancelled⟩ :=
          against.exists_served (List.mem_append_right _
            (List.mem_cons_of_mem _ (List.mem_singleton_self _)))
        refine ⟨world, List.mem_append_left _ inVisited, ?_⟩
        obtain ⟨phase, present⟩ := world
        have phaseEq : phase = .cancelled := cancelled rfl recorded
        rw [phaseEq]
        rfl

theorem precedes_final
    (against : (lifecycle codecs task).RunsAgainst start program visited trace
      value final) {world : ServerTask} (member : world ∈ visited ++ [final]) :
    world.Precedes final := by
  have ordered := (precedes_of_lifecycle against).2
  rcases List.mem_append.mp member with inVisited | last
  · exact (List.pairwise_append.mp ordered).2.2 world inVisited final
      (List.mem_singleton_self _)
  · rw [List.mem_singleton.mp last]
    exact .refl final

theorem precedes_of_drifts {waited : List ServerTask}
    (drift : (lifecycle codecs task).Drifts start waited final) :
    start.Precedes final := by
  induction drift with
  | refl world => exact .refl world
  | move moved _ ih => exact (ServerTask.Advances.precedes moved).trans ih

variable {taskId : Text} {before after : MaestroLocal} {status : TaskStatus}

/-- A status query of a task without remembered status makes an observation. -/
theorem observation_of_taskStatus {result : Except QrmiError TaskStatus}
    (handle : before.task taskId = .ok task)
    (absent : before.terminalTasks.get task.key = none)
    (executes : (taskStatus codecs taskId).Executes before trace result after) :
    Observation codecs task trace result := by
  cases executes_taskStatus executes with
  | rejected invalid =>
      rw [handle] at invalid
      cases invalid
  | remembered sameHandle cached =>
      cases handle.symm.trans sameHandle
      rw [absent] at cached
      cases cached
  | observed client sameHandle sameAbsent observation =>
      cases handle.symm.trans sameHandle
      exact observation

theorem phase_eq_succeeded_of_status {world : ServerTask}
    (current : world.status = some .completed) : world.phase = .succeeded := by
  obtain ⟨phase, present⟩ := world
  cases phase <;> cases present <;> first | rfl | cases current

theorem phase_ne_queued_of_status {world : ServerTask}
    (current : world.status = some .running) : world.phase ≠ .queued := by
  rintro queued
  obtain ⟨phase, present⟩ := world
  cases queued
  cases present <;> cases current

/-- When a status query of a task without remembered status returns, its status
was current at an instant of the call, if and only if the call did not conclude
from a denied running flag that a task is queued which had left the queue
before.  A task reported Completed has succeeded; and a call that is sound in
this sense never reports Queued after an earlier one reported Running. -/
theorem taskStatus_current_iff (handle : before.task taskId = .ok task)
    (absent : before.terminalTasks.get task.key = none)
    (against : (lifecycle codecs task).ExecutesAgainst start
      (taskStatus codecs taskId) before visited trace (.ok status) after
      final) :
    ((∃ world ∈ visited ++ [final], world.status = some status) ↔
      ¬ (start.phase ≠ .queued ∧ DeniesRunning task trace)) ∧
    (status = .completed → final.phase = .succeeded) ∧
    ∀ {first middle earlier waited asked otherId sooner later},
      (lifecycle codecs task).ExecutesAgainst first (taskStatus codecs otherId)
        sooner earlier asked (.ok .running) later middle →
      sooner.task otherId = .ok task →
      sooner.terminalTasks.get task.key = none →
      (lifecycle codecs task).Drifts middle waited start →
      ¬ (start.phase ≠ .queued ∧ DeniesRunning task trace) →
        status ≠ .queued := by
  have observation := observation_of_taskStatus handle absent against.executes
  have currentIff := observation.exists_status_iff against
  refine ⟨currentIff, ?_, ?_⟩
  · rintro rfl
    obtain ⟨world, member, current⟩ := currentIff.mpr fun defect => by
      cases eq_queued_of_deniesRunning observation defect.2
    exact (precedes_final against member).succeeded
      (phase_eq_succeeded_of_status current)
  · rintro first middle earlier waited asked otherId sooner later ran otherHandle
      otherAbsent between careful rfl
    have other := observation_of_taskStatus otherHandle otherAbsent ran.executes
    obtain ⟨world, member, current⟩ := (other.exists_status_iff ran).mpr
      fun defect => by cases eq_queued_of_deniesRunning other defect.2
    refine careful ⟨fun queued => ?_, deniesRunning_of_queued observation⟩
    have order := (precedes_final ran member).trans (precedes_of_drifts between)
    exact phase_ne_queued_of_status current (order.queued queued)

end Linearization

namespace Observed

def questions (running : Text) : List Exchange :=
  [⟨task.command .exists, .ok "OK YES".toList⟩,
    ⟨task.command .failed, .ok "OK NO".toList⟩,
    ⟨task.command .finished, .ok "OK NO".toList⟩,
    ⟨task.command .running, .ok running⟩]

theorem serves_flag {world : ServerTask} {verb : TaskVerb} {line : Text}
    {value : Bool} (acknowledged : Reply.acknowledgement (.ok line) = some value)
    (answers : world.Answers verb value) :
    (lifecycle codecs task).serves world (task.command verb) (.ok line) world := by
  refine ⟨rfl, ?_, fun impossible => by cases impossible⟩
  intro other flag asked answered
  have same : verb = other := by simpa [Task.command] using asked
  rw [acknowledged] at answered
  rw [← same, ← Option.some.inj answered]
  exact answers

/-- The task starts to run between the third and the fourth question. -/
theorem startsRunning :
    (lifecycle codecs task).ExecutesAgainst ⟨.queued, true⟩
      (taskStatus codecs "1".toList) start
      [⟨.queued, true⟩, ⟨.queued, true⟩, ⟨.queued, true⟩, ⟨.queued, true⟩,
        ⟨.running, true⟩]
      (questions "OK YES".toList) (.ok .running) start ⟨.running, true⟩ :=
  .ask (.refl _) (serves_flag rfl rfl)
    (.ask (.refl _) (serves_flag rfl ⟨rfl, rfl⟩)
      (.ask (.refl _) (serves_flag rfl ⟨rfl, rfl⟩)
        (.ask (.move ServerTask.Advances.starts (.refl _)) (serves_flag rfl ⟨rfl, .inr rfl⟩)
          (.done _ (.refl _)))))

/-- The task finishes between the third and the fourth question. -/
theorem finishesUnseen :
    (lifecycle codecs task).ExecutesAgainst ⟨.running, true⟩
      (taskStatus codecs "1".toList) start
      [⟨.running, true⟩, ⟨.running, true⟩, ⟨.running, true⟩, ⟨.running, true⟩,
        ⟨.succeeded, true⟩]
      (questions "OK NO".toList) (.ok .queued) start ⟨.succeeded, true⟩ :=
  .ask (.refl _) (serves_flag rfl rfl)
    (.ask (.refl _) (serves_flag rfl ⟨rfl, rfl⟩)
      (.ask (.refl _) (serves_flag rfl ⟨rfl, rfl⟩)
        (.ask (.move ServerTask.Advances.succeeds (.refl _)) (serves_flag rfl ⟨rfl, .inr rfl⟩)
          (.done _ (.refl _)))))

end Observed

theorem taskStatus_current_observed :
    ∃ world ∈ [ServerTask.mk .queued true, ⟨.queued, true⟩, ⟨.queued, true⟩,
        ⟨.queued, true⟩, ⟨.running, true⟩] ++ [⟨.running, true⟩],
      world.status = some .running :=
  (taskStatus_current_iff rfl rfl Observed.startsRunning).1.mpr
    fun defect => defect.1 rfl

/-- A task that runs and then finishes is reported to be queued. -/
theorem exists_outdated_queued :
    ∃ start visited trace final,
      (lifecycle Observed.codecs Observed.task).ExecutesAgainst start
        (taskStatus Observed.codecs "1".toList) Observed.start visited trace
        (.ok .queued) Observed.start final ∧
      ∀ world ∈ visited ++ [final], world.status ≠ some .queued :=
  ⟨_, _, _, _, Observed.finishesUnseen, by decide⟩

end MaestroLocal

end Maestro
