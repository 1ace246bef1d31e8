import Qrmi.InteractionHistory
import Qrmi.PrimitiveJobs

/-!
# Final statuses that stay

Once a job has seen a final status there is no need to look at the task again.  The
job of the Pasqal sampler never does.  The job of the runtime primitives compares the
status of the task with the final statuses of jobs, so that it looks again in every
call but a call for a result that it holds.
-/

open Interaction

namespace PrimitiveJobs

open Method

def AsksStatus (event : JobEvent) : Prop :=
  ∃ jobId answer, event = ⟨.taskStatus jobId, answer⟩

/-- A query was answered with a task that stands for a final status. -/
def Observes (event : JobEvent) (status : JobStatus) : Prop :=
  .job status ∈ jobFinalStates ∧
    ∃ jobId task, event = ⟨.taskStatus jobId, .ok task⟩ ∧ statusMap task = status

theorem Observes.asksStatus {event : JobEvent} {status : JobStatus}
    (observes : Observes event status) : AsksStatus event := by
  obtain ⟨-, jobId, task, rfl, -⟩ := observes
  exact ⟨jobId, _, rfl⟩

/-- Every execution from a state looks at the task. -/
def Queries {Job α : Type} (method : JobMethod Job α) (before : Job) : Prop :=
  ∀ trace result after, method.Executes before trace result after →
    ∃ event ∈ trace, AsksStatus event

theorem Queries.bind {Job α β : Type} {method : JobMethod Job α} {before : Job}
    (queries : Queries method before) (next : α → JobMethod Job β) :
    Queries (method >>= next) before := by
  intro trace result after executes
  rcases executes_bind_iff.mp executes with ⟨_, -, failed⟩ | ⟨_, _, _, _, rfl, ran, -⟩
  · exact queries _ _ _ failed
  · obtain ⟨event, member, asks⟩ := queries _ _ _ ran
    exact ⟨event, List.mem_append_left _ member, asks⟩

theorem isUnsettled_task (status : TaskStatus) :
    isUnsettled (some (.task status)) = true := by
  cases status <;> rfl

theorem not_isUnsettled_job {status : JobStatus} (final : .job status ∈ jobFinalStates) :
    ¬ isUnsettled (some (.job status)) = true := by
  simp [isUnsettled, final]

section Accessors

variable {Job Result α : Type} {relation : Job → List JobEvent → Job → Prop}
variable {status : JobMethod Job (Option StatusValue)}

theorem relates_statusIs (composable : Composable relation) (relates : status.Relates relation)
    (expected : JobStatus) : (statusIs status expected).Relates relation :=
  composable.relates_bind relates fun _ => composable.relates_pure _

theorem relates_statusIsFinal (composable : Composable relation)
    (relates : status.Relates relation) : (statusIsFinal status).Relates relation :=
  composable.relates_bind relates fun _ => composable.relates_pure _

theorem relates_returning (composable : Composable relation) {wrap : α → Returned Result}
    {method : JobMethod Job α} (relates : method.Relates relation) :
    (returning wrap method).Relates relation :=
  composable.relates_bind relates fun _ => composable.relates_pure _

end Accessors

namespace QRMIPasqalJob

/-- A final status is kept without another query, and one that is seen is kept. -/
structure Settles (before : QRMIPasqalJob) (trace : List JobEvent)
    (after : QRMIPasqalJob) : Prop where
  kept : ∀ status, .job status ∈ jobFinalStates → before.lastStatus = some (.job status) →
    (∀ event ∈ trace, ¬ AsksStatus event) ∧ after.lastStatus = some (.job status)
  seen : ∀ event ∈ trace, ∀ status, Observes event status →
    after.lastStatus = some (.job status)

theorem composable_settles : Composable Settles where
  refl _ := ⟨fun _ _ held => ⟨List.forall_mem_nil _, held⟩, List.forall_mem_nil _⟩
  trans := by
    intro before middle after first second firstSettles secondSettles
    constructor
    · intro status final held
      obtain ⟨silentFirst, stillHeld⟩ := firstSettles.kept status final held
      obtain ⟨silentSecond, finallyHeld⟩ := secondSettles.kept status final stillHeld
      exact ⟨List.forall_mem_append.mpr ⟨silentFirst, silentSecond⟩, finallyHeld⟩
    · intro event member status observes
      rcases List.mem_append.mp member with inFirst | inSecond
      · have held := firstSettles.seen event inFirst status observes
        exact (secondSettles.kept status observes.1 held).2
      · exact secondSettles.seen event inSecond status observes

/-- Questions about other things leave the status alone. -/
theorem relates_ask {query : JobQuery} (other : ∀ jobId, query ≠ .taskStatus jobId) :
    (ask query : JobMethod QRMIPasqalJob query.Answer).Relates Settles := by
  apply relates_lift
  intro job trace answer asked
  obtain rfl := Program.runs_question_iff.mp asked
  have silent : ¬ AsksStatus ⟨query, answer⟩ := by
    rintro ⟨jobId, _, equal⟩
    exact other jobId (congrArg Sigma.fst equal)
  refine ⟨fun _ _ held => ⟨List.forall_mem_singleton.mpr silent, held⟩, ?_⟩
  intro event member status observes
  rw [List.mem_singleton.mp member] at observes
  exact absurd observes.asksStatus silent

/-- A job with a final status does not ask for it. -/
theorem status_settled {before after : QRMIPasqalJob} {trace : List JobEvent}
    {result : Except JobError (Option StatusValue)}
    (settled : ¬ isUnsettled before.lastStatus = true)
    (executes : status.Executes before trace result after) :
    trace = [] ∧ result = .ok before.lastStatus ∧ after = before := by
  rw [status, executes_self_bind_iff, if_neg settled] at executes
  exact executes_pure_iff.mp executes

/-- The answer to a query is kept as the status of the job. -/
theorem status_unsettled {before after : QRMIPasqalJob} {trace : List JobEvent}
    {result : Except JobError (Option StatusValue)}
    (unsettled : isUnsettled before.lastStatus = true)
    (executes : status.Executes before trace result after) :
    ∃ answer, trace = [⟨.taskStatus before.jobId, answer⟩] ∧
      ∀ task, answer = .ok task → after.lastStatus = some (.job (statusMap task)) := by
  rw [status, executes_self_bind_iff, if_pos unsettled, ask,
    executes_question_bind_iff] at executes
  obtain ⟨answer, rest, rfl, continued⟩ := executes
  cases answer with
  | error error =>
      rw [executes_ofExcept_bind_error_iff] at continued
      obtain ⟨rfl, -, rfl⟩ := continued
      exact ⟨_, rfl, fun _ impossible => nomatch impossible⟩
  | ok task =>
      rw [executes_ofExcept_bind_ok_iff, executes_modify_bind_iff,
        executes_pure_iff] at continued
      obtain ⟨rfl, -, rfl⟩ := continued
      refine ⟨_, rfl, ?_⟩
      intro _ equal
      cases equal
      rfl

theorem relates_status : status.Relates Settles := by
  intro before trace result after executes
  by_cases unsettled : isUnsettled before.lastStatus = true
  · obtain ⟨answer, rfl, keeps⟩ := status_unsettled unsettled executes
    constructor
    · intro status final held
      rw [held] at unsettled
      exact absurd unsettled (not_isUnsettled_job final)
    · intro event member status observes
      rw [List.mem_singleton.mp member] at observes
      obtain ⟨-, _, task, equal, rfl⟩ := observes
      cases equal
      exact keeps task rfl
  · obtain ⟨rfl, -, rfl⟩ := status_settled unsettled executes
    exact composable_settles.refl _

theorem relates_checkTimeout (startTime : Rat) : (checkTimeout startTime).Relates Settles := by
  refine composable_settles.relates_bind composable_settles.relates_self fun job => ?_
  cases job.timeoutSeconds with
  | none => exact composable_settles.relates_pure ()
  | some timeoutSeconds =>
      refine composable_settles.relates_bind (relates_ask fun _ => nofun) fun now => ?_
      split
      · exact composable_settles.relates_throw _
      · exact composable_settles.relates_pure ()

theorem relates_waitFinal (startTime : Rat) (fuel : Nat) :
    (waitFinal startTime fuel).Relates Settles := by
  induction fuel with
  | zero => exact relates_pending
  | succ fuel ih =>
      refine composable_settles.relates_bind
        (relates_statusIsFinal composable_settles relates_status) fun isFinal => ?_
      cases isFinal with
      | true => exact composable_settles.relates_pure ()
      | false =>
          refine composable_settles.relates_bind (relates_checkTimeout startTime) fun _ => ?_
          refine composable_settles.relates_bind composable_settles.relates_self fun job => ?_
          exact composable_settles.relates_bind (relates_ask fun _ => nofun) fun _ => ih

theorem relates_keepResult (result : PasqalResult) :
    @Relates JobQuery JobQuery.Answer QRMIPasqalJob JobError Unit
      (Method.modify fun job => { job with result := some result }) Settles := by
  intro before trace outcome after executes
  obtain ⟨rfl, -, rfl⟩ := executes_modify_iff.mp executes
  exact ⟨fun _ _ held => ⟨List.forall_mem_nil _, held⟩, List.forall_mem_nil _⟩

theorem relates_readResult (json : PythonJson) : (readResult json).Relates Settles := by
  refine composable_settles.relates_bind composable_settles.relates_self fun job => ?_
  split
  · exact composable_settles.relates_throw _
  · refine composable_settles.relates_bind (relates_ask fun _ => nofun) fun answer => ?_
    refine composable_settles.relates_bind (composable_settles.relates_ofExcept _) fun _ => ?_
    refine composable_settles.relates_bind (composable_settles.relates_ofExcept _) fun _ => ?_
    refine composable_settles.relates_bind (composable_settles.relates_ofExcept _) fun _ => ?_
    refine composable_settles.relates_bind (relates_keepResult _) fun _ => ?_
    exact composable_settles.relates_pure _

theorem relates_getResult (json : PythonJson) (fuel : Nat) :
    (getResult json fuel).Relates Settles := by
  refine composable_settles.relates_bind composable_settles.relates_self fun job => ?_
  split
  · exact composable_settles.relates_pure _
  · refine composable_settles.relates_bind (relates_ask fun _ => nofun) fun startTime => ?_
    refine composable_settles.relates_bind (relates_waitFinal startTime fuel) fun _ => ?_
    exact relates_readResult json

theorem relates_call (json : PythonJson) (fuel : Nat) (accessor : Accessor) :
    (call json fuel accessor).Relates Settles := by
  cases accessor with
  | status => exact relates_returning composable_settles relates_status
  | done | running | cancelled =>
      exact relates_returning composable_settles
        (relates_statusIs composable_settles relates_status _)
  | errored => exact relates_returning composable_settles (composable_settles.relates_throw _)
  | inFinalState =>
      exact relates_returning composable_settles
        (relates_statusIsFinal composable_settles relates_status)
  | result => exact relates_returning composable_settles (relates_getResult json fuel)

/-- A settled job answers `status` with the status that it holds. -/
theorem call_status_settled {json : PythonJson} {fuel : Nat} {before after : QRMIPasqalJob}
    {trace : List JobEvent} {outcome : Except JobError (Returned PasqalResult)}
    (settled : ¬ isUnsettled before.lastStatus = true)
    (executes : (call json fuel .status).Executes before trace outcome after) :
    outcome = .ok (.status before.lastStatus) := by
  rcases executes_bind_iff.mp executes with ⟨_, rfl, failed⟩ | ⟨_, _, _, _, -, ran, returned⟩
  · cases (status_settled settled failed).2.1
  · obtain ⟨-, equal, -⟩ := status_settled settled ran
    cases equal
    exact (executes_pure_iff.mp returned).2.1

end QRMIPasqalJob

namespace RuntimeJobV2

variable {Result : Type}

/-- A job that looks at the task goes on to look at it. -/
def StaysUnsettled (before : RuntimeJobV2 Result) (_ : List JobEvent)
    (after : RuntimeJobV2 Result) : Prop :=
  isUnsettled before.lastStatus = true → isUnsettled after.lastStatus = true

theorem composable_staysUnsettled : Composable (@StaysUnsettled Result) where
  refl _ := id
  trans first second := second ∘ first

theorem relates_ask (query : JobQuery) :
    (ask query : JobMethod (RuntimeJobV2 Result) query.Answer).Relates StaysUnsettled :=
  relates_lift fun _ _ _ _ => id

/-- A status of a task is no final status of a job. -/
theorem relates_keepStatus (status : TaskStatus) :
    @Relates JobQuery JobQuery.Answer (RuntimeJobV2 Result) JobError Unit
      (Method.modify fun job => { job with lastStatus := some (.task status) })
      StaysUnsettled := by
  intro before trace outcome after executes
  obtain ⟨-, -, rfl⟩ := executes_modify_iff.mp executes
  exact fun _ => isUnsettled_task status

theorem relates_keepResult (result : Result) :
    @Relates JobQuery JobQuery.Answer (RuntimeJobV2 Result) JobError Unit
      (Method.modify fun job => { job with result := some result }) StaysUnsettled := by
  intro before trace outcome after executes
  obtain ⟨-, -, rfl⟩ := executes_modify_iff.mp executes
  exact id

theorem relates_status : (@status Result).Relates StaysUnsettled := by
  refine composable_staysUnsettled.relates_bind
    composable_staysUnsettled.relates_self fun job => ?_
  split
  · refine composable_staysUnsettled.relates_bind (relates_ask _) fun answer => ?_
    refine composable_staysUnsettled.relates_bind
      (composable_staysUnsettled.relates_ofExcept answer) fun status => ?_
    refine composable_staysUnsettled.relates_bind (relates_keepStatus status) fun _ => ?_
    exact composable_staysUnsettled.relates_pure _
  · exact composable_staysUnsettled.relates_pure _

theorem relates_waitFinal (fuel : Nat) : (@waitFinal Result fuel).Relates StaysUnsettled := by
  induction fuel with
  | zero => exact relates_pending
  | succ fuel ih =>
      refine composable_staysUnsettled.relates_bind
        (relates_statusIsFinal composable_staysUnsettled relates_status) fun isFinal => ?_
      cases isFinal with
      | true => exact composable_staysUnsettled.relates_pure ()
      | false =>
          exact composable_staysUnsettled.relates_bind (relates_ask _) fun _ => ih

theorem relates_fetchResult (decode : Text → Except JobError Result) (fuel : Nat) :
    (fetchResult decode fuel).Relates StaysUnsettled := by
  refine composable_staysUnsettled.relates_bind (relates_waitFinal fuel) fun _ => ?_
  refine composable_staysUnsettled.relates_bind
    composable_staysUnsettled.relates_self fun job => ?_
  refine composable_staysUnsettled.relates_bind (relates_ask _) fun answer => ?_
  refine composable_staysUnsettled.relates_bind
    (composable_staysUnsettled.relates_ofExcept answer) fun value => ?_
  refine composable_staysUnsettled.relates_bind
    (composable_staysUnsettled.relates_ofExcept _) fun result => ?_
  refine composable_staysUnsettled.relates_bind (relates_keepResult result) fun _ => ?_
  exact composable_staysUnsettled.relates_pure result

theorem relates_getResult (decode : Text → Except JobError Result) (fuel : Nat) :
    (getResult decode fuel).Relates StaysUnsettled := by
  refine composable_staysUnsettled.relates_bind
    composable_staysUnsettled.relates_self fun job => ?_
  split
  · exact composable_staysUnsettled.relates_pure _
  · exact relates_fetchResult decode fuel

theorem relates_call (decode : Text → Except JobError Result) (fuel : Nat)
    (accessor : Accessor) : (call decode fuel accessor).Relates StaysUnsettled := by
  cases accessor with
  | status => exact relates_returning composable_staysUnsettled relates_status
  | done | running | cancelled | errored =>
      exact relates_returning composable_staysUnsettled
        (relates_statusIs composable_staysUnsettled relates_status _)
  | inFinalState =>
      exact relates_returning composable_staysUnsettled
        (relates_statusIsFinal composable_staysUnsettled relates_status)
  | result =>
      exact relates_returning composable_staysUnsettled (relates_getResult decode fuel)

theorem queries_status {before : RuntimeJobV2 Result}
    (unsettled : isUnsettled before.lastStatus = true) : Queries status before := by
  intro trace result after executes
  rw [status, executes_self_bind_iff, if_pos unsettled, ask,
    executes_question_bind_iff] at executes
  obtain ⟨answer, rest, rfl, -⟩ := executes
  exact ⟨_, List.mem_cons_self, before.jobId, answer, rfl⟩

theorem queries_waitFinal {before : RuntimeJobV2 Result}
    (unsettled : isUnsettled before.lastStatus = true) (fuel : Nat) :
    Queries (waitFinal fuel) before := by
  cases fuel with
  | zero => exact fun _ _ _ executes => absurd executes Program.not_runs_pending
  | succ fuel => exact ((queries_status unsettled).bind _).bind _

theorem queries_getResult {decode : Text → Except JobError Result}
    {before : RuntimeJobV2 Result} (unsettled : isUnsettled before.lastStatus = true)
    (holdsNone : before.heldResult = none) (fuel : Nat) :
    Queries (getResult decode fuel) before := by
  intro trace result after executes
  rw [getResult, executes_self_bind_iff, holdsNone] at executes
  exact (queries_waitFinal unsettled fuel).bind _ trace result after executes

/-- A held result is returned at once. -/
theorem getResult_held {decode : Text → Except JobError Result} {fuel : Nat}
    {before after : RuntimeJobV2 Result} {held : Result} (holds : before.heldResult = some held)
    {trace : List JobEvent} {result : Except JobError Result}
    (executes : (getResult decode fuel).Executes before trace result after) :
    trace = [] ∧ result = .ok held ∧ after = before := by
  rw [getResult, executes_self_bind_iff, holds] at executes
  exact executes_pure_iff.mp executes

/-- The calls that do not look at the task: those for a result that the job holds. -/
def Spares (before : RuntimeJobV2 Result) (accessor : Accessor) : Prop :=
  accessor = .result ∧ before.heldResult.isSome

/-- A job that looks at the task does so in every call but these. -/
theorem queries_call {decode : Text → Except JobError Result} {before : RuntimeJobV2 Result}
    (unsettled : isUnsettled before.lastStatus = true) {accessor : Accessor}
    (spared : ¬ before.Spares accessor) (fuel : Nat) :
    Queries (call decode fuel accessor) before := by
  cases accessor with
  | status => exact (queries_status unsettled).bind _
  | done | running | cancelled | errored | inFinalState =>
      exact ((queries_status unsettled).bind _).bind _
  | result =>
      have holdsNone : before.heldResult = none := by
        by_contra some
        exact spared ⟨rfl, Option.isSome_iff_ne_none.mpr some⟩
      exact (queries_getResult unsettled holdsNone fuel).bind _

theorem silent_of_spares {decode : Text → Except JobError Result} {fuel : Nat}
    {before after : RuntimeJobV2 Result} {accessor : Accessor} (spares : before.Spares accessor)
    {trace : List JobEvent} {outcome : Except JobError (Returned Result)}
    (executes : (call decode fuel accessor).Executes before trace outcome after) :
    trace = [] := by
  obtain ⟨rfl, holds⟩ := spares
  obtain ⟨held, holds⟩ := Option.isSome_iff_exists.mp holds
  rcases executes_bind_iff.mp executes with ⟨_, -, failed⟩ | ⟨_, _, _, _, rfl, ran, returned⟩
  · exact (getResult_held holds failed).1
  · rw [(getResult_held holds ran).1, (executes_pure_iff.mp returned).1]
    rfl

end RuntimeJobV2

/-- A class of jobs, with the code of others that its results need. -/
inductive JobClass : Type 1
  | runtimeJobV2 {Result : Type} (decode : Text → Except JobError Result)
  | qrmiPasqalJob (json : PythonJson)

/-- A call that came back. -/
structure JobCall (Result : Type) where
  accessor : Accessor
  trace : List JobEvent
  outcome : Except JobError (Returned Result)

namespace JobClass

def Job : JobClass → Type
  | @runtimeJobV2 Result _ => RuntimeJobV2 Result
  | qrmiPasqalJob _ => QRMIPasqalJob

def Result : JobClass → Type
  | @runtimeJobV2 Result _ => Result
  | qrmiPasqalJob _ => PasqalResult

def IsNew : (jobClass : JobClass) → jobClass.Job → Prop
  | runtimeJobV2 _, job => ∃ jobId, job = RuntimeJobV2.new jobId
  | qrmiPasqalJob _, job => ∃ jobId backendName pollIntervalSeconds timeoutSeconds,
      job = QRMIPasqalJob.new jobId backendName pollIntervalSeconds timeoutSeconds

def call : (jobClass : JobClass) → Nat → Accessor →
    JobMethod jobClass.Job (Returned jobClass.Result)
  | runtimeJobV2 decode => RuntimeJobV2.call decode
  | qrmiPasqalJob json => QRMIPasqalJob.call json

/-- The calls that do not look at the task once a final status was seen: all of them,
or only those for a result that the job holds. -/
def Spares : (jobClass : JobClass) → jobClass.Job → Accessor → Prop
  | runtimeJobV2 _, job, accessor => job.Spares accessor
  | qrmiPasqalJob _, _, _ => True

/-- A call takes the job from one state to another. -/
def Step (jobClass : JobClass) (before : jobClass.Job) (taken : JobCall jobClass.Result)
    (after : jobClass.Job) : Prop :=
  ∃ passes, (jobClass.call passes taken.accessor).Executes before taken.trace taken.outcome after

end JobClass

section Calls

variable {Result : Type}

/-- One of the calls saw a final status. -/
def Observed (calls : List (JobCall Result)) (status : JobStatus) : Prop :=
  ∃ call ∈ calls, ∃ event ∈ call.trace, Observes event status

/-- A call does not look at the task, and gives this status if it gives one. -/
def JobCall.Keeps (call : JobCall Result) (status : JobStatus) : Prop :=
  (∀ event ∈ call.trace, ¬ AsksStatus event) ∧
    (call.accessor = .status → call.outcome = .ok (.status (some (.job status))))

/-- Every call after the first that saw a final status keeps it. -/
def Sticky (calls : List (JobCall Result)) : Prop :=
  ∀ earlier call later, calls = earlier ++ call :: later →
    ∀ status, Observed earlier status → call.Keeps status

end Calls

/-- After a final status was seen there are only calls that spare the task. -/
def JobClass.SparesTask (jobClass : JobClass) (job : jobClass.Job)
    (calls : List (JobCall jobClass.Result)) : Prop :=
  ∀ earlier call later before after, calls = earlier ++ call :: later →
    History jobClass.Step job earlier before → jobClass.Step before call after →
      (∃ status, Observed earlier status) → jobClass.Spares before call.accessor

theorem QRMIPasqalJob.lastStatus_of_observed {json : PythonJson} {job last : QRMIPasqalJob}
    {calls : List (JobCall PasqalResult)}
    (history : History (JobClass.qrmiPasqalJob json).Step job calls last)
    {status : JobStatus} (observed : Observed calls status) :
    last.lastStatus = some (.job status) := by
  refine history.invariant (fun past state => ∀ status, Observed past status →
    QRMIPasqalJob.lastStatus state = some (.job status)) ?_ ?_ status observed
  · rintro status ⟨_, impossible, -⟩
    cases impossible
  · intro past before taken after _ held step status observed
    obtain ⟨passes, executes⟩ := step
    have settles := relates_call json passes taken.accessor _ _ _ _ executes
    obtain ⟨call, member, event, inTrace, observes⟩ := observed
    rcases List.mem_append.mp member with inPast | isTaken
    · have heldBefore := held status ⟨call, inPast, event, inTrace, observes⟩
      exact (settles.kept status observes.1 heldBefore).2
    · obtain rfl := List.mem_singleton.mp isTaken
      exact settles.seen event inTrace status observes

/-- The job of the Pasqal sampler keeps every final status. -/
theorem QRMIPasqalJob.sticky {json : PythonJson} {job last : QRMIPasqalJob}
    {calls : List (JobCall PasqalResult)}
    (history : History (JobClass.qrmiPasqalJob json).Step job calls last) : Sticky calls := by
  rintro earlier call later rfl status observed
  obtain ⟨before, past, future⟩ := history.split
  have held := lastStatus_of_observed past observed
  have final : .job status ∈ jobFinalStates := by
    obtain ⟨_, -, _, -, observes⟩ := observed
    exact observes.1
  cases future with
  | cons step _ =>
      obtain ⟨passes, executes⟩ := step
      have settles := relates_call json passes call.accessor _ _ _ _ executes
      refine ⟨(settles.kept status final held).1, ?_⟩
      intro isStatus
      have settled : ¬ isUnsettled before.lastStatus = true := by
        rw [held]
        exact not_isUnsettled_job final
      change (QRMIPasqalJob.call json passes call.accessor).Executes _ _ _ _ at executes
      rw [isStatus] at executes
      rw [call_status_settled settled executes, held]

theorem RuntimeJobV2.isUnsettled_lastStatus {Result : Type}
    {decode : Text → Except JobError Result} {jobId : Text} {last : RuntimeJobV2 Result}
    {calls : List (JobCall Result)}
    (history : History (JobClass.runtimeJobV2 decode).Step (RuntimeJobV2.new jobId) calls last) :
    isUnsettled last.lastStatus = true := by
  refine history.stateInvariant
    (fun state => isUnsettled (RuntimeJobV2.lastStatus state) = true) rfl ?_
  rintro before taken after unsettled ⟨passes, executes⟩
  exact relates_call decode passes taken.accessor _ _ _ _ executes unsettled

/-- The job of the runtime primitives keeps a final status exactly as long as it is not
made to look at the task. -/
theorem RuntimeJobV2.sticky_iff {Result : Type} {decode : Text → Except JobError Result}
    {jobId : Text} {last : RuntimeJobV2 Result} {calls : List (JobCall Result)}
    (history : History (JobClass.runtimeJobV2 decode).Step (RuntimeJobV2.new jobId) calls last) :
    Sticky calls ↔
      (JobClass.runtimeJobV2 decode).SparesTask (RuntimeJobV2.new jobId) calls := by
  constructor
  · intro sticky earlier call later before after split past step seen
    obtain ⟨status, observed⟩ := seen
    obtain ⟨passes, executes⟩ := step
    by_contra spared
    obtain ⟨event, member, asks⟩ := queries_call (isUnsettled_lastStatus past) spared passes
      call.trace call.outcome after executes
    exact (sticky earlier call later split status observed).1 event member asks
  · rintro spares earlier call later rfl status observed
    obtain ⟨before, past, future⟩ := history.split
    cases future with
    | cons step _ =>
        have spared := spares earlier call later before _ rfl past step ⟨status, observed⟩
        obtain ⟨passes, executes⟩ := step
        constructor
        · rw [silent_of_spares spared executes]
          exact List.forall_mem_nil _
        · intro isStatus
          exact nomatch spared.1.symm.trans isStatus

/-- A final status stays in the runs of a new job in which every later call spares the
task, and in no others. -/
theorem JobClass.sticky_iff_sparesTask {jobClass : JobClass} {job last : jobClass.Job}
    {calls : List (JobCall jobClass.Result)} (isNew : jobClass.IsNew job)
    (history : History jobClass.Step job calls last) :
    Sticky calls ↔ jobClass.SparesTask job calls := by
  cases jobClass with
  | runtimeJobV2 decode =>
      obtain ⟨jobId, rfl⟩ := isNew
      exact RuntimeJobV2.sticky_iff history
  | qrmiPasqalJob json =>
      exact iff_of_true (QRMIPasqalJob.sticky history) fun _ _ _ _ _ _ _ _ _ => trivial

namespace DoneJob

/-- A job of the runtime whose results are all the same. -/
def runtimeClass : JobClass :=
  @JobClass.runtimeJobV2 Unit fun _ => .ok ()

def completed : JobEvent :=
  ⟨.taskStatus [], .ok .completed⟩

/-- The result is fetched, and then it is there. -/
def fetches : JobCall Unit :=
  ⟨.result, [completed, ⟨.taskResult [], .ok []⟩], .ok (.result ())⟩

def holds : JobCall Unit :=
  ⟨.result, [], .ok (.result ())⟩

def fetched : RuntimeJobV2 Unit :=
  ⟨[], some (.task .completed), some ()⟩

theorem step_fetches_iff {after : RuntimeJobV2 Unit} :
    runtimeClass.Step (RuntimeJobV2.new []) fetches after ↔ after = fetched := by
  have runs (fuel : Nat) : (RuntimeJobV2.call (fun _ => .ok ()) (fuel + 1) .result).Executes
      (RuntimeJobV2.new []) fetches.trace fetches.outcome fetched :=
    .ask (.ask (.done _))
  constructor
  · rintro ⟨passes, executes⟩
    cases passes with
    | zero => exact absurd executes Program.not_runs_pending
    | succ fuel =>
        obtain ⟨-, -, same⟩ := Program.Runs.prefix_unique (runs fuel) executes
          (rfl : fetches.trace ++ [] = fetches.trace ++ [])
        exact (Prod.mk.inj same).2.symm
  · rintro rfl
    exact ⟨1, runs 0⟩

theorem isNew : runtimeClass.IsNew (RuntimeJobV2.new []) :=
  ⟨[], rfl⟩

theorem history : History runtimeClass.Step (RuntimeJobV2.new []) [fetches, holds] fetched :=
  .cons (step_fetches_iff.mpr rfl) (.cons ⟨0, Program.Runs.done _⟩ (.nil _))

theorem sparesTask : runtimeClass.SparesTask (RuntimeJobV2.new []) [fetches, holds] := by
  intro earlier call later before after split past step seen
  rcases earlier with - | ⟨first, - | ⟨second, rest⟩⟩
  · obtain ⟨_, _, impossible, -⟩ := seen
    cases impossible
  · cases split
    cases past with
    | cons fetching rest =>
        cases rest
        cases step_fetches_iff.mp fetching
        exact ⟨rfl, rfl⟩
  · have both := (List.cons.inj (List.cons.inj split).2).2
    cases (List.append_eq_nil_iff.mp both.symm).2

/-- A Pasqal job that was once done is asked about twice and looks once. -/
def json : PythonJson :=
  ⟨fun _ => .error "", fun _ => "", fun _ => .ok 0⟩

def asked : List (JobCall PasqalResult) :=
  [⟨.status, [completed], .ok (.status (some (.job .done)))⟩, ⟨.done, [], .ok (.flag true)⟩]

theorem isNew_asked :
    (JobClass.qrmiPasqalJob json).IsNew (QRMIPasqalJob.new [] [] 1 none) :=
  ⟨[], [], 1, none, rfl⟩

theorem history_asked : History (JobClass.qrmiPasqalJob json).Step
    (QRMIPasqalJob.new [] [] 1 none) asked
    { QRMIPasqalJob.new [] [] 1 none with lastStatus := some (.job .done) } :=
  .cons ⟨0, Program.Runs.ask (Program.Runs.done _)⟩ (.cons ⟨0, Program.Runs.done _⟩ (.nil _))

theorem observed_completed {Result : Type} {call : JobCall Result}
    (looks : completed ∈ call.trace) (calls : List (JobCall Result)) :
    Observed (call :: calls) .done :=
  ⟨call, List.mem_cons_self, completed, looks, by decide, [], .completed, rfl, rfl⟩

end DoneJob

theorem JobClass.sticky_doneJob :
    (Observed [DoneJob.fetches, DoneJob.holds] .done ∧
        Sticky [DoneJob.fetches, DoneJob.holds]) ∧
      Observed DoneJob.asked .done ∧ Sticky DoneJob.asked :=
  ⟨⟨DoneJob.observed_completed List.mem_cons_self _,
      (sticky_iff_sparesTask DoneJob.isNew DoneJob.history).mpr DoneJob.sparesTask⟩,
    DoneJob.observed_completed List.mem_cons_self _,
    (sticky_iff_sparesTask DoneJob.isNew_asked DoneJob.history_asked).mpr
      fun _ _ _ _ _ _ _ _ _ => trivial⟩

/-- The runtime job goes back from a final status when the task does. -/
theorem RuntimeJobV2.exists_lost_status :
    ∃ calls last,
      History (@JobClass.runtimeJobV2 Unit fun _ => .ok ()).Step (RuntimeJobV2.new []) calls last ∧
      calls.map JobCall.outcome =
        [.ok (.status (some (.job .done))), .ok (.status (some (.job .running)))] ∧
      Observed calls .done ∧ ¬ Sticky calls := by
  let first : JobEvent := ⟨.taskStatus [], .ok .completed⟩
  let second : JobEvent := ⟨.taskStatus [], .ok .running⟩
  let earlier : JobCall Unit := ⟨.status, [first], .ok (.status (some (.job .done)))⟩
  let later : JobCall Unit := ⟨.status, [second], .ok (.status (some (.job .running)))⟩
  have history : History (@JobClass.runtimeJobV2 Unit fun _ => .ok ()).Step
      (RuntimeJobV2.new []) [earlier, later]
      { RuntimeJobV2.new [] with lastStatus := some (.task .running) } :=
    .cons ⟨0, Program.Runs.ask (Program.Runs.done _)⟩
      (.cons ⟨0, Program.Runs.ask (Program.Runs.done _)⟩ (.nil _))
  have observed : ∀ calls, Observed (earlier :: calls) .done := fun calls =>
    ⟨earlier, List.mem_cons_self, first, List.mem_cons_self, by decide, [], .completed, rfl, rfl⟩
  refine ⟨[earlier, later], _, history, rfl, observed _, ?_⟩
  intro sticky
  have keeps := sticky [earlier] later [] rfl .done (observed [])
  exact keeps.1 second List.mem_cons_self ⟨[], .ok .running, rfl⟩

end PrimitiveJobs
