import Qrmi.InteractionProgram
import Qrmi.QuantumResource

/-!
# The task runner

The command line runner starts one task, polls its status until the task ends or
the running flag is cleared, writes the result, and cleans up.  Calls on the
quantum resource, loads of the flag, waiting and writing are questions, so a run
covers every behaviour of the resource, of the output and of the signal handler.
-/

open Interaction
open Interaction.Program

/-- What the runner does to its environment. -/
inductive RunnerAction
  | taskStart (payload : Payload)
  | taskStatus (jobId : Text)
  | taskResult (jobId : Text)
  | taskLogs (jobId : Text)
  | taskStop (jobId : Text)
  | loadRunning
  | sleep
  | writeOutput (text : Text)
  | writeFile (path contents : Text)
  | writeDiagnostics (text : Text)

/-- The error that the runner returns: an error of the resource, of a write, or
a report of its own. -/
inductive RunnerError
  | qrmi (error : QrmiError)
  | io (message : Text)
  | report (message : Text)

namespace RunnerAction

/-- The answers to an action.  A failed write is represented by the message of
its error. -/
abbrev Answer : RunnerAction → Type
  | taskStart _ => Except QrmiError Text
  | taskStatus _ => Except QrmiError TaskStatus
  | taskResult _ => Except QrmiError Text
  | taskLogs _ => Except QrmiError Text
  | taskStop _ => Except QrmiError Unit
  | loadRunning => Bool
  | sleep => Unit
  | writeOutput _ => Except Text Unit
  | writeFile .. => Except Text Unit
  | writeDiagnostics _ => Except Text Unit

end RunnerAction

namespace TaskRunner

abbrev RunnerEvent : Type :=
  Event RunnerAction.Answer

abbrev Runner (α : Type) : Type :=
  Program RunnerAction RunnerAction.Answer α

abbrev act (action : RunnerAction) : Runner action.Answer :=
  question action

/-- The outcome of a run: `Result<(), Box<dyn Error>>`. -/
abbrev RunnerResult : Type :=
  Except RunnerError Unit

def RunnerError.display : RunnerError → Text
  | .qrmi error => error.display.toList
  | .io message => message
  | .report message => message

/-- `eyre!("Task {job_id} {ending}")`. -/
def taskReport (jobId : Text) (ending : String) : RunnerError :=
  .report ("Task ".toList ++ jobId ++ " ".toList ++ ending.toList)

/-- `let _ = writeln!(diagnostics, ..)`. -/
def diagnose (text : Text) : Runner Unit := do
  let _ ← act (.writeDiagnostics (text ++ ['\n']))

/-- `writeln!(output, ..)?` in front of the rest of a block. -/
def writelnThen (text : Text) (rest : Runner RunnerResult) :
    Runner RunnerResult := do
  match ← act (.writeOutput (text ++ ['\n'])) with
  | .error message => return .error (.io message)
  | .ok () => rest

/-- Fetch the result of a completed task and write it. -/
def deliverResult (jobId : Text) (outputFile : Option Text) :
    Runner RunnerResult := do
  match ← act (.taskResult jobId) with
  | .error error => return .error (.qrmi error)
  | .ok value =>
      match outputFile with
      | some path =>
          match ← act (.writeFile path value) with
          | .error message => return .error (.io message)
          | .ok () =>
              writelnThen ("Wrote output to ".toList ++ path ++ ".".toList)
                (return .ok ())
      | none => writelnThen value (return .ok ())

/-- One pass through the polling loop, up to the pause at its end.  The outcome
is present when the pass leaves the loop. -/
def pollOnce (jobId : Text) (outputFile : Option Text) :
    Runner (Option RunnerResult) := do
  match ← act (.taskStatus jobId) with
  | .ok .completed => return some (← deliverResult jobId outputFile)
  | .ok .failed => return some (.error (taskReport jobId TaskStatus.failed.debug))
  | .ok .cancelled =>
      return some (.error (taskReport jobId TaskStatus.cancelled.debug))
  | .ok .queued | .ok .running => return none
  | .error error => do
      diagnose ("Failed to get task status: ".toList ++ error.display.toList ++
        ". Retrying.".toList)
      return none

/-- The polling loop, cut off after the given number of passes. -/
def poll : Nat → Text → Option Text → Runner RunnerResult
  | 0, _, _ => .pending
  | fuel + 1, jobId, outputFile => do
      let running : Bool ← act .loadRunning
      if running then
        match ← pollOnce jobId outputFile with
        | some outcome => return outcome
        | none => do
            let _ ← act .sleep
            poll fuel jobId outputFile
      else
        return .error (taskReport jobId "cancelled")

/-- What the runner does about a failure: report it and fetch the logs. -/
def reportFailure (jobId : Text) (error : RunnerError) : Runner Unit := do
  diagnose (RunnerError.display error)
  match ← act (.taskLogs jobId) with
  | .ok logs => if logs ≠ [] then diagnose logs else return ()
  | .error error =>
      diagnose ("Unable to retrieve task logs: ".toList ++ error.display.toList)

/-- The last call on the resource. -/
def stopTask (jobId : Text) : Runner Unit := do
  match ← act (.taskStop jobId) with
  | .ok () => return ()
  | .error error =>
      diagnose ("Task cleanup failed: ".toList ++ error.display.toList)

/-- Cleaning up after the block that follows the submission. -/
def cleanUp (jobId : Text) (result : RunnerResult) : Runner RunnerResult := do
  if let .error error := result then reportFailure jobId error
  stopTask jobId
  return result

def runTask (fuel : Nat) (payload : Payload) (outputFile : Option Text) :
    Runner RunnerResult := do
  match ← act (.taskStart payload) with
  | .error error => return .error (.qrmi error)
  | .ok jobId => do
      let result ←
        writelnThen ("Task ID: ".toList ++ jobId) (poll fuel jobId outputFile)
      cleanUp jobId result

section Events

def isCall : RunnerEvent → Bool
  | ⟨.taskStart _, _⟩ | ⟨.taskStatus _, _⟩ | ⟨.taskResult _, _⟩
  | ⟨.taskLogs _, _⟩ | ⟨.taskStop _, _⟩ => true
  | _ => false

def isTaskStatus : RunnerEvent → Bool
  | ⟨.taskStatus _, _⟩ => true
  | _ => false

def isTaskResult : RunnerEvent → Bool
  | ⟨.taskResult _, _⟩ => true
  | _ => false

def isTaskStop : RunnerEvent → Bool
  | ⟨.taskStop _, _⟩ => true
  | _ => false

/-- A load that found the running flag cleared. -/
def isCleared : RunnerEvent → Bool
  | ⟨.loadRunning, running⟩ => !(show Bool from running)
  | _ => false

def isFailedWrite : RunnerEvent → Bool
  | ⟨.writeOutput _, .error _⟩ | ⟨.writeFile .., .error _⟩ => true
  | _ => false

/-- A load of the running flag. -/
def isLoad : RunnerEvent → Bool
  | ⟨.loadRunning, _⟩ => true
  | _ => false

/-- The error by which an event ends the work on a task. -/
def failureOf (jobId : Text) : RunnerEvent → Option RunnerError
  | ⟨.loadRunning, running⟩ =>
      if (show Bool from running) then none
      else some (taskReport jobId "cancelled")
  | ⟨.taskStatus _, .ok .failed⟩ => some (taskReport jobId TaskStatus.failed.debug)
  | ⟨.taskStatus _, .ok .cancelled⟩ =>
      some (taskReport jobId TaskStatus.cancelled.debug)
  | ⟨.taskResult _, .error error⟩ => some (.qrmi error)
  | ⟨.writeOutput _, .error message⟩ => some (.io message)
  | ⟨.writeFile .., .error message⟩ => some (.io message)
  | _ => none

end Events

section Pieces

variable {jobId text : Text} {outputFile : Option Text}
variable {trace : List RunnerEvent} {result : RunnerResult}

theorem runs_diagnose_iff :
    (diagnose text).Runs trace () ↔
      ∃ answer, trace = [⟨.writeDiagnostics (text ++ ['\n']), answer⟩] := by
  unfold diagnose act
  rw [runs_question_bind_iff]
  constructor
  · rintro ⟨answer, later, rfl, runs⟩
    obtain ⟨rfl, -⟩ := runs_pure_iff.mp runs
    exact ⟨answer, rfl⟩
  · rintro ⟨answer, rfl⟩
    exact ⟨answer, [], rfl, runs_pure_iff.mpr ⟨rfl, rfl⟩⟩

theorem runs_writelnThen_iff {rest : Runner RunnerResult} :
    (writelnThen text rest).Runs trace result ↔
      (∃ message, trace = [⟨.writeOutput (text ++ ['\n']), .error message⟩] ∧
        result = .error (.io message)) ∨
      ∃ later, trace = ⟨.writeOutput (text ++ ['\n']), .ok ()⟩ :: later ∧
        rest.Runs later result := by
  rw [writelnThen, runs_question_bind_iff]
  constructor
  · rintro ⟨answer, later, rfl, runs⟩
    cases answer with
    | error message =>
        obtain ⟨rfl, rfl⟩ := runs_pure_iff.mp runs
        exact .inl ⟨message, rfl, rfl⟩
    | ok written => exact .inr ⟨later, rfl, runs⟩
  · rintro (⟨message, rfl, rfl⟩ | ⟨later, rfl, runs⟩)
    · exact ⟨.error message, [], rfl, runs_pure_iff.mpr ⟨rfl, rfl⟩⟩
    · exact ⟨.ok (), later, rfl, runs⟩

/-- The work on a task that was started: at most one fetched result, which
follows a completed status, no poll after the cleared flag was seen, and the
outcome that the first failure decides. -/
structure Settles (jobId : Text) (work : List RunnerEvent)
    (result : RunnerResult) : Prop where
  resultOnce : work.countP isTaskResult ≤ 1
  resultAfterCompleted : ∀ event ∈ work, isTaskResult event →
    ⟨.taskStatus jobId, .ok .completed⟩ ∈ work.takeWhile (!isTaskResult ·)
  quietAfterCleared : work.Pairwise fun earlier later =>
    isCleared earlier → ¬ isTaskStatus later
  succeeds : result = .ok () ↔
    (∃ value, ⟨.taskResult jobId, .ok value⟩ ∈ work) ∧
      ∀ event ∈ work, ¬ isFailedWrite event
  fails : ∀ error, result = .error error ↔
    work.findSome? (failureOf jobId) = some error

/-- An event that keeps the runner polling. -/
def KeepsPolling (jobId : Text) (event : RunnerEvent) : Prop :=
  ¬ isTaskResult event ∧ ¬ isCleared event ∧ ¬ isFailedWrite event ∧
    failureOf jobId event = none

theorem Settles.cons {event : RunnerEvent} {work : List RunnerEvent}
    (settled : Settles jobId work result) (keeps : KeepsPolling jobId event) :
    Settles jobId (event :: work) result := by
  obtain ⟨noResult, notCleared, noFailedWrite, noFailure⟩ := keeps
  constructor
  · rw [List.countP_cons_of_neg noResult]
    exact settled.resultOnce
  · intro other member isResult
    have inWork : other ∈ work := by
      rcases List.mem_cons.mp member with rfl | inWork
      · exact absurd isResult noResult
      · exact inWork
    rw [List.takeWhile_cons_of_pos (by simp [noResult])]
    exact List.mem_cons_of_mem _ (settled.resultAfterCompleted other inWork isResult)
  · refine List.pairwise_cons.mpr ⟨fun other _ cleared => ?_,
      settled.quietAfterCleared⟩
    exact absurd cleared notCleared
  · rw [settled.succeeds]
    have notThisResult : ∀ value, ⟨.taskResult jobId, .ok value⟩ ≠ event := by
      rintro value rfl
      exact noResult rfl
    simp [notThisResult, noFailedWrite]
  · intro error
    rw [settled.fails, List.findSome?_cons, noFailure]

theorem Settles.append {before work : List RunnerEvent}
    (settled : Settles jobId work result)
    (keeps : ∀ event ∈ before, KeepsPolling jobId event) :
    Settles jobId (before ++ work) result := by
  induction before with
  | nil => exact settled
  | cons event before ih =>
      have later := ih fun other member => keeps other (List.mem_cons_of_mem _ member)
      exact later.cons (keeps event (List.mem_cons_self ..))

theorem isCall_of_isTaskStatus {event : RunnerEvent}
    (status : isTaskStatus event = true) : isCall event = true := by
  unfold isTaskStatus at status
  split at status
  · rfl
  · cases status

theorem isCall_of_isTaskResult {event : RunnerEvent}
    (fetched : isTaskResult event = true) : isCall event = true := by
  unfold isTaskResult at fetched
  split at fetched
  · rfl
  · cases fetched

theorem quiet_of_noStatus {events : List RunnerEvent}
    (noStatus : ∀ event ∈ events, ¬ isTaskStatus event) :
    events.Pairwise fun earlier later => isCleared earlier → ¬ isTaskStatus later := by
  have always : events.Pairwise fun _ _ => True :=
    List.pairwise_of_forall fun _ _ => trivial
  exact always.imp_of_mem fun _ later _ _ => noStatus _ later

/-- Writing the result makes no call and fails with its first failed write. -/
structure Wrote (jobId : Text) (writes : List RunnerEvent)
    (result : RunnerResult) : Prop where
  noCall : ∀ event ∈ writes, isCall event = false
  succeeds : result = .ok () ↔ ∀ event ∈ writes, ¬ isFailedWrite event
  fails : ∀ error, result = .error error ↔
    writes.findSome? (failureOf jobId) = some error

theorem Wrote.nil : Wrote jobId [] (.ok ()) := by
  constructor <;> simp

theorem Wrote.failed {event : RunnerEvent} {message : Text}
    (noCall : isCall event = false) (failed : isFailedWrite event = true)
    (failure : failureOf jobId event = some (.io message)) :
    Wrote jobId [event] (.error (.io message)) := by
  constructor <;> simp [noCall, failed, failure]

theorem Wrote.cons {event : RunnerEvent} {writes : List RunnerEvent}
    (wrote : Wrote jobId writes result) (noCall : isCall event = false)
    (succeeded : isFailedWrite event = false)
    (noFailure : failureOf jobId event = none) :
    Wrote jobId (event :: writes) result := by
  constructor
  · simpa [noCall] using wrote.noCall
  · rw [wrote.succeeds]
    simp [succeeded]
  · intro error
    rw [wrote.fails, List.findSome?_cons, noFailure]

theorem writelnThen_wrote
    (runs : (writelnThen text (pure (.ok ()))).Runs trace result) :
    Wrote jobId trace result := by
  rcases runs_writelnThen_iff.mp runs with ⟨message, rfl, rfl⟩ |
    ⟨later, rfl, finished⟩
  · exact .failed rfl rfl rfl
  · obtain ⟨rfl, rfl⟩ := runs_pure_iff.mp finished
    exact Wrote.nil.cons rfl rfl rfl

theorem Settles.fetched {value : Text} {writes : List RunnerEvent}
    (wrote : Wrote jobId writes result) :
    Settles jobId (⟨.taskStatus jobId, .ok .completed⟩ ::
      ⟨.taskResult jobId, .ok value⟩ :: writes) result := by
  have noResult : ∀ event ∈ writes, ¬ isTaskResult event := by
    intro event member isResult
    have call := isCall_of_isTaskResult isResult
    rw [wrote.noCall event member] at call
    cases call
  have noStatus : ∀ event ∈ writes, ¬ isTaskStatus event := by
    intro event member isStatus
    have call := isCall_of_isTaskStatus isStatus
    rw [wrote.noCall event member] at call
    cases call
  constructor
  · have none : writes.countP isTaskResult = 0 := List.countP_eq_zero.mpr noResult
    rw [List.countP_cons_of_neg (by simp [isTaskResult]),
      List.countP_cons_of_pos rfl, none]
  · intro event _ _
    simp [isTaskResult]
  · simpa [isCleared] using quiet_of_noStatus noStatus
  · rw [wrote.succeeds]
    simp [isFailedWrite]
  · intro error
    rw [wrote.fails, List.findSome?_cons, List.findSome?_cons]
    rfl

/-- A block that ends with a refused call or a final answer. -/
theorem Settles.ended {event : RunnerEvent} {error : RunnerError}
    (noResult : isTaskResult event = false)
    (failure : failureOf jobId event = some error) :
    Settles jobId [event] (.error error) := by
  constructor
  · simp [noResult]
  · simp [noResult]
  · exact List.pairwise_singleton _ _
  · have otherwise : ∀ value, ⟨.taskResult jobId, .ok value⟩ ≠ event := by
      rintro value rfl
      cases noResult
    simp [otherwise]
  · simp [failure]

theorem Settles.refused {error : QrmiError} :
    Settles jobId [⟨.taskStatus jobId, .ok .completed⟩,
      ⟨.taskResult jobId, .error error⟩] (.error (.qrmi error)) := by
  have noFailure : failureOf jobId ⟨.taskStatus jobId, .ok .completed⟩ = none := rfl
  have failure :
      failureOf jobId ⟨.taskResult jobId, .error error⟩ = some (.qrmi error) := rfl
  constructor <;> simp [isTaskStatus, isTaskResult, isCleared, noFailure,
    failure]

theorem deliverResult_settles
    (runs : (deliverResult jobId outputFile).Runs trace result) :
    Settles jobId (⟨.taskStatus jobId, .ok .completed⟩ :: trace) result := by
  rw [deliverResult, runs_question_bind_iff] at runs
  obtain ⟨answer, rest, rfl, runs⟩ := runs
  cases answer with
  | error error =>
      obtain ⟨rfl, rfl⟩ := runs_pure_iff.mp runs
      exact .refused
  | ok value =>
      cases outputFile with
      | none => exact .fetched (writelnThen_wrote runs)
      | some path =>
          rw [runs_question_bind_iff] at runs
          obtain ⟨answer, rest, rfl, runs⟩ := runs
          cases answer with
          | error message =>
              obtain ⟨rfl, rfl⟩ := runs_pure_iff.mp runs
              exact .fetched (.failed rfl rfl rfl)
          | ok written =>
              exact .fetched ((writelnThen_wrote runs).cons rfl rfl rfl)

/-- One pass either leaves the loop or asks only what keeps the runner polling. -/
theorem pollOnce_spec {outcome : Option RunnerResult}
    (runs : (pollOnce jobId outputFile).Runs trace outcome) :
    (∃ result, outcome = some result ∧ Settles jobId trace result) ∨
      outcome = none ∧ ∀ event ∈ trace, KeepsPolling jobId event := by
  rw [pollOnce, runs_question_bind_iff] at runs
  obtain ⟨answer, rest, rfl, runs⟩ := runs
  cases answer with
  | error error =>
      obtain ⟨first, second, done, rfl, diagnosed, finished⟩ := runs_bind_iff.mp runs
      obtain ⟨answer, rfl⟩ := runs_diagnose_iff.mp diagnosed
      obtain ⟨rfl, rfl⟩ := runs_pure_iff.mp finished
      refine .inr ⟨rfl, ?_⟩
      simp [KeepsPolling, isTaskResult, isCleared, isFailedWrite, failureOf]
  | ok status =>
      cases status with
      | queued =>
          obtain ⟨rfl, rfl⟩ := runs_pure_iff.mp runs
          refine .inr ⟨rfl, ?_⟩
          simp [KeepsPolling, isTaskResult, isCleared, isFailedWrite, failureOf]
      | running =>
          obtain ⟨rfl, rfl⟩ := runs_pure_iff.mp runs
          refine .inr ⟨rfl, ?_⟩
          simp [KeepsPolling, isTaskResult, isCleared, isFailedWrite, failureOf]
      | completed =>
          obtain ⟨first, second, result, rfl, delivered, finished⟩ :=
            runs_bind_iff.mp runs
          obtain ⟨rfl, rfl⟩ := runs_pure_iff.mp finished
          rw [List.append_nil]
          exact .inl ⟨result, rfl, deliverResult_settles delivered⟩
      | failed =>
          obtain ⟨rfl, rfl⟩ := runs_pure_iff.mp runs
          exact .inl ⟨_, rfl, .ended rfl rfl⟩
      | cancelled =>
          obtain ⟨rfl, rfl⟩ := runs_pure_iff.mp runs
          exact .inl ⟨_, rfl, .ended rfl rfl⟩

theorem poll_settles {fuel : Nat}
    (runs : (poll fuel jobId outputFile).Runs trace result) :
    Settles jobId trace result := by
  induction fuel generalizing trace with
  | zero => cases runs
  | succ fuel ih =>
      rw [poll, runs_question_bind_iff] at runs
      obtain ⟨running, rest, rfl, runs⟩ := runs
      cases running with
      | false =>
          obtain ⟨rfl, rfl⟩ := runs_pure_iff.mp runs
          exact .ended rfl rfl
      | true =>
          have loaded : KeepsPolling jobId ⟨.loadRunning, true⟩ := by
            simp [KeepsPolling, isTaskResult, isCleared, isFailedWrite,
              failureOf]
          obtain ⟨first, second, outcome, rfl, passed, continued⟩ :=
            runs_bind_iff.mp runs
          rcases pollOnce_spec passed with ⟨result, rfl, settled⟩ | ⟨rfl, keeps⟩
          · obtain ⟨rfl, rfl⟩ := runs_pure_iff.mp continued
            rw [List.append_nil]
            exact settled.cons loaded
          · obtain ⟨slept, later, rfl, polled⟩ :=
              runs_question_bind_iff.mp continued
            have paused : KeepsPolling jobId ⟨.sleep, slept⟩ := by
              simp [KeepsPolling, isTaskResult, isCleared, isFailedWrite,
                failureOf]
            exact (((ih polled).cons paused).append keeps).cons loaded

/-- An event that decides nothing about the task. -/
def Inert (jobId : Text) (event : RunnerEvent) : Prop :=
  ¬ isTaskResult event ∧ ¬ isTaskStatus event ∧ ¬ isFailedWrite event ∧
    failureOf jobId event = none

theorem Settles.append_inert {work tail : List RunnerEvent}
    (settled : Settles jobId work result)
    (inert : ∀ event ∈ tail, Inert jobId event) :
    Settles jobId (work ++ tail) result := by
  have noResult : ∀ event ∈ tail, ¬ isTaskResult event :=
    fun event member => (inert event member).1
  have noStatus : ∀ event ∈ tail, ¬ isTaskStatus event :=
    fun event member => (inert event member).2.1
  have noFailedWrite : ∀ event ∈ tail, ¬ isFailedWrite event :=
    fun event member => (inert event member).2.2.1
  have noFailure : ∀ event ∈ tail, failureOf jobId event = none :=
    fun event member => (inert event member).2.2.2
  constructor
  · rw [List.countP_append, List.countP_eq_zero.mpr noResult]
    exact settled.resultOnce
  · intro event member isResult
    have inWork : event ∈ work := by
      rcases List.mem_append.mp member with inWork | inTail
      · exact inWork
      · exact absurd isResult (noResult event inTail)
    rw [List.takeWhile_append]
    split
    · next whole =>
        have completed := settled.resultAfterCompleted event inWork isResult
        exact List.mem_append_left _ (List.takeWhile_prefix _ |>.subset completed)
    · exact settled.resultAfterCompleted event inWork isResult
  · exact List.pairwise_append.mpr ⟨settled.quietAfterCleared,
      quiet_of_noStatus noStatus, fun _ _ later member _ => noStatus later member⟩
  · have notFetched : ∀ value, ⟨.taskResult jobId, .ok value⟩ ∉ tail :=
      fun value member => noResult _ member rfl
    rw [settled.succeeds]
    constructor
    · rintro ⟨⟨value, member⟩, written⟩
      refine ⟨⟨value, List.mem_append_left _ member⟩, fun event inWhole => ?_⟩
      rcases List.mem_append.mp inWhole with inWork | inTail
      · exact written event inWork
      · exact noFailedWrite event inTail
    · rintro ⟨⟨value, member⟩, written⟩
      have inWork := (List.mem_append.mp member).resolve_right (notFetched value)
      exact ⟨⟨value, inWork⟩,
        fun event member => written event (List.mem_append_left _ member)⟩
  · intro error
    have silent : tail.findSome? (failureOf jobId) = none :=
      List.findSome?_eq_none_iff.mpr noFailure
    rw [settled.fails, List.findSome?_append, silent, Option.or_none]

def isDiagnostic : RunnerEvent → Bool
  | ⟨.writeDiagnostics _, _⟩ => true
  | _ => false

theorem diagnostic_shape {event : RunnerEvent} (diagnostic : isDiagnostic event) :
    ∃ text answer, event = ⟨.writeDiagnostics text, answer⟩ := by
  unfold isDiagnostic at diagnostic
  split at diagnostic
  · exact ⟨_, _, rfl⟩
  · cases diagnostic

theorem diagnose_diagnostic (runs : (diagnose text).Runs trace ()) :
    ∀ event ∈ trace, isDiagnostic event := by
  obtain ⟨answer, rfl⟩ := runs_diagnose_iff.mp runs
  simp [isDiagnostic]

/-- Reporting a failure makes exactly one call, the one for the logs. -/
theorem reportFailure_spec {error : RunnerError}
    (runs : (reportFailure jobId error).Runs trace ()) :
    ∃ before answer after, trace = before ++ ⟨.taskLogs jobId, answer⟩ :: after ∧
      (∀ event ∈ before, isDiagnostic event) ∧
      ∀ event ∈ after, isDiagnostic event := by
  obtain ⟨before, rest, done, rfl, diagnosed, requested⟩ := runs_bind_iff.mp runs
  obtain ⟨answer, after, rfl, handled⟩ := runs_question_bind_iff.mp requested
  refine ⟨before, answer, after, rfl, diagnose_diagnostic diagnosed, ?_⟩
  cases answer with
  | error error => exact diagnose_diagnostic handled
  | ok logs =>
      by_cases nonempty : logs ≠ []
      · exact diagnose_diagnostic (by simpa [nonempty] using handled)
      · have nothing : after = [] := by simpa [nonempty] using handled
        simp [nothing]

theorem stopTask_spec (runs : (stopTask jobId).Runs trace ()) :
    ∃ answer after, trace = ⟨.taskStop jobId, answer⟩ :: after ∧
      ∀ event ∈ after, isDiagnostic event := by
  obtain ⟨answer, after, rfl, handled⟩ := runs_question_bind_iff.mp runs
  refine ⟨answer, after, rfl, ?_⟩
  cases answer with
  | error error => exact diagnose_diagnostic handled
  | ok stopped =>
      obtain ⟨rfl, -⟩ := runs_pure_iff.mp handled
      simp

theorem inert_of_isDiagnostic {event : RunnerEvent}
    (diagnostic : isDiagnostic event) : Inert jobId event := by
  obtain ⟨text, answer, rfl⟩ := diagnostic_shape diagnostic
  simp [Inert, isTaskResult, isTaskStatus, isFailedWrite, failureOf]

theorem filter_isCall_diagnostic {events : List RunnerEvent}
    (diagnostic : ∀ event ∈ events, isDiagnostic event) :
    events.filter isCall = [] := by
  refine List.filter_eq_nil_iff.mpr fun event member => ?_
  obtain ⟨text, answer, rfl⟩ := diagnostic_shape (diagnostic event member)
  simp [isCall]

/-- The calls that cleaning up makes after the given outcome. -/
def IsCleanup (jobId : Text) (result : RunnerResult) (calls : List RunnerEvent) :
    Prop :=
  match result with
  | .ok () => ∃ stopped, calls = [⟨.taskStop jobId, stopped⟩]
  | .error _ => ∃ logs stopped,
      calls = [⟨.taskLogs jobId, logs⟩, ⟨.taskStop jobId, stopped⟩]

/-- Cleaning up returns the outcome it was given, decides nothing about the task,
and stops it last. -/
theorem cleanUp_spec {final : RunnerResult}
    (runs : (cleanUp jobId result).Runs trace final) :
    final = result ∧ (∀ event ∈ trace, Inert jobId event) ∧
      IsCleanup jobId result (trace.filter isCall) := by
  have inertLogs : ∀ answer, Inert jobId ⟨.taskLogs jobId, answer⟩ := by
    simp [Inert, isTaskResult, isTaskStatus, isFailedWrite, failureOf]
  have inertStop : ∀ answer, Inert jobId ⟨.taskStop jobId, answer⟩ := by
    simp [Inert, isTaskResult, isTaskStatus, isFailedWrite, failureOf]
  cases result with
  | ok finished =>
      obtain ⟨stopping, rest, done, rfl, stopped, returned⟩ := runs_bind_iff.mp runs
      obtain ⟨rfl, rfl⟩ := runs_pure_iff.mp returned
      obtain ⟨answer, after, rfl, afterDiagnostic⟩ := stopTask_spec stopped
      rw [List.append_nil]
      refine ⟨rfl, ?_, answer, ?_⟩
      · intro event member
        rcases List.mem_cons.mp member with rfl | inAfter
        · exact inertStop answer
        · exact inert_of_isDiagnostic (afterDiagnostic event inAfter)
      · rw [List.filter_cons_of_pos rfl, filter_isCall_diagnostic afterDiagnostic]
  | error error =>
      obtain ⟨reporting, rest, done, rfl, reported, continued⟩ :=
        runs_bind_iff.mp runs
      obtain ⟨stopping, rest, done, rfl, stopped, returned⟩ :=
        runs_bind_iff.mp continued
      obtain ⟨rfl, rfl⟩ := runs_pure_iff.mp returned
      obtain ⟨before, logs, between, rfl, beforeDiagnostic, betweenDiagnostic⟩ :=
        reportFailure_spec reported
      obtain ⟨answer, after, rfl, afterDiagnostic⟩ := stopTask_spec stopped
      rw [List.append_nil, List.append_assoc, List.cons_append]
      refine ⟨rfl, ?_, logs, answer, ?_⟩
      · intro event member
        rcases List.mem_append.mp member with inBefore | later
        · exact inert_of_isDiagnostic (beforeDiagnostic event inBefore)
        rcases List.mem_cons.mp later with rfl | later
        · exact inertLogs logs
        rcases List.mem_append.mp later with inBetween | last
        · exact inert_of_isDiagnostic (betweenDiagnostic event inBetween)
        rcases List.mem_cons.mp last with rfl | inAfter
        · exact inertStop answer
        · exact inert_of_isDiagnostic (afterDiagnostic event inAfter)
      · rw [List.filter_append, List.filter_cons_of_pos rfl, List.filter_append,
          List.filter_cons_of_pos rfl, filter_isCall_diagnostic beforeDiagnostic,
          filter_isCall_diagnostic betweenDiagnostic,
          filter_isCall_diagnostic afterDiagnostic]
        rfl

/-! ## Length of the polling loop -/

theorem writelnThen_total {rest : Runner RunnerResult} (total : rest.Total) :
    (writelnThen text rest).Total := by
  refine (total_question _).bind fun answer => ?_
  cases answer with
  | error message => exact total_pure _
  | ok written => exact total

theorem deliverResult_total : (deliverResult jobId outputFile).Total := by
  refine (total_question _).bind fun answer => ?_
  cases answer with
  | error error => exact total_pure _
  | ok value =>
      cases outputFile with
      | none => exact writelnThen_total (total_pure _)
      | some path =>
          refine (total_question _).bind fun answer => ?_
          cases answer with
          | error message => exact total_pure _
          | ok written => exact writelnThen_total (total_pure _)

theorem diagnose_total : (diagnose text).Total :=
  (total_question _).bind fun _ => total_pure _

theorem pollOnce_total : (pollOnce jobId outputFile).Total := by
  refine (total_question _).bind fun answer => ?_
  cases answer with
  | error error => exact diagnose_total.bind fun _ => total_pure _
  | ok status =>
      cases status with
      | completed => exact deliverResult_total.bind fun _ => total_pure _
      | queued | running | failed | cancelled => exact total_pure _

theorem stopTask_total : (stopTask jobId).Total := by
  refine (total_question _).bind fun answer => ?_
  cases answer with
  | error error => exact diagnose_total
  | ok stopped => exact total_pure _

theorem reportFailure_total {error : RunnerError} :
    (reportFailure jobId error).Total := by
  refine diagnose_total.bind fun _ => (total_question _).bind fun answer => ?_
  cases answer with
  | error error => exact diagnose_total
  | ok logs =>
      by_cases nonempty : logs ≠ []
      · simpa [nonempty] using diagnose_total
      · simpa [nonempty] using total_pure ()

theorem cleanUp_total : (cleanUp jobId result).Total := by
  cases result with
  | ok finished => exact stopTask_total.bind fun _ => total_pure _
  | error error =>
      exact reportFailure_total.bind fun _ =>
        stopTask_total.bind fun _ => total_pure _

/-! ## Calls of the block after the submission -/

/-- An event that neither stops the task nor loads the running flag. -/
abbrev Inside (event : RunnerEvent) : Prop :=
  isTaskStop event = false ∧ isLoad event = false

theorem writelnThen_inside : (writelnThen text (pure (.ok ()))).Emits Inside := by
  refine (emits_question fun _ => ⟨rfl, rfl⟩).bind fun answer => ?_
  cases answer with
  | error message => exact emits_pure _ _
  | ok written => exact emits_pure _ _

theorem deliverResult_inside : (deliverResult jobId outputFile).Emits Inside := by
  refine (emits_question fun _ => ⟨rfl, rfl⟩).bind fun answer => ?_
  cases answer with
  | error error => exact emits_pure _ _
  | ok value =>
      cases outputFile with
      | none => exact writelnThen_inside
      | some path =>
          refine (emits_question fun _ => ⟨rfl, rfl⟩).bind fun answer => ?_
          cases answer with
          | error message => exact emits_pure _ _
          | ok written => exact writelnThen_inside

theorem pollOnce_inside : (pollOnce jobId outputFile).Emits Inside := by
  refine (emits_question fun _ => ⟨rfl, rfl⟩).bind fun answer => ?_
  cases answer with
  | error error =>
      have diagnosed : ∀ text, (diagnose text).Emits Inside := fun text =>
        (emits_question fun _ => ⟨rfl, rfl⟩).bind fun _ => emits_pure () _
      exact (diagnosed _).bind fun _ => emits_pure _ _
  | ok status =>
      cases status with
      | completed => exact deliverResult_inside.bind fun _ => emits_pure _ _
      | queued | running | failed | cancelled => exact emits_pure _ _

theorem poll_emits {fuel : Nat} :
    (poll fuel jobId outputFile).Emits fun event => isTaskStop event = false := by
  induction fuel with
  | zero => nofun
  | succ fuel ih =>
      refine (emits_question fun _ => rfl).bind fun running => ?_
      cases running with
      | false => exact emits_pure _ _
      | true =>
          have passed : (pollOnce jobId outputFile).Emits
              fun event => isTaskStop event = false :=
            fun trace outcome runs event member =>
              (pollOnce_inside trace outcome runs event member).1
          refine passed.bind fun outcome => ?_
          cases outcome with
          | some result => exact emits_pure _ _
          | none => exact (emits_question fun _ => rfl).bind fun _ => ih

/-- The loop is cut off only after as many passes as it was given, all of which
saw the running flag set and no final answer. -/
theorem poll_exhausts {fuel : Nat}
    (exhausts : (poll fuel jobId outputFile).Exhausts trace) :
    trace.countP isLoad = fuel ∧ ∀ event ∈ trace, KeepsPolling jobId event := by
  induction fuel generalizing trace with
  | zero =>
      rw [exhausts_pending_iff.mp exhausts]
      simp
  | succ fuel ih =>
      obtain ⟨running, rest, rfl, continued⟩ :=
        exhausts_question_bind_iff.mp exhausts
      cases running with
      | false => exact absurd continued not_exhausts_pure
      | true =>
          rcases exhausts_bind_iff.mp continued with inPass |
            ⟨first, second, outcome, rfl, passed, resumed⟩
          · exact absurd inPass (pollOnce_total _)
          rcases pollOnce_spec passed with ⟨result, rfl, -⟩ | ⟨rfl, keeps⟩
          · exact absurd resumed not_exhausts_pure
          obtain ⟨slept, later, rfl, polling⟩ :=
            exhausts_question_bind_iff.mp resumed
          obtain ⟨loads, keepsLater⟩ := ih polling
          have noLoad : first.countP isLoad = 0 := by
            refine List.countP_eq_zero.mpr fun event member => ?_
            rw [(pollOnce_inside first _ passed event member).2]
            exact Bool.false_ne_true
          constructor
          · rw [List.countP_cons_of_pos rfl, List.countP_append, noLoad,
              List.countP_cons_of_neg (by simp [isLoad]), loads, Nat.zero_add]
          · have loaded : KeepsPolling jobId ⟨.loadRunning, true⟩ := by
              simp [KeepsPolling, isTaskResult, isCleared, isFailedWrite, failureOf]
            have paused : KeepsPolling jobId ⟨.sleep, slept⟩ := by
              simp [KeepsPolling, isTaskResult, isCleared, isFailedWrite, failureOf]
            intro event member
            rcases List.mem_cons.mp member with rfl | member
            · exact loaded
            rcases List.mem_append.mp member with inFirst | member
            · exact keeps event inFirst
            rcases List.mem_cons.mp member with rfl | inLater
            · exact paused
            · exact keepsLater event inLater

end Pieces

/-! ## Complete runs -/

/-- The contract of a run after the task was started under `jobId`. -/
structure CleansUp (jobId : Text) (trace : List RunnerEvent)
    (result : RunnerResult) : Prop extends Settles jobId trace result where
  stopsOnce : trace.countP isTaskStop = 1
  stopsLast : ∃ answer,
    (trace.filter isCall).getLast? = some ⟨.taskStop jobId, answer⟩
  logsBeforeStop : ∀ error, result = .error error → ∃ earlier logs stopped,
    trace.filter isCall =
      earlier ++ [⟨.taskLogs jobId, logs⟩, ⟨.taskStop jobId, stopped⟩]

theorem isCall_of_isTaskStop {event : RunnerEvent}
    (stop : isTaskStop event = true) : isCall event = true := by
  unfold isTaskStop at stop
  split at stop
  · rfl
  · cases stop

theorem countP_isTaskStop_filter (trace : List RunnerEvent) :
    (trace.filter isCall).countP isTaskStop = trace.countP isTaskStop := by
  rw [List.countP_filter]
  refine List.countP_congr fun event _ => ?_
  simpa using isCall_of_isTaskStop

theorem Settles.cleansUp {jobId : Text} {work cleanup : List RunnerEvent}
    {result : RunnerResult} (settled : Settles jobId work result)
    (unstopped : ∀ event ∈ work, isTaskStop event = false)
    (inert : ∀ event ∈ cleanup, Inert jobId event)
    (cleaned : IsCleanup jobId result (cleanup.filter isCall)) :
    CleansUp jobId (work ++ cleanup) result := by
  have noStop : work.countP isTaskStop = 0 :=
    List.countP_eq_zero.mpr fun event member => by simp [unstopped event member]
  refine ⟨settled.append_inert inert, ?_, ?_, ?_⟩
  · rw [List.countP_append, noStop, ← countP_isTaskStop_filter cleanup]
    cases result with
    | ok finished =>
        obtain ⟨stopped, calls⟩ := cleaned
        rw [calls]
        rfl
    | error error =>
        obtain ⟨logs, stopped, calls⟩ := cleaned
        rw [calls]
        rfl
  · rw [List.filter_append]
    cases result with
    | ok finished =>
        obtain ⟨stopped, calls⟩ := cleaned
        rw [calls]
        exact ⟨stopped, List.getLast?_concat⟩
    | error error =>
        obtain ⟨logs, stopped, calls⟩ := cleaned
        rw [calls]
        exact ⟨stopped, by simp⟩
  · rintro error rfl
    obtain ⟨logs, stopped, calls⟩ := cleaned
    rw [List.filter_append, calls]
    exact ⟨_, logs, stopped, rfl⟩

theorem submitted_settles {fuel : Nat} {jobId text : Text}
    {outputFile : Option Text} {trace : List RunnerEvent} {result : RunnerResult}
    (runs : (writelnThen text (poll fuel jobId outputFile)).Runs trace result) :
    Settles jobId trace result ∧ ∀ event ∈ trace, isTaskStop event = false := by
  rcases runs_writelnThen_iff.mp runs with ⟨message, rfl, rfl⟩ | ⟨later, rfl, polled⟩
  · refine ⟨.ended rfl rfl, ?_⟩
    simp [isTaskStop]
  · have written :
        KeepsPolling jobId ⟨.writeOutput (text ++ ['\n']), .ok ()⟩ := by
      simp [KeepsPolling, isTaskResult, isCleared, isFailedWrite, failureOf]
    refine ⟨(poll_settles polled).cons written, fun event member => ?_⟩
    rcases List.mem_cons.mp member with rfl | inLater
    · rfl
    · exact poll_emits later result polled event inLater

/-- A refused submission is the only call.  After a successful one the runner
cleans up exactly once, and it is still polling only while every load saw the
running flag set and no answer was final. -/
theorem runTask_contract (fuel : Nat) (payload : Payload)
    (outputFile : Option Text) :
    (∀ trace result, (runTask fuel payload outputFile).Runs trace result →
      (∃ error, trace = [⟨.taskStart payload, .error error⟩] ∧
        result = .error (.qrmi error)) ∨
      ∃ jobId rest, trace = ⟨.taskStart payload, .ok jobId⟩ :: rest ∧
        CleansUp jobId rest result) ∧
    (∀ trace, (runTask fuel payload outputFile).Exhausts trace →
      ∃ jobId rest, trace = ⟨.taskStart payload, .ok jobId⟩ :: rest ∧
        rest.countP isLoad = fuel ∧ ∀ event ∈ rest, KeepsPolling jobId event) := by
  constructor
  · intro trace result runs
    obtain ⟨answer, rest, rfl, started⟩ := runs_question_bind_iff.mp runs
    cases answer with
    | error error =>
        obtain ⟨rfl, rfl⟩ := runs_pure_iff.mp started
        exact .inl ⟨error, rfl, rfl⟩
    | ok jobId =>
        obtain ⟨work, cleanup, outcome, rfl, worked, cleaned⟩ :=
          runs_bind_iff.mp started
        obtain ⟨settled, unstopped⟩ := submitted_settles worked
        obtain ⟨rfl, inert, calls⟩ := cleanUp_spec cleaned
        exact .inr ⟨jobId, _, rfl, settled.cleansUp unstopped inert calls⟩
  · intro trace exhausts
    obtain ⟨answer, rest, rfl, started⟩ := exhausts_question_bind_iff.mp exhausts
    cases answer with
    | error error => exact absurd started not_exhausts_pure
    | ok jobId =>
        refine ⟨jobId, rest, rfl, ?_⟩
        rcases exhausts_bind_iff.mp started with working |
          ⟨_, second, outcome, -, -, cleaning⟩
        · obtain ⟨written, later, rfl, polling⟩ :=
            exhausts_question_bind_iff.mp working
          cases written with
          | error message => exact absurd polling not_exhausts_pure
          | ok written =>
              obtain ⟨loads, keeps⟩ := poll_exhausts polling
              have begun : KeepsPolling jobId
                  ⟨.writeOutput ("Task ID: ".toList ++ jobId ++ ['\n']), .ok ()⟩ := by
                simp [KeepsPolling, isTaskResult, isCleared, isFailedWrite,
                  failureOf]
              refine ⟨by rw [List.countP_cons_of_neg (by simp [isLoad]), loads], ?_⟩
              intro event member
              rcases List.mem_cons.mp member with rfl | inLater
              · exact begun
              · exact keeps event inLater
        · exact absurd cleaning (cleanUp_total _)

/-- A submission whose only poll fails and that is then interrupted, with the
logs and the stop refused too. -/
def interruptedWork : List RunnerEvent :=
  [⟨.writeOutput "Task ID: 7\n".toList, .ok ()⟩, ⟨.loadRunning, true⟩,
    ⟨.taskStatus ['7'], .error (.other "offline")⟩,
    ⟨.writeDiagnostics
      "Failed to get task status: offline. Retrying.\n".toList, .ok ()⟩,
    ⟨.sleep, ()⟩, ⟨.loadRunning, false⟩,
    ⟨.writeDiagnostics "Task 7 cancelled\n".toList, .ok ()⟩,
    ⟨.taskLogs ['7'], .error (.other "offline")⟩,
    ⟨.writeDiagnostics "Unable to retrieve task logs: offline\n".toList, .ok ()⟩,
    ⟨.taskStop ['7'], .error (.other "offline")⟩,
    ⟨.writeDiagnostics "Task cleanup failed: offline\n".toList, .ok ()⟩]

theorem runTask_interrupted :
    (runTask 2 (.oqtopus []) none).Runs
      (⟨.taskStart (.oqtopus []), .ok ['7']⟩ :: interruptedWork)
      (.error (taskReport ['7'] "cancelled")) :=
  .ask (.ask (.ask (.ask (.ask (.ask (.ask (.ask (.ask (.ask (.ask (.ask
    (.done _))))))))))))

theorem runTask_contract_interrupted :
    CleansUp ['7'] interruptedWork (.error (taskReport ['7'] "cancelled")) := by
  rcases (runTask_contract 2 (.oqtopus []) none).1 _ _ runTask_interrupted with
    ⟨error, equal, -⟩ | ⟨jobId, rest, equal, cleansUp⟩
  · cases equal
  · obtain ⟨event, rfl⟩ := List.cons.inj equal
    cases event
    exact cleansUp

end TaskRunner
