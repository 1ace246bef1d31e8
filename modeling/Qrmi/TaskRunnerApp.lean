import Qrmi.InteractionHiding
import Qrmi.TaskRunner

/-!
# The Python task runner

The runner of the Python package, from the submission of the task on, and its
agreement with the Rust runner.  It asks the same questions: the signal handler
clears the flag that the loop loads, the log lines are diagnostics, and an
exception of the resource is the error that the resource answers with.
-/

open Interaction
open Interaction.Program

namespace TaskRunner

/-- The fields of `App` that one run changes.  The signal handler owns the flag
`_is_running`, and `_qrmi` is set before the task is started. -/
structure App where
  taskId : Option Text
  succeeded : Bool

namespace App

/-- A constructed application. -/
def new : App where
  taskId := none
  succeeded := false

/-- A log line. -/
def log (text : Text) : Runner Unit := do
  let _ ← act (.writeDiagnostics text)

/-- `App._cleanup`. -/
def cleanup (app : App) : Runner Unit :=
  match app.taskId with
  | none => return ()
  | some taskId => do
      match ← act (.taskStop taskId) with
      | .ok () => return ()
      | .error error =>
          log ("Task cleanup failed: ".toList ++ error.display.toList)

/-- `App._report_failure`. -/
def reportFailure (app : App) : Runner Unit :=
  match app.taskId with
  | none => return ()
  | some taskId => do
      match ← act (.taskLogs taskId) with
      | .ok logs => if logs ≠ [] then log logs else return ()
      | .error error =>
          log ("Unable to retrieve task logs: ".toList ++ error.display.toList)

/-- Write the result of a completed task. -/
def writeResult (value : Text) (outputFilename : Option Text) : Runner RunnerResult := do
  match outputFilename.filter (· ≠ []) with
  | some path =>
      match ← act (.writeFile path value) with
      | .error message => return .error (.io message)
      | .ok () => return .ok ()
  | none =>
      match ← act (.writeOutput (value ++ ['\n'])) with
      | .error message => return .error (.io message)
      | .ok () => return .ok ()

/-- The end of `App._run`, after the loop was left without an exception. -/
def deliver (app : App) (taskId : Text) (outputFilename : Option Text) :
    Runner (RunnerResult × App) := do
  if app.succeeded then
    match ← act (.taskResult taskId) with
    | .error error => return (.error (.qrmi error), app)
    | .ok value => do
        let written ← writeResult value outputFilename
        return (written, app)
  else
    return (.error (taskReport taskId "cancelled"), app)

/-- The polling loop of `App._run` and what follows it, cut off after the given
number of passes. -/
def poll : Nat → App → Text → Option Text → Runner (RunnerResult × App)
  | 0, _, _, _ => .pending
  | fuel + 1, app, taskId, outputFilename => do
      let running : Bool ← act .loadRunning
      if running then
        match ← act (.taskStatus taskId) with
        | .error error => do
            log ("Failed to get task status: ".toList ++ error.display.toList ++
              ". Retrying.".toList)
            let _ ← act .sleep
            poll fuel app taskId outputFilename
        | .ok .completed => deliver { app with succeeded := true } taskId outputFilename
        | .ok .failed => return (.error (taskReport taskId "TaskStatus.Failed"), app)
        | .ok .cancelled =>
            return (.error (taskReport taskId "TaskStatus.Cancelled"), app)
        | .ok .queued | .ok .running => do
            let _ ← act .sleep
            poll fuel app taskId outputFilename
      else
        deliver app taskId outputFilename

/-- `App._run` from the submission on: whether it raised, and what it left
behind. -/
def runTask (app : App) (fuel : Nat) (payload : Payload) (outputFilename : Option Text) :
    Runner (RunnerResult × App) := do
  match ← act (.taskStart payload) with
  | .error error => return (.error (.qrmi error), app)
  | .ok taskId => do
      log ("Task ID: ".toList ++ taskId)
      poll fuel { app with taskId := some taskId } taskId outputFilename

/-- The handlers around `App._run`. -/
def finish : RunnerResult × App → Runner Nat
  | (.ok (), app) => do
      app.cleanup
      return 0
  | (.error error, app) => do
      log (RunnerError.display error)
      reportFailure { app with succeeded := false }
      cleanup { app with succeeded := false }
      return 1

/-- `App.run`: the exit status. -/
def run (app : App) (fuel : Nat) (payload : Payload) (outputFilename : Option Text) :
    Runner Nat := do
  let outcome ← app.runTask fuel payload outputFilename
  finish outcome

end App

/-- What a runner runs in: the resource with the running flag and the clock, which
answer from a state of their own, and the stream of diagnostics.  Output is always
written. -/
structure Surroundings (State : Type) where
  reply : State → (action : RunnerAction) → action.Answer × State
  diagnostics : Text → Except Text Unit

namespace Surroundings

variable {State : Type}

/-- The answers that do not depend on the resource. -/
def written (surroundings : Surroundings State) :
    (action : RunnerAction) → Option action.Answer
  | .writeOutput _ => some (.ok ())
  | .writeFile .. => some (.ok ())
  | .writeDiagnostics text => some (surroundings.diagnostics text)
  | .taskStart _ | .taskStatus _ | .taskResult _ | .taskLogs _ | .taskStop _
  | .loadRunning | .sleep => none

def respond (surroundings : Surroundings State) (state : State) (action : RunnerAction) :
    action.Answer × State :=
  match surroundings.written action with
  | some answer => (answer, state)
  | none => surroundings.reply state action

theorem respond_oblivious (surroundings : Surroundings State) (state : State)
    (action : RunnerAction) (answer : action.Answer)
    (hidden : surroundings.written action = some answer) :
    surroundings.respond state action = (answer, state) := by
  simp only [respond, hidden]

theorem written_eq_none_of_isCall (surroundings : Surroundings State) (event : RunnerEvent)
    (call : isCall event) : surroundings.written event.1 = none := by
  unfold isCall at call
  split at call
  · rfl
  · rfl
  · rfl
  · rfl
  · rfl
  · cases call

end Surroundings

section Agreement

variable {State : Type} (surroundings : Surroundings State)
variable (jobId : Text) (outputFile outputFilename : Option Text)

@[simp]
theorem hide_diagnose (text : Text) :
    (diagnose text).hide surroundings.written = pure () :=
  rfl

@[simp]
theorem hide_log (text : Text) :
    (App.log text).hide surroundings.written = pure () :=
  rfl

/-- Both runners stop a started task. -/
theorem hide_stopTask (app : App) (started : app.taskId = some jobId) :
    (stopTask jobId).hide surroundings.written =
      app.cleanup.hide surroundings.written := by
  simp only [App.cleanup, started, stopTask]
  refine hide_question_bind_congr fun answer => ?_
  cases answer with
  | ok stopped => rfl
  | error error => rw [hide_diagnose, hide_log]

/-- Both runners fetch the logs of a task that failed. -/
theorem hide_reportFailure (app : App) (started : app.taskId = some jobId)
    (error : RunnerError) :
    (reportFailure jobId error).hide surroundings.written =
      app.reportFailure.hide surroundings.written := by
  simp only [App.reportFailure, started, reportFailure]
  rw [hide_bind, hide_diagnose, pure_bind]
  refine hide_question_bind_congr fun answer => ?_
  cases answer with
  | error error => rw [hide_diagnose, hide_log]
  | ok logs =>
      by_cases empty : logs = []
      · simp [empty]
      · simp [empty]

/-- The exit status zero says that the run succeeded. -/
def succeeded (status : Nat) : Bool :=
  status == 0

/-- Cleaning up in both runners, after outcomes of one kind. -/
theorem hide_cleanUp (app : App) (started : app.taskId = some jobId)
    {result other : RunnerResult} (same : result.isOk = other.isOk) :
    (cleanUp jobId result >>= fun final => pure final.isOk).hide surroundings.written =
      (App.finish (other, app) >>= fun status => pure (succeeded status)).hide
        surroundings.written := by
  cases result with
  | ok done =>
      cases other with
      | error error => cases same
      | ok finished =>
          have stopped := hide_stopTask surroundings jobId app started
          simp only [cleanUp, App.finish, bind_assoc, pure_bind, hide_bind, stopped]
          rfl
  | error error =>
      cases other with
      | ok finished => cases same
      | error reported =>
          have stopped := hide_stopTask surroundings jobId
            { app with succeeded := false } started
          have logged := hide_reportFailure surroundings jobId
            { app with succeeded := false } started error
          simp only [cleanUp, App.finish, bind_assoc, pure_bind, hide_bind, hide_log,
            stopped, logged]
          rfl

/-- What remains of writing a fetched value. -/
def fetched : Except QrmiError Text → RunnerResult
  | .error error => .error (.qrmi error)
  | .ok _ => .ok ()

theorem hide_deliverResult :
    (deliverResult jobId outputFile).hide surroundings.written =
      (act (.taskResult jobId) >>= fun answer => pure (fetched answer)).hide
        surroundings.written := by
  refine hide_question_bind_congr fun answer => ?_
  cases answer with
  | error error => rfl
  | ok value =>
      cases outputFile with
      | none => rfl
      | some path => rfl

theorem hide_writeResult (value : Text) :
    (App.writeResult value outputFilename).hide surroundings.written =
      pure (.ok ()) := by
  unfold App.writeResult
  split
  · rfl
  · rfl

theorem hide_deliver (app : App) (completed : app.succeeded = true) :
    (app.deliver jobId outputFilename).hide surroundings.written =
      (act (.taskResult jobId) >>= fun answer => pure (fetched answer, app)).hide
        surroundings.written := by
  simp only [App.deliver, completed, if_true]
  refine hide_question_bind_congr fun answer => ?_
  cases answer with
  | error error => rfl
  | ok value =>
      rw [hide_bind, hide_writeResult]
      rfl

/-- The rest of a run of the Rust runner on a started task. -/
def rustRest (fuel : Nat) (jobId : Text) (outputFile : Option Text) : Runner Bool := do
  let result ← poll fuel jobId outputFile
  let final ← cleanUp jobId result
  return final.isOk

/-- The rest of a run of the Python runner on a started task. -/
def pythonRest (fuel : Nat) (app : App) (jobId : Text) (outputFilename : Option Text) :
    Runner Bool := do
  let outcome ← app.poll fuel jobId outputFilename
  let status ← App.finish outcome
  return succeeded status

/-- What follows a completed status. -/
theorem hide_completed (app : App) (started : app.taskId = some jobId)
    (completed : app.succeeded = true) :
    (deliverResult jobId outputFile >>= fun result =>
        cleanUp jobId result >>= fun final => pure final.isOk).hide surroundings.written =
      (app.deliver jobId outputFilename >>= fun outcome =>
        App.finish outcome >>= fun status => pure (succeeded status)).hide
        surroundings.written := by
  have fetchedBoth (answer : Except QrmiError Text) :=
    hide_cleanUp surroundings jobId app started (Eq.refl (fetched answer).isOk)
  rw [hide_bind, hide_deliverResult, hide_bind (app.deliver jobId outputFilename),
    hide_deliver surroundings jobId outputFilename app completed, hide_bind, hide_bind]
  simp only [bind_assoc, hide_pure, pure_bind]
  exact congrArg _ (funext fetchedBoth)

/-- The loops of both runners, with what follows them, ask the same questions. -/
theorem hide_rest (fuel : Nat) (app : App) (started : app.taskId = some jobId)
    (fresh : app.succeeded = false) :
    (rustRest fuel jobId outputFile).hide surroundings.written =
      (pythonRest fuel app jobId outputFilename).hide surroundings.written := by
  induction fuel with
  | zero => rfl
  | succ fuel ih =>
      have ended : ∀ error other : RunnerError,
          (cleanUp jobId (.error error) >>= fun final => pure final.isOk).hide
              surroundings.written =
            (App.finish (.error other, app) >>= fun status => pure (succeeded status)).hide
              surroundings.written :=
        fun error other => hide_cleanUp surroundings jobId app started rfl
      have paused : (act .sleep >>= fun _ => rustRest fuel jobId outputFile).hide
            surroundings.written =
          (act .sleep >>= fun _ => pythonRest fuel app jobId outputFilename).hide
            surroundings.written := hide_question_bind_congr fun _ => ih
      rw [rustRest, pythonRest, poll, App.poll, bind_assoc, bind_assoc]
      refine hide_question_bind_congr fun running => ?_
      cases running with
      | false =>
          simp only [App.deliver, fresh]
          exact ended _ _
      | true =>
          simp only [if_true, pollOnce, bind_assoc]
          refine hide_question_bind_congr fun answer => ?_
          cases answer with
          | error error =>
              simp only [bind_assoc, pure_bind]
              rw [hide_bind, hide_diagnose, hide_bind (App.log _), hide_log]
              exact paused
          | ok status =>
              cases status with
              | queued => exact paused
              | running => exact paused
              | failed => exact ended _ _
              | cancelled => exact ended _ _
              | completed =>
                  simp only [bind_assoc, pure_bind]
                  exact hide_completed surroundings jobId outputFile outputFilename
                    { app with succeeded := true } started rfl

/-- Whole runs ask the same questions. -/
theorem hide_run (fuel : Nat) (payload : Payload) :
    (runTask fuel payload outputFile >>= fun result => pure result.isOk).hide
        surroundings.written =
      (App.new.run fuel payload outputFilename >>= fun status =>
        pure (succeeded status)).hide surroundings.written := by
  simp only [runTask, App.run, App.runTask, bind_assoc]
  refine hide_question_bind_congr fun answer => ?_
  cases answer with
  | error error => rfl
  | ok jobId =>
      have rest := hide_rest surroundings jobId outputFile outputFilename fuel
        { App.new with taskId := some jobId } rfl rfl
      simp only [bind_assoc]
      rw [hide_bind (App.log _), hide_log]
      exact rest

/-- In all surroundings, the Rust and the Python runner make the same calls of the
resource in the same order, are cut off together, and agree on the success of the
run.  The calls carry their arguments and their answers. -/
theorem run_agrees (fuel : Nat) (payload : Payload) (state : State) :
    let rust := (runTask fuel payload outputFile).drive surroundings.respond state
    let python := (App.new.run fuel payload outputFilename).drive surroundings.respond state
    rust.1.filter isCall = python.1.filter isCall ∧
      rust.2.map Except.isOk = python.2.map succeeded := by
  have driven := drive_eq_of_hide_eq
    (hide_run surroundings outputFile outputFilename fuel payload)
    surroundings.respond_oblivious isCall surroundings.written_eq_none_of_isCall state
  rw [drive_bind_pure, drive_bind_pure] at driven
  exact driven

end Agreement

end TaskRunner
