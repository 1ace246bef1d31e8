import Qrmi.MaestroProtocol

/-!
# Legacy sessions and tasks

The client functions of the legacy protocol.  Each sends one command; most of
them expect an acknowledgement, the two creations expect an identifier.
-/

namespace Maestro

open Interaction

/-- A task handle. -/
structure Task where
  id : UInt32
  sessionId : UInt32
  deriving DecidableEq

/-- A session handle. -/
structure Session where
  id : UInt32
  deriving DecidableEq

namespace Session

/-- `Session::new_at`. -/
def newAt (socket : String) : Dialogue (Except String Session) := do
  let created ← requestIdentifier socket .sessionCreate
    "Failed to parse session ID from response" "Failed to create session"
    "Unexpected response when creating session"
  return created.map Session.mk

/-- `Session::session_exists_at`. -/
def sessionExistsAt (id : UInt32) (socket : String) :
    Dialogue (Except String Bool) :=
  acknowledge socket (.sessionExists id) "Failed to check if session exists"
    "Unexpected response when checking if session exists"

/-- `Session::delete_at`. -/
def deleteAt (session : Session) (socket : String) :
    Dialogue (Except String Bool) :=
  acknowledge socket (.sessionDelete session.id) "Failed to delete session"
    "Unexpected response when deleting session"

/-- `Session::create_task_at`. -/
def createTaskAt (session : Session) (socket : String) :
    Dialogue (Except String Task) := do
  let created ← requestIdentifier socket (.taskCreate session.id)
    "Failed to parse task ID from response" "Failed to create task"
    "Unexpected response when creating task"
  return created.map fun id => ⟨id, session.id⟩

end Session

namespace Task

/-- The command of a task verb. -/
def command (task : Task) (verb : TaskVerb) : Command :=
  .task task.sessionId task.id verb

/-- `Task::exists_at`. -/
def existsAt (task : Task) (socket : String) : Dialogue (Except String Bool) :=
  acknowledge socket (task.command .exists) "Failed to check if task exists"
    "Unexpected response when checking if task exists"

/-- `Task::running_at`. -/
def runningAt (task : Task) (socket : String) :
    Dialogue (Except String Bool) :=
  acknowledge socket (task.command .running)
    "Failed to check if task is running"
    "Unexpected response when checking if task is running"

/-- `Task::finished_at`. -/
def finishedAt (task : Task) (socket : String) :
    Dialogue (Except String Bool) :=
  acknowledge socket (task.command .finished)
    "Failed to check if task is finished"
    "Unexpected response when checking if task is finished"

/-- `Task::failed_at`. -/
def failedAt (task : Task) (socket : String) : Dialogue (Except String Bool) :=
  acknowledge socket (task.command .failed) "Failed to check if task is failed"
    "Unexpected response when checking if task is failed"

/-- `Task::execute_at`. -/
def executeAt (task : Task) (socket : String) :
    Dialogue (Except String Bool) :=
  acknowledge socket (task.command .execute) "Failed to execute task"
    "Unexpected response when executing task"

/-- `Task::cancel_at`. -/
def cancelAt (task : Task) (socket : String) : Dialogue (Except String Bool) :=
  acknowledge socket (task.command .cancel) "Failed to cancel task"
    "Unexpected response when canceling task"

/-- `Task::get_results_as_string_at`. -/
def getResultsAsStringAt (task : Task) (socket : String) :
    Dialogue (Except String Text) := do
  match ← sendCommandAt socket (task.command .getResults) with
  | .okResponse results => return .ok results
  | .error error => return .error s!"Failed to get task results: {error}"
  | .ok _ => return .error "Unexpected response when getting task results"

/-- `Task::set_type_at`. -/
def setTypeAt (task : Task) (taskType : TaskType) (socket : String) :
    Dialogue (Except String Bool) :=
  acknowledge socket (task.command (.setType taskType))
    "Failed to set task type" "Unexpected response when setting task type"

/-- `Task::set_qubits_at`. -/
def setQubitsAt (task : Task) (qubits : UInt32) (socket : String) :
    Dialogue (Except String Bool) :=
  acknowledge socket (task.command (.setQubits qubits))
    "Failed to set task qubits" "Unexpected response when setting task qubits"

/-- `Task::set_simulator_type_at`. -/
def setSimulatorTypeAt (task : Task) (simulatorType : UInt32)
    (socket : String) : Dialogue (Except String Bool) :=
  acknowledge socket (task.command (.setSimulatorType simulatorType))
    "Failed to set task simulator type"
    "Unexpected response when setting task simulator type"

/-- `Task::set_simulation_method_at`. -/
def setSimulationMethodAt (task : Task) (method : UInt32) (socket : String) :
    Dialogue (Except String Bool) :=
  acknowledge socket (task.command (.setSimulationMethod method))
    "Failed to set task simulation method"
    "Unexpected response when setting task simulation method"

/-- The argument of a text setter: line breaks become spaces and surrounding
whitespace is dropped, because a command is a single line. -/
def lineArgument (text : Text) : Text :=
  Text.trim (Text.replaceLineBreaks text)

/-- `Task::set_observables_as_string_at`. -/
def setObservablesAsStringAt (task : Task) (observables : Text)
    (socket : String) : Dialogue (Except String Bool) :=
  acknowledge socket
    (task.command (.setObservables (lineArgument observables)))
    "Failed to set task observables"
    "Unexpected response when setting task observables"

/-- `Task::set_qasm_at`. -/
def setQasmAt (task : Task) (qasm : Text) (socket : String) :
    Dialogue (Except String Bool) :=
  acknowledge socket (task.command (.setQasm (lineArgument qasm)))
    "Failed to set task QASM" "Unexpected response when setting task QASM"

/-- `Task::set_options_json_at`. -/
def setOptionsJsonAt (task : Task) (options : Text) (socket : String) :
    Dialogue (Except String Bool) :=
  acknowledge socket (task.command (.setOptions (lineArgument options)))
    "Failed to set task options"
    "Unexpected response when setting task options"

end Task

/-- A session is created by one exchange, exactly when its reply carries an
identifier. -/
theorem runs_newAt {socket : String} {trace : List Exchange}
    {result : Except String Session}
    (runs : (Session.newAt socket).Runs trace result) :
    ∃ reply, trace = [⟨.sessionCreate, reply⟩] ∧
      ∀ session, result = .ok session ↔
        reply.identifier = some session.id := by
  simp only [Session.newAt, Program.runs_bind_iff, Program.runs_pure_iff] at runs
  obtain ⟨first, second, created, rfl, createRuns, rfl, rfl⟩ := runs
  obtain ⟨reply, rfl, meaning⟩ := runs_requestIdentifier createRuns
  refine ⟨reply, rfl, fun session => ?_⟩
  rw [← meaning session.id]
  cases created with
  | error error => simp [Except.map]
  | ok id =>
      cases session
      simp [Except.map]

/-- A task is created by one exchange, exactly when its reply carries an
identifier. -/
theorem runs_createTaskAt {session : Session} {socket : String}
    {trace : List Exchange} {result : Except String Task}
    (runs : (session.createTaskAt socket).Runs trace result) :
    ∃ reply, trace = [⟨.taskCreate session.id, reply⟩] ∧
      ∀ task, result = .ok task ↔
        reply.identifier = some task.id ∧ task.sessionId = session.id := by
  simp only [Session.createTaskAt, Program.runs_bind_iff,
    Program.runs_pure_iff] at runs
  obtain ⟨first, second, created, rfl, createRuns, rfl, rfl⟩ := runs
  obtain ⟨reply, rfl, meaning⟩ := runs_requestIdentifier createRuns
  refine ⟨reply, rfl, fun task => ?_⟩
  rw [← meaning task.id]
  cases created with
  | error error => simp [Except.map]
  | ok id =>
      cases task
      simp [Except.map, eq_comm]

/-- Results are fetched by one exchange. -/
theorem runs_getResultsAsStringAt {task : Task} {socket : String}
    {trace : List Exchange} {result : Except String Text}
    (runs : (task.getResultsAsStringAt socket).Runs trace result) :
    ∃ reply, trace = [⟨task.command .getResults, reply⟩] ∧
      ∀ value, result = .ok value ↔ reply.value = some value := by
  simp only [Task.getResultsAsStringAt, Program.runs_bind_iff,
    runs_sendCommandAt_iff] at runs
  obtain ⟨_, second, response, rfl, ⟨reply, rfl, rfl⟩, rest⟩ := runs
  refine ⟨reply, ?_⟩
  have meaning := readReply_okResponse_iff socket reply
  cases read : readReply socket reply <;>
    simp only [read, Program.runs_pure_iff] at rest <;>
    obtain ⟨rfl, rfl⟩ := rest <;>
    exact ⟨rfl, fun value => by rw [← meaning value, read]; simp⟩

end Maestro
