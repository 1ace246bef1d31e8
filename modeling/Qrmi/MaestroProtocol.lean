import Qrmi.InteractionMethod
import Qrmi.Json

/-!
# The Maestro socket protocol

One exchange writes one command line to the server's socket and reads one reply
line, or fails in the transport.  The legacy commands name a session and a task;
the native request API sends a JSON document.  A reply is arbitrary text: the
server is not trusted to answer sensibly.
-/

namespace Maestro

open Interaction

/-- The kind of a legacy task. -/
inductive TaskType
  | execute
  | estimate
  deriving DecidableEq

/-- What a legacy task command asks of its task. -/
inductive TaskVerb
  | exists
  | failed
  | finished
  | running
  | execute
  | cancel
  | getResults
  | setType (taskType : TaskType)
  | setQubits (qubits : UInt32)
  | setSimulatorType (simulatorType : UInt32)
  | setSimulationMethod (method : UInt32)
  | setObservables (observables : Text)
  | setQasm (qasm : Text)
  | setOptions (options : Text)
  deriving DecidableEq

/-- One command of the socket protocol. -/
inductive Command
  | ping
  | sessionCreate
  | sessionExists (session : UInt32)
  | sessionDelete (session : UInt32)
  | taskCreate (session : UInt32)
  | task (session id : UInt32) (verb : TaskVerb)
  | api (document : Json)

/-- The outcome of one exchange: the reply line, or the transport error. -/
abbrev Reply : Type :=
  Except String Text

/-- One exchange with the server. -/
abbrev Exchange : Type :=
  Event fun _ : Command => Reply

/-- A program that exchanges commands for replies. -/
abbrev Dialogue (α : Type) : Type :=
  Program Command (fun _ => Reply) α

def TaskType.render : TaskType → Text
  | .execute => "EXECUTE".toList
  | .estimate => "ESTIMATE".toList

def TaskVerb.render : TaskVerb → Text
  | .exists => "EXISTS".toList
  | .failed => "FAILED".toList
  | .finished => "FINISHED".toList
  | .running => "RUNNING".toList
  | .execute => "EXECUTE".toList
  | .cancel => "CANCEL".toList
  | .getResults => "GET_RESULTS".toList
  | .setType taskType => "SET_TYPE ".toList ++ taskType.render
  | .setQubits qubits => "SET_QUBITS ".toList ++ Text.showU32 qubits
  | .setSimulatorType simulatorType =>
      "SET_SIM_TYPE ".toList ++ Text.showU32 simulatorType
  | .setSimulationMethod method => "SET_METHOD ".toList ++ Text.showU32 method
  | .setObservables observables => "SET_OBSERVABLES ".toList ++ observables
  | .setQasm qasm => "SET_QASM ".toList ++ qasm
  | .setOptions options => "SET_OPTIONS ".toList ++ options

/-- The line that is written to the socket. -/
def Command.render (json : JsonLibrary) : Command → Text
  | .ping => "PING\n".toList
  | .sessionCreate => "SESSION CREATE\n".toList
  | .sessionExists session =>
      "SESSION ".toList ++ Text.showU32 session ++ " EXISTS\n".toList
  | .sessionDelete session =>
      "SESSION ".toList ++ Text.showU32 session ++ " DELETE\n".toList
  | .taskCreate session =>
      "SESSION ".toList ++ Text.showU32 session ++ " TASK CREATE\n".toList
  | .task session id verb =>
      "SESSION ".toList ++ Text.showU32 session ++ " TASK ".toList ++
        Text.showU32 id ++ " ".toList ++ verb.render ++ "\n".toList
  | .api document => "API ".toList ++ json.dump document ++ "\n".toList

/-- A parsed reply to a legacy command. -/
inductive Response
  | ok (value : Bool)
  | error (message : String)
  | okResponse (value : Text)

/-- `maestro_lib::parse_response`. -/
def parseResponse (line : Text) : Response :=
  let response := Text.trim line
  if response = "OK".toList then .ok true
  else
    match Text.stripPrefix "OK ".toList response with
    | some rest =>
        let value := Text.trim rest
        if value = "YES".toList ∨ value = [] then .ok true
        else if value = "NO".toList then .ok false
        else .okResponse value
    | none =>
        match Text.stripPrefix "ERROR ".toList response with
        | some rest => .error (String.ofList (Text.trim rest))
        | none => .error s!"Unexpected response: {Text.debug response}"

/-- How a reply to a legacy command is understood. -/
def readReply (socket : String) : Reply → Response
  | .ok line => parseResponse line
  | .error error => .error s!"Maestro socket {socket}: {error}"

/-- `maestro_lib::send_command_at`. -/
def sendCommandAt (socket : String) (command : Command) : Dialogue Response := do
  let reply ← Program.question command
  return readReply socket reply

/-- The truth value that a reply acknowledges, if it is an acknowledgement. -/
def Reply.acknowledgement (reply : Reply) : Option Bool :=
  match readReply "" reply with
  | .ok value => some value
  | _ => none

/-- The identifier that a reply carries, if it carries one. -/
def Reply.identifier (reply : Reply) : Option UInt32 :=
  match readReply "" reply with
  | .okResponse value => Text.parseU32 value
  | _ => none

/-- The value that a reply carries, if it carries one. -/
def Reply.value (reply : Reply) : Option Text :=
  match readReply "" reply with
  | .okResponse value => some value
  | _ => none

theorem readReply_ok_iff (socket : String) (reply : Reply) (value : Bool) :
    readReply socket reply = .ok value ↔
      reply.acknowledgement = some value := by
  cases reply with
  | error error => simp [readReply, Reply.acknowledgement]
  | ok line =>
      simp only [readReply, Reply.acknowledgement]
      cases parseResponse line <;> simp

theorem readReply_okResponse_iff (socket : String) (reply : Reply)
    (value : Text) :
    readReply socket reply = .okResponse value ↔
      reply.value = some value := by
  cases reply with
  | error error => simp [readReply, Reply.value]
  | ok line =>
      simp only [readReply, Reply.value]
      cases parseResponse line <;> simp

theorem Reply.identifier_eq (reply : Reply) :
    reply.identifier = reply.value.bind Text.parseU32 := by
  unfold Reply.identifier Reply.value
  cases readReply "" reply <;> rfl

@[simp]
theorem runs_sendCommandAt_iff {socket : String} {command : Command}
    {trace : List Exchange} {response : Response} :
    (sendCommandAt socket command).Runs trace response ↔
      ∃ reply, trace = [⟨command, reply⟩] ∧
        response = readReply socket reply := by
  simp only [sendCommandAt, Program.runs_bind_iff, Program.runs_question_iff,
    Program.runs_pure_iff]
  constructor
  · rintro ⟨_, _, reply, rfl, rfl, rfl, rfl⟩
    exact ⟨reply, rfl, rfl⟩
  · rintro ⟨reply, rfl, rfl⟩
    exact ⟨_, [], reply, rfl, rfl, rfl, rfl⟩

/-- An exchange whose reply must be an acknowledgement.  The client functions
of this shape differ in their command and in their two messages only. -/
def acknowledge (socket : String) (command : Command)
    (failure unexpected : String) : Dialogue (Except String Bool) := do
  match ← sendCommandAt socket command with
  | .ok value => return .ok value
  | .error error => return .error s!"{failure}: {error}"
  | .okResponse _ => return .error unexpected

/-- An exchange whose reply must carry an identifier. -/
def requestIdentifier (socket : String) (command : Command)
    (malformed failure unexpected : String) :
    Dialogue (Except String UInt32) := do
  match ← sendCommandAt socket command with
  | .okResponse value =>
      match Text.parseU32 value with
      | some id => return .ok id
      | none => return .error s!"{malformed}: {String.ofList value}"
  | .error error => return .error s!"{failure}: {error}"
  | .ok _ => return .error unexpected

/-- A dialogue that sends one command and succeeds exactly on an acknowledging
reply, with the acknowledged value. -/
def Asks (command : Command) (dialogue : Dialogue (Except String Bool)) :
    Prop :=
  ∀ {trace response}, dialogue.Runs trace response →
    ∃ reply, trace = [⟨command, reply⟩] ∧
      ∀ value, response = .ok value ↔ reply.acknowledgement = some value

theorem asks_acknowledge {socket : String} {command : Command}
    {failure unexpected : String} :
    Asks command (acknowledge socket command failure unexpected) := by
  intro trace result runs
  simp only [acknowledge, Program.runs_bind_iff, runs_sendCommandAt_iff] at runs
  obtain ⟨_, second, response, rfl, ⟨reply, rfl, rfl⟩, rest⟩ := runs
  refine ⟨reply, ?_⟩
  have meaning := readReply_ok_iff socket reply
  cases read : readReply socket reply with
  | ok value =>
      simp only [read, Program.runs_pure_iff] at rest
      obtain ⟨rfl, rfl⟩ := rest
      exact ⟨rfl, fun other => by rw [← meaning other, read]; simp⟩
  | error error =>
      simp only [read, Program.runs_pure_iff] at rest
      obtain ⟨rfl, rfl⟩ := rest
      exact ⟨rfl, fun other => by rw [← meaning other, read]; simp⟩
  | okResponse value =>
      simp only [read, Program.runs_pure_iff] at rest
      obtain ⟨rfl, rfl⟩ := rest
      exact ⟨rfl, fun other => by rw [← meaning other, read]; simp⟩

/-- A request for an identifier asks once and succeeds exactly on a reply that
carries one. -/
theorem runs_requestIdentifier {socket : String} {command : Command}
    {malformed failure unexpected : String} {trace : List Exchange}
    {result : Except String UInt32}
    (runs : (requestIdentifier socket command malformed failure
      unexpected).Runs trace result) :
    ∃ reply, trace = [⟨command, reply⟩] ∧
      ∀ id, result = .ok id ↔ reply.identifier = some id := by
  simp only [requestIdentifier, Program.runs_bind_iff,
    runs_sendCommandAt_iff] at runs
  obtain ⟨_, second, response, rfl, ⟨reply, rfl, rfl⟩, rest⟩ := runs
  refine ⟨reply, ?_⟩
  have meaning := readReply_okResponse_iff socket reply
  have noValue : (∀ value, readReply socket reply ≠ .okResponse value) →
      reply.identifier = none := by
    intro never
    rw [Reply.identifier_eq]
    cases held : reply.value with
    | none => rfl
    | some value => exact (never value ((meaning value).mpr held)).elim
  cases read : readReply socket reply with
  | ok value =>
      simp only [read, Program.runs_pure_iff] at rest
      obtain ⟨rfl, rfl⟩ := rest
      exact ⟨rfl, fun id => by simp [noValue (by simp [read])]⟩
  | error error =>
      simp only [read, Program.runs_pure_iff] at rest
      obtain ⟨rfl, rfl⟩ := rest
      exact ⟨rfl, fun id => by simp [noValue (by simp [read])]⟩
  | okResponse value =>
      have identified : reply.identifier = Text.parseU32 value := by
        rw [Reply.identifier_eq, (meaning value).mp read, Option.bind_some]
      rw [identified]
      simp only [read] at rest
      cases parsed : Text.parseU32 value with
      | none =>
          simp only [parsed, Program.runs_pure_iff] at rest
          obtain ⟨rfl, rfl⟩ := rest
          exact ⟨rfl, fun id => by simp⟩
      | some id =>
          simp only [parsed, Program.runs_pure_iff] at rest
          obtain ⟨rfl, rfl⟩ := rest
          exact ⟨rfl, fun other => by simp⟩

end Maestro
