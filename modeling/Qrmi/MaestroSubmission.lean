import Qrmi.InteractionServer
import Qrmi.MaestroLocalExecution

/-!
# Starting a Maestro task

A caller may submit again when `task_start` fails with any kind other than
`Other`, so such a failure must leave no task behind.  The outcomes of a
submission are listed once; the promise is then read off from them, for the
native and for the legacy protocol.
-/

namespace Maestro

open Interaction

/-- The verbs that set up a created task, up to its execution. -/
def TaskVerb.configures : TaskVerb → Bool
  | .execute | .setType _ | .setQubits _ | .setSimulatorType _
  | .setSimulationMethod _ | .setObservables _ | .setQasm _ | .setOptions _ =>
      true
  | .exists | .failed | .finished | .running | .cancel | .getResults => false

/-- The commands that can create a task. -/
def Command.createsTask : Command → Bool
  | .taskCreate _ => true
  | .api document => (document.get "command").asString == some "submit".toList
  | .ping | .sessionCreate | .sessionExists _ | .sessionDelete _
  | .task .. => false

/-- An exchange that belongs to the configuration of a task. -/
def Task.Configures (task : Task) (event : Exchange) : Prop :=
  ∃ verb : TaskVerb, verb.configures = true ∧ event.1 = task.command verb

/-- A configuration whose every exchange was acknowledged positively. -/
def Confirmed (trace : List Exchange) : Prop :=
  ∀ event ∈ trace, event.2.acknowledgement = some true

theorem Task.Configures.not_createsTask {task : Task} {event : Exchange}
    (configures : task.Configures event) : event.1.createsTask = false := by
  obtain ⟨verb, -, asked⟩ := configures
  rw [asked]
  rfl

@[simp]
theorem createsTask_taskCreate (session : UInt32) :
    (Command.taskCreate session).createsTask = true :=
  rfl

@[simp]
theorem createsTask_command (task : Task) (verb : TaskVerb) :
    (task.command verb).createsTask = false :=
  rfl

@[simp]
theorem createsTask_capabilities :
    (Command.api capabilitiesDocument).createsTask = false := by
  decide

@[simp]
theorem createsTask_submit (session : UInt32) (request : Json) :
    (Command.api (submitDocument session request)).createsTask = true :=
  rfl

/-- A status call creates no task. -/
theorem RequestClient.creationless_status {json : JsonLibrary} :
    (RequestClient.status json).Emits fun event => event.1.createsTask = false := by
  have asks (command : Command) (harmless : command.createsTask = false) :
      Method.Emits (Method.lift (Program.question command) : ClientMethod Reply)
        fun event => event.1.createsTask = false :=
    Method.emits_lift (Program.emits_question fun _ => harmless)
  unfold RequestClient.status
  refine (asks (.api statusDocument) (by rfl)).bind fun reply => ?_
  split
  · exact Method.emits_throw _
  · split
    · refine (asks .ping rfl).bind fun reply => ?_
      split
      · exact Method.emits_throw _
      · exact Method.emits_ofExcept _
    · exact Method.emits_ofExcept _

namespace MaestroLocal

/-- A method that exchanges nothing but configuration commands of one task and
succeeds exactly when all of them are confirmed. -/
def Configuring (task : Task)
    (method : Method Command (fun _ => Reply) Unit QrmiError Unit) : Prop :=
  ∀ {before trace result after}, method.Executes before trace result after →
    (∀ event ∈ trace, task.Configures event) ∧
      (result = .ok () ↔ Confirmed trace)

theorem configuring_configure {task : Task} {verb : TaskVerb}
    {operation : String} {exchange : Dialogue (Except String Bool)}
    (asks : Asks (task.command verb) exchange)
    (configures : verb.configures = true) :
    Configuring task (configure operation exchange) := by
  intro before trace result after executes
  simp only [configure, Method.executes_bind_iff, Method.executes_lift_iff,
    Method.executes_ofExcept_iff] at executes
  rcases executes with ⟨_, rfl, _, -, impossible, -⟩ |
    ⟨_, _, response, _, rfl, ⟨_, asked, equal, -⟩, rfl, rfl, -⟩
  · cases impossible
  cases equal
  obtain ⟨reply, rfl, meaning⟩ := asks asked
  have acceptedIff : accepted operation response = .ok () ↔
      response = .ok true := by
    unfold accepted
    split <;> simp_all
  simp only [List.append_nil, List.mem_singleton, forall_eq, Confirmed,
    acceptedIff, meaning, and_true]
  exact ⟨verb, configures, rfl⟩

theorem Configuring.bind {task : Task}
    {first second : Method Command (fun _ => Reply) Unit QrmiError Unit}
    (firstConfigures : Configuring task first)
    (secondConfigures : Configuring task second) :
    Configuring task (first >>= fun _ => second) := by
  intro before trace result after executes
  rcases Method.executes_bind_iff.mp executes with ⟨error, rfl, failed⟩ |
    ⟨early, late, _, middle, rfl, ran, continued⟩
  · have outcome := firstConfigures failed
    exact ⟨outcome.1, by simpa using outcome.2⟩
  · obtain ⟨earlyConfigures, earlyConfirmed⟩ := firstConfigures ran
    obtain ⟨lateConfigures, lateConfirmed⟩ := secondConfigures continued
    refine ⟨fun event member => ?_, ?_⟩
    · rcases List.mem_append.mp member with inEarly | inLate
      · exact earlyConfigures event inEarly
      · exact lateConfigures event inLate
    · rw [lateConfirmed]
      have confirmed := earlyConfirmed.mp rfl
      simp only [Confirmed, List.mem_append]
      exact ⟨fun late event member =>
          member.elim (confirmed event) (late event),
        fun all event member => all event (.inr member)⟩

theorem configuring_configureTask (job : LegacySubmission) (task : Task)
    (socket : String) : Configuring task (configureTask job task socket) := by
  have rest : Configuring task (do
      configure "set qubits" (task.setQubitsAt job.qubits socket)
      configure "set simulator type"
        (task.setSimulatorTypeAt job.simulatorType socket)
      configure "set simulation method"
        (task.setSimulationMethodAt job.simulationMethod socket)
      configure "set QASM" (task.setQasmAt job.input socket)
      configure "set options JSON" (task.setOptionsJsonAt job.config socket)
      configure "execute task" (task.executeAt socket)) :=
    Configuring.bind (configuring_configure asks_acknowledge (by rfl)) <|
      Configuring.bind (configuring_configure asks_acknowledge (by rfl)) <|
      Configuring.bind (configuring_configure asks_acknowledge (by rfl)) <|
      Configuring.bind (configuring_configure asks_acknowledge (by rfl)) <|
      Configuring.bind (configuring_configure asks_acknowledge (by rfl))
        (configuring_configure asks_acknowledge (by rfl))
  unfold configureTask
  dsimp only
  apply Configuring.bind
  · exact configuring_configure asks_acknowledge (by rfl)
  · split
    · exact Configuring.bind
        (configuring_configure asks_acknowledge (by rfl)) rest
    · exact rest

/-- The outcomes of a legacy submission. -/
inductive LegacyOutcome (session : UInt32) :
    List Exchange → Except QrmiError Task → Prop
  | uncreated {reply : Reply} (message : String)
      (unidentified : reply.identifier = none) :
      LegacyOutcome session [⟨.taskCreate session, reply⟩]
        (.error (.other message))
  | executed {reply : Reply} {id : UInt32} {configuration : List Exchange}
      (identified : reply.identifier = some id)
      (configures : ∀ event ∈ configuration,
        Task.Configures ⟨id, session⟩ event)
      (confirmed : Confirmed configuration) :
      LegacyOutcome session (⟨.taskCreate session, reply⟩ :: configuration)
        (.ok ⟨id, session⟩)
  | abandoned {reply cancelReply : Reply} {id : UInt32}
      {configuration : List Exchange} (message : String)
      (identified : reply.identifier = some id)
      (configures : ∀ event ∈ configuration,
        Task.Configures ⟨id, session⟩ event)
      (unconfirmed : ¬ Confirmed configuration) :
      LegacyOutcome session
        (⟨.taskCreate session, reply⟩ :: (configuration ++
          [⟨Task.command ⟨id, session⟩ .cancel, cancelReply⟩]))
        (.error (.other message))

theorem executes_submitLegacy {job : LegacySubmission} {socket : String}
    {before after : Unit} {trace : List Exchange}
    {result : Except QrmiError Task}
    (executes : (submitLegacy job socket).Executes before trace result after) :
    LegacyOutcome job.sessionId trace result := by
  unfold submitLegacy at executes
  simp only [Method.executes_bind_iff, Method.executes_lift_iff] at executes
  rcases executes with ⟨_, rfl, _, -, impossible, -⟩ |
    ⟨_, rest, created, _, rfl, ⟨_, creates, equal, -⟩, executes⟩
  · cases impossible
  cases equal
  obtain ⟨reply, rfl, meaning⟩ := runs_createTaskAt creates
  cases created with
  | error message =>
      obtain ⟨rfl, rfl, -⟩ := Method.executes_throw_iff.mp executes
      refine .uncreated _ ?_
      cases identified : reply.identifier with
      | none => rfl
      | some id => simpa using (meaning ⟨id, job.sessionId⟩).mpr ⟨identified, rfl⟩
  | ok task =>
      obtain ⟨id, session⟩ := task
      obtain ⟨identified, rfl⟩ := (meaning _).mp rfl
      simp only [Method.executes_bind_iff, Method.executes_attempt_iff]
        at executes
      rcases executes with ⟨_, rfl, _, impossible, -⟩ |
        ⟨configuration, last, outcome, _, rfl, ⟨_, equal, ran⟩, executes⟩
      · cases impossible
      cases equal
      obtain ⟨configures, confirmed⟩ :=
        configuring_configureTask job ⟨id, job.sessionId⟩ socket ran
      cases outcome with
      | ok nothing =>
          obtain ⟨rfl, rfl, -⟩ := Method.executes_pure_iff.mp executes
          rw [List.append_nil]
          exact .executed identified configures (confirmed.mp rfl)
      | error error =>
          have unconfirmed : ¬ Confirmed configuration := by
            rw [← confirmed]
            simp
          simp only [Method.executes_bind_iff, Method.executes_lift_iff,
            Method.executes_throw_iff] at executes
          rcases executes with ⟨_, rfl, _, -, impossible, -⟩ |
            ⟨_, _, response, _, rfl, ⟨_, cancelled, -, -⟩, rfl, rfl, -⟩
          · cases impossible
          obtain ⟨cancelReply, rfl, -⟩ := asks_acknowledge cancelled
          exact .abandoned _ identified configures unconfirmed

section Outcomes

variable {codecs : Codecs} {before after : MaestroLocal}
variable {trace : List Exchange}

/-- The outcomes of `task_start`, with the exchanges behind each. -/
inductive StartOutcome (codecs : Codecs) (before : MaestroLocal) :
    List Exchange → Except QrmiError Text → MaestroLocal → Prop
  | unsent {negotiation : List Exchange} (error : QrmiError)
      (client : RequestClient)
      (negotiates : ∀ event ∈ negotiation, event.1 = .api capabilitiesDocument) :
      StartOutcome codecs before negotiation (.error error)
        (before.withClient client)
  | unaccepted {negotiation : List Exchange} {session : UInt32}
      {document : Json} {reply : Reply} (error : RequestError)
      (client : RequestClient) (held : before.sessionId = some session)
      (negotiates : ∀ event ∈ negotiation, event.1 = .api capabilitiesDocument)
      (read : RequestClient.readSubmission codecs.json reply = .error error) :
      StartOutcome codecs before
        (negotiation ++ [⟨.api (submitDocument session document), reply⟩])
        (.error (nativeError error)) (before.withClient client)
  | submitted {negotiation : List Exchange} {session id : UInt32}
      {document : Json} {reply : Reply} (client : RequestClient)
      (held : before.sessionId = some session)
      (negotiates : ∀ event ∈ negotiation, event.1 = .api capabilitiesDocument)
      (read : RequestClient.readSubmission codecs.json reply = .ok id) :
      StartOutcome codecs before
        (negotiation ++ [⟨.api (submitDocument session document), reply⟩])
        (.ok (Text.showU32 id)) ((before.withClient client).forget (session, id))
  | executed {trace : List Exchange} {session : UInt32} {task : Task}
      (held : before.sessionId = some session)
      (outcome : LegacyOutcome session trace (.ok task)) :
      StartOutcome codecs before trace (.ok (Text.showU32 task.id))
        (before.forget task.key)
  | failed {trace : List Exchange} {session : UInt32} {error : QrmiError}
      (held : before.sessionId = some session)
      (outcome : LegacyOutcome session trace (.error error)) :
      StartOutcome codecs before trace (.error error) before

variable {result : Except QrmiError Text}

theorem StartOutcome.rejected (error : QrmiError) :
    StartOutcome codecs before [] (.error error) before :=
  .unsent error before.requestClient (by simp)

theorem getSessionId_ok_iff {resource : MaestroLocal} {session : UInt32} :
    resource.getSessionId = .ok session ↔ resource.sessionId = some session := by
  unfold getSessionId
  cases resource.sessionId <;> simp

theorem executes_startNative {input : Text}
    (executes : (startNative codecs input).Executes before trace result after) :
    StartOutcome codecs before trace result after := by
  unfold startNative at executes
  cases checked : checkNativePayload codecs input with
  | error error =>
      simp only [checked, Method.executes_ofExcept_bind_error_iff] at executes
      obtain ⟨rfl, rfl, rfl⟩ := executes
      exact .rejected error
  | ok nothing =>
      simp only [checked, Method.executes_ofExcept_bind_ok_iff,
        Method.executes_self_bind_iff] at executes
      cases held : before.getSessionId with
      | error error =>
          simp only [held, Method.executes_ofExcept_bind_error_iff] at executes
          obtain ⟨rfl, rfl, rfl⟩ := executes
          exact .rejected error
      | ok session =>
          rw [held, Method.executes_ofExcept_bind_ok_iff] at executes
          simp only [Method.executes_bind_iff, executes_nativeApi_iff,
            Method.executes_modify_iff, Method.executes_pure_iff] at executes
          have sessionHeld := getSessionId_ok_iff.mp held
          rcases executes with ⟨_, rfl, outcome, client, ran, equal, rfl⟩ |
            ⟨_, _, id, _, rfl, ⟨outcome, client, ran, equal, rfl⟩, rest⟩
          · obtain ⟨negotiation, rest, rfl, negotiates, sent⟩ :=
              RequestClient.executes_submit ran
            rcases sent with ⟨rfl, -⟩ | ⟨document, reply, rfl, read⟩
            · rw [List.append_nil]
              exact .unsent _ client negotiates
            · cases outcome with
              | ok id => cases equal
              | error error =>
                  cases equal
                  exact .unaccepted error client sessionHeld negotiates
                    read.symm
          · cases outcome with
            | error error => cases equal
            | ok created =>
                cases equal
                rcases rest with ⟨_, -, -, impossible, -⟩ |
                  ⟨_, _, _, _, rfl, ⟨rfl, -, rfl⟩, rfl, rfl, rfl⟩
                · cases impossible
                obtain ⟨negotiation, rest, rfl, negotiates, sent⟩ :=
                  RequestClient.executes_submit ran
                rcases sent with ⟨-, _, impossible⟩ |
                  ⟨document, reply, rfl, read⟩
                · cases impossible
                · rw [List.append_nil, List.append_nil]
                  exact .submitted client sessionHeld negotiates read.symm

theorem executes_startLegacy {input jobType observables config : Text}
    {qubits simulatorType simulationMethod : UInt32}
    (executes : (startLegacy codecs input jobType qubits simulatorType
      simulationMethod observables config).Executes before trace result after) :
    StartOutcome codecs before trace result after := by
  unfold startLegacy at executes
  cases typed : legacyTaskType jobType observables with
  | error error =>
      simp only [typed, Method.executes_ofExcept_bind_error_iff] at executes
      obtain ⟨rfl, rfl, rfl⟩ := executes
      exact .rejected error
  | ok taskType =>
      simp only [typed, Method.executes_ofExcept_bind_ok_iff] at executes
      cases checked : checkLegacyPayload codecs input config qubits with
      | error error =>
          simp only [checked, Method.executes_ofExcept_bind_error_iff]
            at executes
          obtain ⟨rfl, rfl, rfl⟩ := executes
          exact .rejected error
      | ok nothing =>
          simp only [checked, Method.executes_ofExcept_bind_ok_iff,
            Method.executes_self_bind_iff] at executes
          cases held : before.getSessionId with
          | error error =>
              simp only [held, Method.executes_ofExcept_bind_error_iff]
                at executes
              obtain ⟨rfl, rfl, rfl⟩ := executes
              exact .rejected error
          | ok session =>
              have sessionHeld := getSessionId_ok_iff.mp held
              rw [held, Method.executes_ofExcept_bind_ok_iff] at executes
              simp only [Method.executes_bind_iff, Method.executes_zoom_iff,
                Method.executes_modify_iff, Method.executes_pure_iff]
                at executes
              rcases executes with ⟨error, rfl, _, rfl, ran⟩ |
                ⟨_, _, task, _, rfl, ⟨_, rfl, ran⟩, rest⟩
              · exact .failed sessionHeld (executes_submitLegacy ran)
              · rcases rest with ⟨_, -, -, impossible, -⟩ |
                  ⟨_, _, _, _, rfl, ⟨rfl, -, rfl⟩, rfl, rfl, rfl⟩
                · cases impossible
                rw [List.append_nil, List.append_nil]
                exact .executed sessionHeld (executes_submitLegacy ran)

/-- Every run of `task_start` has one of the listed outcomes. -/
theorem executes_taskStart {payload : Payload}
    (executes : (taskStart codecs payload).Executes before trace result after) :
    StartOutcome codecs before trace result after := by
  unfold taskStart at executes
  split at executes
  · split at executes
    · exact executes_startNative executes
    · exact executes_startLegacy executes
  · obtain ⟨rfl, rfl, rfl⟩ := Method.executes_throw_iff.mp executes
    exact .rejected _

/-- An exchange that cannot have created a task: no creation request, or a
submission that the server refused. -/
def Uncreating (codecs : Codecs) (event : Exchange) : Prop :=
  event.1.createsTask = true →
    (∃ document, event.1 = .api document) ∧ isRefusal codecs.json event.2 = true

theorem nativeError_kind_of_unrefused {error : RequestError}
    (unrefused : error.code = "protocol".toList ∨
      error.code = "transport".toList) :
    (nativeError error).kind = .other := by
  unfold nativeError
  rcases unrefused with code | code <;>
    · rw [code]
      rfl

theorem uncreating_of_negotiates {negotiation : List Exchange}
    (negotiates : ∀ event ∈ negotiation, event.1 = .api capabilitiesDocument) :
    ∀ event ∈ negotiation, Uncreating codecs event := by
  intro event member creates
  rw [negotiates event member, createsTask_capabilities] at creates
  cases creates

/-- An error of any kind but `Other` comes from exchanges none of which can
have created a task. -/
theorem StartOutcome.uncreating {error : QrmiError}
    (outcome : StartOutcome codecs before trace (.error error) after)
    (notOther : error.kind ≠ .other) :
    ∀ event ∈ trace, Uncreating codecs event := by
  cases outcome with
  | unsent error client negotiates => exact uncreating_of_negotiates negotiates
  | unaccepted error client held negotiates read =>
      intro event member
      rcases List.mem_append.mp member with inNegotiation | last
      · exact uncreating_of_negotiates negotiates event inNegotiation
      · rw [List.mem_singleton.mp last]
        intro creates
        rcases RequestClient.readSubmission_error read with refused | unrefused
        · exact ⟨⟨_, rfl⟩, refused⟩
        · exact (notOther (nativeError_kind_of_unrefused unrefused)).elim
  | failed held outcome => 
      cases outcome <;> exact (notOther rfl).elim

theorem countP_creating_of_negotiates {negotiation : List Exchange}
    (negotiates : ∀ event ∈ negotiation, event.1 = .api capabilitiesDocument) :
    negotiation.countP (fun event => event.1.createsTask) = 0 := by
  rw [List.countP_eq_zero]
  intro event member
  simp [negotiates event member]

theorem countP_creating_of_configures {task : Task}
    {configuration : List Exchange}
    (configures : ∀ event ∈ configuration, task.Configures event) :
    configuration.countP (fun event => event.1.createsTask) = 0 := by
  rw [List.countP_eq_zero]
  intro event member
  simp [(configures event member).not_createsTask]

theorem LegacyOutcome.countP_creating {session : UInt32}
    {result : Except QrmiError Task}
    (outcome : LegacyOutcome session trace result) :
    trace.countP (fun event => event.1.createsTask) = 1 := by
  cases outcome with
  | uncreated message unidentified => rfl
  | executed identified configures confirmed =>
      simp [List.countP_cons, countP_creating_of_configures configures]
  | abandoned message identified configures unconfirmed =>
      simp [List.countP_cons, countP_creating_of_configures configures]

/-- A call of `task_start` sends at most one request that can create a task. -/
theorem StartOutcome.countP_creating
    (outcome : StartOutcome codecs before trace result after) :
    trace.countP (fun event => event.1.createsTask) ≤ 1 := by
  cases outcome with
  | unsent error client negotiates =>
      simp [countP_creating_of_negotiates negotiates]
  | unaccepted error client held negotiates read =>
      simp [countP_creating_of_negotiates negotiates]
  | submitted client held negotiates read =>
      simp [countP_creating_of_negotiates negotiates]
  | executed held outcome => exact outcome.countP_creating.le
  | failed held outcome => exact outcome.countP_creating.le

/-- The contract of `task_start`.  On a server that creates tasks only on the
two creation requests, and not on a submission that it refuses, a failure of any
kind but `Other` created no task; and one call sends at most one creation
request. -/
theorem taskStart_contract {World Created : Type}
    {server : Server Command (fun _ => Reply) World}
    (created : World → Created) {payload : Payload} {start final : World}
    {visited : List World}
    (movesKeep : ∀ {world next}, server.moves world next →
      created next = created world)
    (servesKeep : ∀ {world command reply next},
      server.serves world command reply next →
      (command.createsTask = true →
        (∃ document, command = .api document) ∧
          isRefusal codecs.json reply = true) →
      created next = created world)
    (against : server.ExecutesAgainst start (taskStart codecs payload) before
      visited trace result after final) :
    (∀ error, result = .error error → error.kind ≠ .other →
      created final = created start) ∧
    trace.countP (fun event => event.1.createsTask) ≤ 1 := by
  have outcome := executes_taskStart against.executes
  refine ⟨fun error failed notOther => ?_, outcome.countP_creating⟩
  subst failed
  exact against.preserves created (Uncreating codecs) movesKeep servesKeep
    (outcome.uncreating notOther)

end Outcomes

namespace Refused

/-- A native request without any content. -/
def request : Json :=
  .object [Json.unsignedMember "schema_version" 2]

/-- A version 2 envelope that refuses a request. -/
def refusal : Json :=
  .object [Json.unsignedMember "version" 2, ("ok".toList, .bool false),
    ("error".toList, .object [Json.stringMember "code" "invalid_input",
      Json.stringMember "message" "no circuit"])]

def codecs : Codecs where
  json := .ofTable [request, refusal]
  serde := .ofTable [request]

/-- A server that counts the tasks it created and refuses native requests. -/
def server : Server Command (fun _ => Reply) Nat where
  moves _ _ := False
  serves count command reply next :=
    match command with
    | .taskCreate _ => reply = .ok "OK 1".toList ∧ next = count + 1
    | .api _ => reply = .ok ("OK ".toList ++ refusal.render) ∧ next = count
    | _ => reply = .ok "OK".toList ∧ next = count

def resource : MaestroLocal :=
  { fresh "maestro".toList (some 7) "/run/maestro.sock" with
    requestClient := ⟨"/run/maestro.sock", true⟩ }

def payload : Payload :=
  .maestroLocal request.render "request".toList 0 0 0 [] []

def trace : List Exchange :=
  [⟨.api (submitDocument 7 request), .ok ("OK ".toList ++ refusal.render)⟩]

theorem run : server.ExecutesAgainst 0 (taskStart codecs payload) resource [0]
    trace (.error (.invalidInput "no circuit")) resource 0 :=
  .ask (.refl 0) ⟨rfl, rfl⟩ (.done _ (.refl 0))

end Refused

theorem taskStart_contract_refused :
    (∀ error, (.error (.invalidInput "no circuit") : Except QrmiError Text) =
        .error error → error.kind ≠ .other → id 0 = id 0) ∧
    Refused.trace.countP (fun event => event.1.createsTask) ≤ 1 :=
  taskStart_contract id (by rintro _ _ ⟨⟩)
    (by
      intro count command reply next served harmless
      cases command with
      | taskCreate session =>
          obtain ⟨⟨document, impossible⟩, -⟩ := harmless rfl
          cases impossible
      | ping => exact served.2
      | sessionCreate => exact served.2
      | sessionExists session => exact served.2
      | sessionDelete session => exact served.2
      | task session id verb => exact served.2
      | api document => exact served.2)
    Refused.run

end MaestroLocal

end Maestro
