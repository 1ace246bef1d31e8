import Qrmi.QuantumSystemInvariant

/-!
# Every result is computed from its input

The calls that submit nothing keep the invariant of the bucket too.  So what the resource
reads as the result of a task was computed from the input that the task was started with,
on the backend of the resource, in every run and whatever the service does meanwhile.
-/

open Interaction

namespace IBMQuantumSystem

open QuantumSystem Method Server ServiceState Client

variable {computes : Text → Text → List UInt8 → List UInt8 → Prop} {baseUrl bucket : Text}
variable {started : List (Text × JobTask)}

/-- A request without a document creates no job. -/
def IsBodyless : SystemEvent → Prop
  | ⟨.send sent, _⟩ => sent.body = none
  | ⟨.instant, _⟩ | ⟨.postForm .., _⟩ | ⟨.overtake, _⟩ => True
  | ⟨.newUuid, _⟩ | ⟨.putObject .., _⟩ | ⟨.presign .., _⟩ => False

theorem isBodyless_of_sends {request : HttpRequest} (bodyless : request.body = none)
    {event : SystemEvent} (sends : Sends request event) : IsBodyless event := by
  obtain ⟨action, answer⟩ := event
  cases action with
  | instant | postForm | overtake => trivial
  | newUuid | putObject | presign => exact sends.elim
  | send sent =>
      have isSent : sent = { request with authorization := sent.authorization } := sends
      change sent.body = none
      rw [isSent]
      exact bodyless

theorem staysWithin_send_bodyless {codec : Codec} {fuel : Nat} {request : HttpRequest}
    (bodyless : request.body = none) :
    StaysWithin IsBodyless Client.s3Bucket (Client.send codec fuel request) :=
  staysWithin_send.mono fun _ => isBodyless_of_sends bodyless

theorem secures_of_bodyless {State Error Kept α : Type} {read : State → Kept}
    {method : Method SystemAction SystemAction.Answer State Error α}
    (stays : StaysWithin IsBodyless read method) :
    Secures (accounts computes baseUrl bucket started : (service computes baseUrl).Assertion
        State).left method
      fun _ => (accounts computes baseUrl bucket started).left := by
  refine secures_of_emits accounts_of_moves stays.emits ?_
  rintro ⟨action, answer⟩ state next bodyless served holds
  cases action with
  | instant | postForm | overtake =>
      obtain rfl : next = state := served
      exact holds
  | newUuid | putObject | presign => exact bodyless.elim
  | send sent =>
      have received : Receives baseUrl sent state next := served
      cases received with
      | ignores => exact holds
      | creates names submits new =>
          have absent : sent.body = none := bodyless
          rw [absent] at submits
          cases submits

theorem staysWithin_get {α : Type} {codec : Codec} {fuel : Nat} {fetch : Fetch α} :
    StaysWithin IsBodyless Client.s3Bucket (Client.get codec fuel fetch) := by
  refine staysWithin_self.bind fun client =>
    (staysWithin_send_bodyless rfl).bind fun outcome => ?_
  exact staysWithin_ofExcept _

/-- Every one of the joined requests is without a document. -/
theorem staysWithin_branch {α : Type} (codec : Codec) (fuel : Nat) (client : Client)
    (fetch : Fetch α) :
    (client.branch codec fuel fetch).StaysWithin IsBodyless Client.s3Bucket :=
  fun waiting => (staysWithin_sendJoined waiting).mono fun _ => isBodyless_of_sends rfl

theorem asks_scheduler_bodyless : scheduler.Asks IsBodyless :=
  Program.asks_question fun _ => trivial

theorem staysWithin_sendJobRequest {codec : TaskCodec} {fuel : Nat} {method : HttpMethod}
    {url : Text} : StaysWithin IsBodyless Client.s3Bucket
      (Client.sendJobRequest codec fuel method url) := by
  refine staysWithin_self.bind fun client =>
    (staysWithin_send_bodyless rfl).bind fun outcome => ?_
  split
  · split
    · exact staysWithin_pure _
    · exact staysWithin_throw _
  · exact staysWithin_throw _

/-- What a call does not change of the resource. -/
def essence (system : IBMQuantumSystem) : Text × Option Text :=
  (system.backendName, system.apiClient.s3Bucket)

theorem staysWithin_callClient {α : Type} {allowed : SystemEvent → Prop}
    {method : ClientMethod α} (stays : StaysWithin allowed Client.s3Bucket method) :
    StaysWithin allowed essence (callClient method) := by
  refine StaysWithin.bind (StaysWithin.attempt (stays.zoom fun system client same => ?_))
    fun _ => staysWithin_ofExcept _
  exact congrArg (Prod.mk system.backendName) same

section Bodyless

variable {codec : TaskCodec} {fuel : Nat} {taskId : Text}

theorem staysWithin_getJob :
    StaysWithin IsBodyless Client.s3Bucket (Client.getJob codec fuel taskId) := by
  refine staysWithin_self.bind fun client => ?_
  exact staysWithin_get

theorem staysWithin_getBackend {name : Text} :
    StaysWithin IsBodyless Client.s3Bucket (Client.getBackend codec fuel name) := by
  refine staysWithin_self.bind fun client => ?_
  exact staysWithin_get

theorem staysWithin_isAccessible :
    StaysWithin IsBodyless essence (isAccessible codec fuel) := by
  refine staysWithin_self.bind fun system => ?_
  exact (staysWithin_callClient staysWithin_getBackend).bind fun _ => staysWithin_pure _

theorem staysWithin_status : StaysWithin IsBodyless essence (status codec fuel) := by
  refine staysWithin_self.bind fun system => ?_
  refine (staysWithin_callClient (staysWithin_tryJoinThree asks_scheduler_bodyless
    (staysWithin_branch _ _ _ _) (staysWithin_branch _ _ _ _)
      (staysWithin_branch _ _ _ _))).bind fun _ => ?_
  exact staysWithin_pure _

theorem staysWithin_target : StaysWithin IsBodyless essence (target codec fuel) := by
  refine staysWithin_self.bind fun system => ?_
  refine (staysWithin_callClient (staysWithin_joinTwo asks_scheduler_bodyless
    (staysWithin_branch _ _ _ _) (staysWithin_branch _ _ _ _) none)).bind fun _ => ?_
  exact staysWithin_pure _

theorem staysWithin_jobStatus :
    StaysWithin IsBodyless essence (callClient (Client.getJobStatus codec fuel taskId)) :=
  staysWithin_callClient (staysWithin_getJob.bind fun _ => staysWithin_pure _)

theorem staysWithin_taskStatus :
    StaysWithin IsBodyless essence (taskStatus codec fuel taskId) := by
  refine staysWithin_jobStatus.bind fun status => ?_
  cases status with
  | running | completed | failed | cancelled => exact staysWithin_pure _

theorem staysWithin_taskStop : StaysWithin IsBodyless essence (taskStop codec fuel taskId) := by
  have deletes : StaysWithin IsBodyless Client.s3Bucket
      (Client.deleteJob codec fuel taskId) := by
    refine staysWithin_self.bind fun client => ?_
    exact staysWithin_sendJobRequest
  have cancels : StaysWithin IsBodyless Client.s3Bucket
      (Client.cancelJob codec fuel taskId false) := by
    refine staysWithin_self.bind fun client => ?_
    exact staysWithin_sendJobRequest.bind fun _ => staysWithin_pure _
  refine staysWithin_jobStatus.bind fun status => ?_
  by_cases running : status = .running
  · simp only [if_pos running]
    refine (staysWithin_callClient cancels).attempt.bind fun _ => ?_
    exact staysWithin_callClient deletes
  · simp only [if_neg running]
    exact staysWithin_callClient deletes

end Bodyless

/-- Everything that was started under the identifier computes these results. -/
def IsResultOf (computes : Text → Text → List UInt8 → List UInt8 → Prop)
    (started : List (Text × JobTask)) (id : Text) (results : List UInt8) : Prop :=
  ∀ task, (id, task) ∈ started →
    computes task.backend task.program.display.toList task.input results

theorem Accounts.isResultOf {state : ServiceState}
    (accounts : Accounts computes bucket started state) {place id : Text} {content : List UInt8}
    (present : state.objects (place, resultsKey id) = some content) :
    IsResultOf computes started id content := by
  obtain ⟨tasks, tracks, keeps⟩ := accounts
  intro task member
  obtain ⟨drawn, rfl, -⟩ := keeps id task member
  exact (tracks id drawn).results place content present

/-- What is returned as the content of an object is its content. -/
theorem secures_getObject {State : Type} {config : S3Config} {place id : Text} :
    Secures (accounts computes baseUrl bucket started : (service computes baseUrl).Assertion State)
      (getObject config place (resultsKey id))
      fun result => (accounts computes baseUrl bucket started).among
        fun _ => ∀ content, result = .ok content → IsResultOf computes started id content := by
  refine secures_question_bind (fun answer : ObjectRead.Answer ⟨config, place, resultsKey id⟩ =>
    (accounts computes baseUrl bucket started).among fun _ => ∀ parts : List (List UInt8),
      answer = .ok (parts.map Except.ok) → IsResultOf computes started id parts.flatten) ?_
        fun answer => ?_
  · intro current state answer next holds served
    cases answer with
    | error message =>
        obtain rfl : next = state := served
        exact ⟨fun _ equal => (nomatch equal), holds⟩
    | ok pieces =>
        obtain ⟨rfl, content⟩ := served
        refine ⟨fun parts equal => ?_, holds⟩
        exact Accounts.isResultOf holds (content parts (Except.ok.inj equal))
  cases answer with
  | error message =>
      exact secures_ofExcept_bind (fun _ equal => nomatch equal)
        fun _ _ _ _ holds => ⟨fun _ equal => (nomatch equal), holds.2⟩
  | ok pieces =>
  refine secures_ofExcept_bind (fun _ same => ?_) fun _ equal => nomatch equal
  cases same
  refine secures_ofExcept fun current state holds => ⟨fun content equal => ?_, holds.2⟩
  cases collected : collectBody [] pieces with
  | error message =>
      rw [collected] at equal
      cases equal
  | ok bytes =>
      rw [collected] at equal
      cases equal
      obtain ⟨parts, rfl, rfl⟩ := collectBody_eq_ok collected
      exact holds.1 parts rfl

theorem secures_readObject {codec : TaskCodec} {config : S3Config} {place id : Text} :
    Secures (accounts computes baseUrl bucket started)
      (readObject codec config place (resultsKey id))
      fun result => (accounts computes baseUrl bucket started).among
        fun _ => ∀ text, result = .ok text →
          IsResultOf computes started id (Text.utf8 text) := by
  refine Secures.attempt_bind _ secures_getObject fun outcome => ?_
  cases outcome with
  | error error =>
      exact secures_ofExcept_bind (fun _ equal => nomatch equal)
        fun _ _ _ _ holds => ⟨fun _ equal => (nomatch equal), holds.2⟩
  | ok object =>
  refine secures_ofExcept_bind (fun _ same => ?_) fun _ equal => nomatch equal
  cases same
  cases decoded : Text.ofUtf8 object with
  | none => exact secures_throw fun _ _ holds => ⟨fun _ equal => (nomatch equal), holds.2⟩
  | some text =>
      refine secures_pure fun current state holds => ⟨fun other equal => ?_, holds.2⟩
      cases equal
      rw [Text.ofUtf8_eq_some_iff.mp decoded]
      exact holds.1 object rfl

/-- What `task_result` returns for a task was computed from the input of the task. -/
theorem secures_taskResult {codec : TaskCodec} {fuel : Nat} {taskId : Text} :
    Secures (accounts computes baseUrl bucket started) (taskResult codec fuel taskId)
      fun result => (accounts computes baseUrl bucket started).among
        fun _ => ∀ text, result = .ok text →
          IsResultOf computes started taskId (Text.utf8 text) := by
  have failing {error : QrmiError} : ∀ (system : IBMQuantumSystem) state,
      Accounts computes bucket started state →
        ((accounts computes baseUrl bucket started).among fun _ : IBMQuantumSystem =>
          ∀ text, (Except.error error : Except QrmiError Text) = .ok text →
            IsResultOf computes started taskId (Text.utf8 text)).holds system state :=
    fun _ _ holds => ⟨fun _ equal => (nomatch equal), holds⟩
  refine secures_self_bind fun system => ?_
  refine secures_ofExcept_bind (fun store _ => ?_) fun _ _ _ _ holds => failing _ _ holds.2
  obtain ⟨config, place⟩ := store
  refine Secures.bind ((secures_of_bodyless (staysWithin_callClient staysWithin_getJob)).inl.mono
    (fun _ _ holds => holds.2) fun _ _ _ holds => holds) (fun job => ?_) fun _ => failing
  cases notReady taskId job with
  | some error => exact secures_throw failing
  | none => exact secures_readObject

section Essence

variable {codec : TaskCodec} {fuel : Nat} {taskId : Text}

theorem staysWithin_describeJob {backend : Text} {programId : ProgramId} {timeoutSecs : Nat}
    {logLevel : LogLevel} {payload : Json} {jobId : Option Text} :
    StaysWithin (fun _ => True) Client.s3Bucket (Client.describeJob codec.toCodec backend
      programId timeoutSecs logLevel payload jobId) := by
  have asks {action : SystemAction} : StaysWithin (fun _ => True) Client.s3Bucket
      (lift (Program.question action) : ClientMethod (action.Answer)) :=
    staysWithin_lift (Program.emits_question fun _ => trivial)
  have presigns (config : S3Config) (bucket key : Text) (operation : S3Operation) :
      StaysWithin (fun _ => True) Client.s3Bucket
        (Client.presignedUrl config bucket key operation timeoutSecs) := by
    refine asks.bind fun presigned => ?_
    cases operation with
    | getObject | putObject => exact staysWithin_ofExcept _
  have chooses : StaysWithin (fun _ => True) Client.s3Bucket (Client.chooseId jobId) := by
    cases jobId with
    | some id => exact staysWithin_pure id
    | none => exact asks
  refine staysWithin_self.bind fun client => ?_
  split
  · exact staysWithin_throw _
  · exact staysWithin_pending
  · refine chooses.bind fun id => asks.bind fun uploaded => ?_
    refine (staysWithin_ofExcept _).bind fun _ => (presigns _ _ _ _).bind fun inputUrl => ?_
    refine (presigns _ _ _ _).bind fun resultsUrl => (presigns _ _ _ _).bind fun logsUrl => ?_
    exact staysWithin_pure _

theorem staysWithin_runJob {payload : Json} :
    StaysWithin (fun _ => True) Client.s3Bucket
      (Client.runJob codec.toCodec fuel payload) := by
  refine staysWithin_self.bind fun client =>
    (staysWithin_send.mono fun _ _ => trivial).bind fun outcome => ?_
  split
  · split
    · split
      · exact staysWithin_pure _
      · exact staysWithin_pending
    · exact staysWithin_throw _
  · exact staysWithin_throw _

theorem staysWithin_taskStart {payload : Payload} :
    StaysWithin (fun _ => True) essence (taskStart codec.toCodec fuel payload) := by
  refine staysWithin_self.bind fun system => (staysWithin_ofExcept _).bind fun timeout => ?_
  refine (staysWithin_ofExcept _).bind fun parsed => ?_
  exact staysWithin_callClient (staysWithin_describeJob.bind fun _ => staysWithin_runJob)

theorem staysWithin_readObject {config : S3Config} {bucket key : Text} :
    StaysWithin (fun _ => True) essence (readObject codec config bucket key) := by
  have reads : StaysWithin (fun _ => True) essence (getObject config bucket key) := by
    refine (staysWithin_lift (Program.emits_question fun _ => trivial)).bind fun answer => ?_
    exact (staysWithin_ofExcept _).bind fun _ => staysWithin_ofExcept _
  refine reads.attempt.bind fun outcome => (staysWithin_ofExcept _).bind fun object => ?_
  split
  · exact staysWithin_pure _
  · exact staysWithin_throw _

theorem staysWithin_taskResult :
    StaysWithin (fun _ => True) essence (taskResult codec fuel taskId) := by
  refine staysWithin_self.bind fun system => (staysWithin_ofExcept _).bind fun store => ?_
  refine ((staysWithin_callClient staysWithin_getJob).inl.mono fun _ _ => trivial).bind
    fun job => ?_
  split
  · exact staysWithin_throw _
  · exact staysWithin_readObject

theorem staysWithin_taskLogs :
    StaysWithin (fun _ => True) essence (taskLogs codec taskId) := by
  refine staysWithin_self.bind fun system => (staysWithin_ofExcept _).bind fun store => ?_
  exact staysWithin_readObject

end Essence

theorem secures_taskLogs {codec : TaskCodec} {taskId : Text} :
    Secures (accounts computes baseUrl bucket started) (taskLogs codec taskId)
      fun _ => accounts computes baseUrl bucket started := by
  have emits : (taskLogs codec taskId).Emits fun event => event.1.isRight = true := by
    refine emits_self.bind fun system => (emits_ofExcept _).bind fun store => ?_
    refine Emits.bind (Emits.attempt ?_) fun outcome => (emits_ofExcept _).bind fun object => ?_
    · refine (emits_lift (Program.emits_question fun _ => rfl)).bind fun answer => ?_
      exact (emits_ofExcept _).bind fun _ => emits_ofExcept _
    · split
      · exact emits_pure _
      · exact emits_throw _
  refine secures_of_emits accounts_of_moves emits ?_
  rintro ⟨query, answer⟩ state next isRead served holds
  cases query with
  | inl action => cases isRead
  | inr request =>
      cases answer with
      | error message =>
          obtain rfl : next = state := served
          exact holds
      | ok pieces =>
          obtain ⟨rfl, -⟩ := served
          exact holds

/-- A call of the resource and what it returned. -/
inductive TaskCall
  | taskStart (payload : Payload) (result : Except QrmiError Text)
  | taskStop (taskId : Text) (result : Except QrmiError Unit)
  | taskStatus (taskId : Text) (result : Except QrmiError TaskStatus)
  | taskResult (taskId : Text) (result : Except QrmiError Text)
  | taskLogs (taskId : Text) (result : Except QrmiError Text)
  | isAccessible (result : Except QrmiError Bool)
  | status (result : Except QrmiError ResourceStatus)
  | target (result : Except QrmiError Text)

/-- The resource performs the method, and the service does what it likes meanwhile. -/
def Performs {α : Type} (computes : Text → Text → List UInt8 → List UInt8 → Prop)
    (method : TaskMethod α) (before : IBMQuantumSystem × ServiceState)
    (result : Except QrmiError α) (after : IBMQuantumSystem × ServiceState) : Prop :=
  ∃ trace visited, method.Executes before.1 trace result after.1 ∧
    (service computes before.1.apiClient.baseUrl).Hosts before.2 visited trace after.2

/-- One call. -/
def TaskCall.Step (computes : Text → Text → List UInt8 → List UInt8 → Prop)
    (codec : TaskCodec) (fuel : Nat) (before : IBMQuantumSystem × ServiceState)
    (call : TaskCall) (after : IBMQuantumSystem × ServiceState) : Prop :=
  match call with
  | .taskStart payload result =>
      Performs computes (IBMQuantumSystem.taskStart codec.toCodec fuel payload).inl before
        result after
  | .taskStop taskId result =>
      Performs computes (IBMQuantumSystem.taskStop codec fuel taskId).inl before result after
  | .taskStatus taskId result =>
      Performs computes (IBMQuantumSystem.taskStatus codec fuel taskId).inl before result after
  | .taskResult taskId result =>
      Performs computes (IBMQuantumSystem.taskResult codec fuel taskId) before result after
  | .taskLogs taskId result =>
      Performs computes (IBMQuantumSystem.taskLogs codec taskId) before result after
  | .isAccessible result =>
      Performs computes (IBMQuantumSystem.isAccessible codec fuel).inl before result after
  | .status result =>
      Performs computes (IBMQuantumSystem.status codec fuel).inl before result after
  | .target result =>
      Performs computes (IBMQuantumSystem.target codec fuel).inl before result after

section Runs

variable {codec : TaskCodec} {fuel : Nat} {system : IBMQuantumSystem}
variable {before after : IBMQuantumSystem × ServiceState}

/-- The tasks that these calls have started, and perhaps more, are accounted for. -/
def Explains (computes : Text → Text → List UInt8 → List UInt8 → Prop) (codec : TaskCodec)
    (system : IBMQuantumSystem) (calls : List TaskCall)
    (current : IBMQuantumSystem × ServiceState) : Prop :=
  essence current.1 = essence system ∧
    ∃ started, Accounts computes (system.apiClient.s3Bucket.getD []) started current.2 ∧
      ∀ payload id, TaskCall.taskStart payload (.ok id) ∈ calls →
        ∃ task, taskOf codec.json system.backendName payload = some task ∧ (id, task) ∈ started

/-- A method that keeps the invariant. -/
theorem explains_of_secures {α : Type} {method : TaskMethod α} {calls : List TaskCall}
    {call : TaskCall} {result : Except QrmiError α} {allowed : Event TaskQuery.Answer → Prop}
    (starts : ∀ payload id, call ≠ .taskStart payload (.ok id))
    (explains : Explains computes codec system calls before)
    (performs : Performs computes method before result after)
    (stays : StaysWithin allowed essence method)
    (secures : ∀ started, Secures
      (accounts computes before.1.apiClient.baseUrl (system.apiClient.s3Bucket.getD []) started)
        method fun _ => accounts computes before.1.apiClient.baseUrl
          (system.apiClient.s3Bucket.getD []) started) :
    Explains computes codec system (calls ++ [call]) after := by
  obtain ⟨same, started, accounts, listed⟩ := explains
  obtain ⟨trace, visited, executes, hosts⟩ := performs
  refine ⟨(stays _ _ _ _ executes).2.trans same, started,
    secures started executes hosts accounts, fun payload id member => ?_⟩
  rcases List.mem_append.mp member with earlier | last
  · exact listed payload id earlier
  · exact absurd (List.mem_singleton.mp last).symm (starts payload id)

/-- Every call keeps the invariant. -/
theorem explains_of_step {calls : List TaskCall} {call : TaskCall}
    (explains : Explains computes codec system calls before)
    (step : call.Step computes codec fuel before after) :
    Explains computes codec system (calls ++ [call]) after := by
  have quiet {α : Type} {method : SystemMethod α} {result : Except QrmiError α}
      (starts : ∀ payload id, call ≠ .taskStart payload (.ok id))
      (stays : StaysWithin IsBodyless essence method)
      (performs : Performs computes method.inl before result after) :
      Explains computes codec system (calls ++ [call]) after :=
    explains_of_secures starts explains performs stays.inl
      fun started => (secures_of_bodyless stays).inl
  cases call with
  | taskStart payload result =>
      obtain ⟨same, started, accounts, listed⟩ := explains
      obtain ⟨trace, visited, executes, hosts⟩ := step
      obtain ⟨sameName, sameBucket⟩ := Prod.mk.inj same
      have kept := (staysWithin_taskStart.inl _ _ _ _ executes).2.trans same
      have secured := secures_taskStart.inl executes hosts
        ⟨⟨sameName, congrArg (Option.getD · []) sameBucket⟩, accounts⟩
      cases result with
      | error error =>
          refine ⟨kept, started, secured, fun other id member => ?_⟩
          rcases List.mem_append.mp member with earlier | last
          · exact listed other id earlier
          · cases List.mem_singleton.mp last
      | ok own =>
          obtain ⟨task, isTask, startedAs⟩ := secured
          refine ⟨kept, (own, task) :: started, startedAs, fun other id member => ?_⟩
          rcases List.mem_append.mp member with earlier | last
          · obtain ⟨known, isKnown, listing⟩ := listed other id earlier
            exact ⟨known, isKnown, List.mem_cons_of_mem _ listing⟩
          · cases List.mem_singleton.mp last
            exact ⟨task, isTask, List.mem_cons_self⟩
  | taskStop taskId result => exact quiet (by rintro _ _ ⟨⟩) staysWithin_taskStop step
  | taskStatus taskId result => exact quiet (by rintro _ _ ⟨⟩) staysWithin_taskStatus step
  | isAccessible result => exact quiet (by rintro _ _ ⟨⟩) staysWithin_isAccessible step
  | status result => exact quiet (by rintro _ _ ⟨⟩) staysWithin_status step
  | target result => exact quiet (by rintro _ _ ⟨⟩) staysWithin_target step
  | taskResult taskId result =>
      refine explains_of_secures (by rintro _ _ ⟨⟩) explains step staysWithin_taskResult
        fun started => ?_
      exact secures_taskResult.mono (fun _ _ holds => holds) fun _ _ _ holds => holds.2
  | taskLogs taskId result =>
      exact explains_of_secures (by rintro _ _ ⟨⟩) explains step staysWithin_taskLogs
        fun started => secures_taskLogs

/-- The invariant of every run of a resource whose client has drawn no identifier yet. -/
theorem explains_of_history {start final : IBMQuantumSystem × ServiceState}
    {calls : List TaskCall} (fresh : start.2.drawn = ∅)
    (history : History (TaskCall.Step computes codec fuel) start calls final) :
    Explains computes codec start.1 calls final := by
  have initially : Explains computes codec start.1 [] start := by
    refine ⟨rfl, [], ⟨fun id => ⟨[], .sampler, []⟩, fun id member => ?_, fun id task member => ?_⟩,
      fun payload id member => ?_⟩
    · rw [fresh] at member
      exact (Set.notMem_empty id member).elim
    · cases member
    · cases member
  exact history.invariant (Explains computes codec start.1) initially
    fun _ explains step => explains_of_step explains step

/-- What is returned as the result of a task was computed from the input that the task was
started with, by its program on the backend of the resource. -/
theorem results_are_computed {start final : IBMQuantumSystem × ServiceState}
    {earlier later : List TaskCall} {payload : Payload} {id text : Text}
    (fresh : start.2.drawn = ∅)
    (history : History (TaskCall.Step computes codec fuel) start
      (earlier ++ .taskResult id (.ok text) :: later) final)
    (starts : .taskStart payload (.ok id) ∈ earlier) :
    ∃ task, taskOf codec.json start.1.backendName payload = some task ∧
      computes task.backend task.program.display.toList task.input (Text.utf8 text) := by
  obtain ⟨middle, before, after⟩ := history.split
  obtain ⟨same, started, accounts, listed⟩ := explains_of_history fresh before
  obtain ⟨task, isTask, member⟩ := listed payload id starts
  cases after with
  | cons returns rest =>
      obtain ⟨trace, visited, executes, hosts⟩ := returns
      obtain ⟨isResult, -⟩ := secures_taskResult executes hosts accounts
      exact ⟨task, isTask, isResult text rfl task member⟩

/-- The input of every task that was started is in the bucket from then on. -/
theorem inputs_are_kept {start final : IBMQuantumSystem × ServiceState}
    {calls : List TaskCall} {payload : Payload} {id : Text} (fresh : start.2.drawn = ∅)
    (history : History (TaskCall.Step computes codec fuel) start calls final)
    (starts : .taskStart payload (.ok id) ∈ calls) :
    ∃ task, taskOf codec.json start.1.backendName payload = some task ∧
      final.2.objects (start.1.apiClient.s3Bucket.getD [], inputKey id) = some task.input := by
  obtain ⟨-, started, ⟨tasks, -, keeps⟩, listed⟩ := explains_of_history fresh history
  obtain ⟨task, isTask, member⟩ := listed payload id starts
  exact ⟨task, isTask, (keeps id task member).2.2⟩

end Runs

namespace CompletedTask

open QuantumSystem.TokenManager LostReply

/-- Programs that return their input. -/
def echoes : Text → Text → List UInt8 → List UInt8 → Prop :=
  fun _ _ input results => results = input

def jobBody : Text :=
  "\x7b\"backend\":\"test\",\"status\":\"Completed\"\x7d".toList

def codec : TaskCodec where
  toCodec := LostReply.codec
  readJob := readDocument jobBody ⟨"test".toList, .completed, none, none, none⟩
  readJobs _ := .error "expected value"
  readBackend _ := .error "expected value"
  readLanes _ := .error "expected value"
  utf8Error _ := "invalid utf-8 sequence"

def accepted : HttpResponse :=
  ⟨⟨204, "No Content"⟩, none, .ok []⟩

def found : HttpResponse :=
  ⟨⟨200, "OK"⟩, some "application/json".toList, .ok jobBody⟩

def inquiry : HttpRequest where
  method := .get
  url := "https://qs/v1/jobs/j".toList
  query := []
  headers := [("Accept", "application/json".toList), ("Service-CRN", "crn".toList)]
  authorization := .absent
  body := none

/-- Starting the task. -/
def starting : List SystemEvent :=
  description ++ (renewal ++ [⟨.send (authorizedBy submission), .ok accepted⟩])

/-- Asking for the job with the token of before. -/
def asking : List SystemEvent :=
  [⟨.instant, (1 : Nat)⟩, ⟨.send (authorizedBy inquiry), .ok found⟩]

def resource : IBMQuantumSystem :=
  system.withClient renewed

theorem submits :
    (Client.runJob codec.toCodec 10 job).Executes system.apiClient
      (renewal ++ [⟨.send (authorizedBy submission), .ok accepted⟩]) (.ok ['j']) renewed := by
  rw [Client.runJob, executes_self_bind_iff]
  refine executes_bind_iff.mpr (.inr ⟨_, [], .ok accepted, renewed,
    (List.append_nil _).symm, ?_, .done _⟩)
  rw [Client.send, executes_self_bind_iff]
  refine executes_attempt_iff.mpr ⟨_, rfl, executes_zoom_iff.mpr ⟨stored, rfl, ?_⟩⟩
  refine executes_bind_iff.mpr (.inr ⟨_, _, "t".toList, stored, rfl, acquires, ?_⟩)
  refine executes_bind_iff.mpr (.inr ⟨_, [], .ok accepted, stored,
    (List.append_nil _).symm, ?_, .done _⟩)
  exact executes_lift_iff.mpr ⟨_, .ask (.done _), rfl, rfl⟩

theorem starts :
    (taskStart codec.toCodec 10 payload).Executes system starting (.ok ['j']) resource := by
  rw [taskStart, executes_self_bind_iff]
  refine executes_bind_iff.mpr (.inr ⟨[], starting, 60, system, rfl, .done _, ?_⟩)
  refine executes_bind_iff.mpr
    (.inr ⟨[], starting, (.object [], .sampler), system, rfl, .done _, ?_⟩)
  refine executes_bind_iff.mpr (.inr ⟨starting, [], .ok ['j'], resource,
    (List.append_nil _).symm, ?_, .done _⟩)
  refine executes_attempt_iff.mpr ⟨_, rfl, executes_zoom_iff.mpr ⟨renewed, rfl, ?_⟩⟩
  exact executes_bind_iff.mpr (.inr ⟨_, _, job, _, rfl, describes, submits⟩)

theorem asks :
    (Client.getJob codec 10 ['j']).Executes renewed asking
      (.ok ⟨"test".toList, .completed, none, none, none⟩) renewed := by
  rw [Client.getJob, executes_self_bind_iff, Client.get, executes_self_bind_iff]
  refine executes_bind_iff.mpr (.inr ⟨_, [], .ok found, renewed,
    (List.append_nil _).symm, ?_, ?_⟩)
  · rw [Client.send, executes_self_bind_iff]
    refine executes_attempt_iff.mpr ⟨_, rfl, executes_zoom_iff.mpr ⟨stored, rfl, ?_⟩⟩
    refine executes_bind_iff.mpr (.inr ⟨[_], [_], "t".toList, stored, rfl, ?_, ?_⟩)
    · exact .ask (.done _)
    refine executes_bind_iff.mpr (.inr ⟨[_], [], .ok found, stored, rfl, ?_, .done _⟩)
    exact executes_lift_iff.mpr ⟨_, .ask (.done _), rfl, rfl⟩
  · have read : codec.readJob jobBody = .ok ⟨"test".toList, .completed, none, none, none⟩ := by
      change readDocument jobBody _ jobBody = _
      exact readDocument_self _ _
    have reads : Client.Fetch.read ⟨codec.readJob, renewed.jobUrl ['j'], .job⟩ codec.toCodec
        (.ok found) = (codec.readJob jobBody).mapError .json := rfl
    rw [reads, read]
    exact .done _

/-- Reading the result. -/
def collecting : List (Event TaskQuery.Answer) :=
  asking.map Event.inl ++
    [⟨.inr ⟨s3, "b".toList, resultsKey ['j']⟩, .ok [.ok (Text.utf8 "\x7b\x7d".toList)]⟩]

theorem collects :
    (taskResult codec 10 ['j']).Executes resource collecting (.ok "\x7b\x7d".toList)
      resource := by
  rw [taskResult, executes_self_bind_iff]
  refine executes_bind_iff.mpr (.inr ⟨[], collecting, (s3, "b".toList), resource, rfl,
    .done _, ?_⟩)
  refine executes_bind_iff.mpr (.inr ⟨asking.map Event.inl, _, _, resource, rfl,
    executes_inl_iff.mpr ⟨asking, rfl, executes_bind_iff.mpr (.inr ⟨asking, [], .ok
      ⟨"test".toList, .completed, none, none, none⟩, resource, rfl,
        executes_attempt_iff.mpr ⟨_, rfl, executes_zoom_iff.mpr ⟨renewed, rfl, asks⟩⟩,
          .done _⟩)⟩, ?_⟩)
  refine executes_bind_iff.mpr (.inr ⟨[_], [], .ok (Text.utf8 "\x7b\x7d".toList), resource, rfl,
    .ask (.done _), ?_⟩)
  exact .done _

def empty : ServiceState :=
  ⟨fun _ => none, fun _ => none, fun _ => none, fun _ => none, ∅⟩

def uploaded : ServiceState :=
  ServiceState.store ("b".toList, inputKey ['j']) (Text.utf8 "\x7b\x7d".toList)
    { empty with drawn := insert ['j'] empty.drawn }

def permitting : ServiceState :=
  ((uploaded.grant ['i'] .getObject "b".toList (inputKey ['j'])).grant
    ['r'] .putObject "b".toList (resultsKey ['j'])).grant
      ['l'] .putObject "b".toList (logsKey ['j'])

def created : ServiceState :=
  { permitting with jobs := Function.update permitting.jobs ['j'] (some job) }

def running : ServiceState :=
  { created with
    loaded := Function.update created.loaded ['j'] (some (job, Text.utf8 "\x7b\x7d".toList)) }

def finished : ServiceState :=
  running.store ("b".toList, resultsKey ['j']) (Text.utf8 "\x7b\x7d".toList)

theorem loads : Moves echoes created running :=
  .load (Set.mem_insert _ _) rfl rfl rfl rfl

theorem finishes : Moves echoes running finished :=
  .finish (Set.mem_insert _ _) rfl rfl rfl rfl rfl rfl

theorem unused : empty.Unused ['j'] :=
  ⟨Set.notMem_empty _, fun _ _ _ => rfl, rfl, rfl⟩

theorem accepts : (TaskCall.taskStart payload (.ok ['j'])).Step echoes codec 10
    (system, empty) (resource, created) := by
  refine ⟨starting.map Event.inl, _, executes_inl_iff.mpr ⟨starting, rfl, starts⟩,
    .serve (.refl _) ⟨unused, rfl⟩ (.serve (.refl _) rfl
      (.serve (.refl _) ⟨rfl, .inl rfl⟩ (.serve (.refl _) ⟨rfl, .inl rfl⟩
        (.serve (.refl _) ⟨rfl, .inl rfl⟩ (.serve (.refl _) rfl (.serve (.refl _) rfl
          (.serve (.refl _) ?_ (.idle (.refl _)))))))))⟩
  exact .creates rfl rfl rfl

theorem returns : (TaskCall.taskResult ['j'] (.ok "\x7b\x7d".toList)).Step echoes codec 10
    (resource, created) (resource, finished) := by
  refine ⟨collecting, _, collects,
    .serve (.move loads (.move finishes (.refl _))) rfl (.serve (.refl _) (.ignores _)
      (.serve (.refl _) ⟨rfl, fun parts same => ?_⟩ (.idle (.refl _))))⟩
  obtain rfl : parts = [Text.utf8 "\x7b\x7d".toList] :=
    (List.map_injective_iff.mpr fun _ _ => Except.ok.inj) same.symm
  rfl

theorem history : History (TaskCall.Step echoes codec 10) (system, empty)
    ([.taskStart payload (.ok ['j'])] ++ [.taskResult ['j'] (.ok "\x7b\x7d".toList)])
    (resource, finished) :=
  .cons accepts (.cons returns (.nil _))

end CompletedTask

theorem echo_is_computed :
    ∃ task, taskOf CompletedTask.codec.json "test".toList LostReply.payload = some task ∧
      CompletedTask.echoes task.backend task.program.display.toList task.input
        (Text.utf8 "\x7b\x7d".toList) :=
  results_are_computed rfl CompletedTask.history (List.mem_singleton_self _)

theorem input_is_kept :
    ∃ task, taskOf CompletedTask.codec.json "test".toList LostReply.payload = some task ∧
      CompletedTask.finished.objects ("b".toList, inputKey ['j']) = some task.input :=
  inputs_are_kept rfl CompletedTask.history
    (List.mem_append_left _ (List.mem_singleton_self _))

end IBMQuantumSystem
