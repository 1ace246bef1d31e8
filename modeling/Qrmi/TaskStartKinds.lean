import Qrmi.AliceBobFelis
import Qrmi.IqmServer
import Qrmi.PasqalCloudResource
import Qrmi.QuantumComputeService

/-!
# The error kinds of a task start

The resources that do not retry start a task with one creation request.  A reply
with the status of a client error says that nothing was created.  Any other reply,
a lost one included, may follow a creation, and must not lead to an error that
promises otherwise.
-/

open Interaction

/-- A reply with the status of a client error. -/
def HttpReply.isClientError : HttpReply → Bool
  | .ok response => response.status.isClientError
  | .error _ => false

section Contract

variable {Query : Type} {Answer : Query → Type} {State : Type}

/-- The contract of `task_start`: at most one creation request is sent, exactly one
before an identifier is returned, and after an error of a definite kind every one that
was sent was refused. -/
structure StartsDefinitely (creation : State → Event Answer → Bool)
    (refused : Event Answer → Bool)
    (method : Method Query Answer State QrmiError Text) : Prop where
  once : ∀ ⦃before trace result after⦄, method.Executes before trace result after →
    trace.countP (creation before) ≤ 1
  accepted : ∀ ⦃before trace id after⦄, method.Executes before trace (.ok id) after →
    trace.countP (creation before) = 1
  definite : ∀ ⦃before trace error after⦄,
    method.Executes before trace (.error error) after → error.kind ≠ .other →
      ∀ event ∈ trace, creation before event → refused event

/-- What the contract says about one execution. -/
structure KeepsPromise (creation refused : Event Answer → Bool)
    (trace : List (Event Answer)) (result : Except QrmiError Text) : Prop where
  once : trace.countP creation ≤ 1
  accepted : ∀ id, result = .ok id → trace.countP creation = 1
  definite : ∀ error, result = .error error → error.kind ≠ .other →
    ∀ event ∈ trace, creation event → refused event

theorem startsDefinitely_of_executions {creation : State → Event Answer → Bool}
    {refused : Event Answer → Bool} {method : Method Query Answer State QrmiError Text}
    (keeps : ∀ before trace result after, method.Executes before trace result after →
      KeepsPromise (creation before) refused trace result) :
    StartsDefinitely creation refused method := by
  constructor
  · intro before trace result after executes
    exact (keeps _ _ _ _ executes).once
  · intro before trace id after executes
    exact (keeps _ _ _ _ executes).accepted id rfl
  · intro before trace error after executes
    exact (keeps _ _ _ _ executes).definite error rfl

variable {creation refused : Event Answer → Bool} {trace : List (Event Answer)}
variable {result : Except QrmiError Text}

/-- A failure before any creation request. -/
theorem KeepsPromise.failed {error : QrmiError}
    (createsNone : ∀ event ∈ trace, creation event = false) :
    KeepsPromise creation refused trace (.error error) := by
  have none : trace.countP creation = 0 :=
    List.countP_eq_zero.mpr fun event member => by simp [createsNone event member]
  constructor
  · omega
  · intro id returned
    cases returned
  · intro _ _ _ event member creates
    rw [createsNone event member] at creates
    cases creates

/-- One creation request among others. -/
theorem KeepsPromise.created {earlier later : List (Event Answer)} {event : Event Answer}
    (before : ∀ other ∈ earlier, creation other = false) (creates : creation event)
    (after : ∀ other ∈ later, creation other = false)
    (definite : ∀ error, result = .error error → error.kind ≠ .other → refused event) :
    KeepsPromise creation refused (earlier ++ event :: later) result := by
  have one : (earlier ++ event :: later).countP creation = 1 := by
    have noneEarlier : earlier.countP creation = 0 :=
      List.countP_eq_zero.mpr fun other member => by simp [before other member]
    have noneLater : later.countP creation = 0 :=
      List.countP_eq_zero.mpr fun other member => by simp [after other member]
    rw [List.countP_append, List.countP_cons_of_pos creates, noneEarlier, noneLater]
  constructor
  · exact one.le
  · exact fun _ _ => one
  · intro error failed kind other member isCreation
    rcases List.mem_append.mp member with inEarlier | inRest
    · rw [before other inEarlier] at isCreation
      cases isCreation
    · rcases List.mem_cons.mp inRest with rfl | inLater
      · exact definite error failed kind
      · rw [after other inLater] at isCreation
        cases isCreation

theorem KeepsPromise.single {event : Event Answer} (creates : creation event)
    (definite : ∀ error, result = .error error → error.kind ≠ .other → refused event) :
    KeepsPromise creation refused [event] result :=
  have promise : KeepsPromise creation refused ([] ++ event :: []) result :=
    .created (List.forall_mem_nil _) creates (List.forall_mem_nil _) definite
  promise

end Contract

/-- A classification that is definite about refused requests only. -/
def Conservative (classify : ApiError → QrmiError) : Prop :=
  ∀ error, (classify error).kind ≠ .other →
    ∃ status content, error = .response status content ∧ status.isClientError

theorem classifyRefusal_definite {invalid : List Nat} {notFound : Option (String → QrmiError)}
    {otherwise : QrmiError} {status : HttpStatus} {content : Text}
    (unknown : otherwise.kind = .other)
    (definite : (classifyRefusal invalid notFound otherwise status content).kind ≠ .other) :
    status.code ∈ invalid ∨ status.code = 401 ∨ status.code = 404 := by
  unfold classifyRefusal at definite
  by_cases isInvalid : status.code ∈ invalid
  · exact .inl isInvalid
  by_cases unauthorized : status.code = 401
  · exact .inr (.inl unauthorized)
  by_cases missing : status.code = 404
  · exact .inr (.inr missing)
  · simp [isInvalid, unauthorized, missing, unknown] at definite

theorem isClientError_of_code {status : HttpStatus}
    (known : status.code ∈ [400, 422] ∨ status.code = 401 ∨ status.code = 404) :
    status.isClientError := by
  have inRange : 400 ≤ status.code ∧ status.code < 500 := by
    simp only [List.mem_cons, List.not_mem_nil, or_false] at known
    omega
  simpa [HttpStatus.isClientError] using inRange

theorem conservative_of_code {classify : ApiError → QrmiError}
    (unsent : ∀ message, (classify (.reqwest message)).kind = .other)
    (unread : ∀ message, (classify (.serde message)).kind = .other)
    (known : ∀ status content, (classify (.response status content)).kind ≠ .other →
      status.code ∈ [400, 422] ∨ status.code = 401 ∨ status.code = 404) :
    Conservative classify := by
  intro error definite
  cases error with
  | reqwest message => exact absurd (unsent message) definite
  | serde message => exact absurd (unread message) definite
  | response status content =>
      exact ⟨status, content, rfl, isClientError_of_code (known status content definite)⟩

theorem IQMServer.classify_conservative (kind : ResourceKind) :
    Conservative (IQMServer.classify kind) := by
  refine conservative_of_code (fun _ => rfl) (fun _ => rfl) fun status content definite => ?_
  exact (classifyRefusal_definite rfl definite).imp_left (by simp +contextual)

theorem AliceBobFelis.classify_conservative (kind : ResourceKind) :
    Conservative (AliceBobFelis.classify kind) :=
  conservative_of_code (fun _ => rfl) (fun _ => rfl) fun _ _ definite =>
    classifyRefusal_definite rfl definite

theorem IBMQuantumComputeService.classify_conservative (kind : ResourceKind) :
    Conservative (IBMQuantumComputeService.classify kind) := by
  refine conservative_of_code (fun _ => rfl) (fun _ => rfl) fun status content definite => ?_
  exact (classifyRefusal_definite rfl definite).imp_left (by simp +contextual)

/-- Reading a reply reports a status only when it is the reply's own. -/
theorem readJson_eq_response {α : Type} {fallback typeName : String}
    {parse : Text → Except String α} {reply : HttpReply} {status : HttpStatus}
    {content : Text}
    (failed : reply.readJson fallback typeName parse = .error (.response status content)) :
    ∃ response, reply = .ok response ∧ response.status = status := by
  cases reply with
  | error message => cases failed
  | ok response =>
      refine ⟨response, rfl, ?_⟩
      rw [HttpReply.readJson, HttpReply.read] at failed
      by_cases isError : response.status.isError
      · rw [if_pos isError, HttpReply.refusal] at failed
        cases arrived : response.text <;> rw [arrived] at failed <;> cases failed
        rfl
      · rw [if_neg isError] at failed
        cases arrived : response.text with
        | error message => rw [arrived] at failed; cases failed
        | ok body =>
            rw [arrived] at failed
            cases type : ContentType.from (response.contentType.getD fallback.toList) with
            | json =>
                cases read : parse body <;> simp [type, read, Except.mapError] at failed
            | text => simp [type] at failed
            | unsupported name => simp [type] at failed

/-- A definite error of a classified reply comes from a refusal. -/
theorem Conservative.refused {α : Type} {classify : ApiError → QrmiError}
    (conservative : Conservative classify) {fallback typeName : String}
    {parse : Text → Except String α} {reply : HttpReply} {error : QrmiError}
    (failed : (reply.readJson fallback typeName parse).mapError classify = .error error)
    (definite : error.kind ≠ .other) : reply.isClientError := by
  cases read : reply.readJson fallback typeName parse with
  | ok value => rw [read] at failed; cases failed
  | error apiError =>
      have classifies : classify apiError = error := by
        simpa [read, Except.mapError] using failed
      obtain ⟨status, content, rfl, isClientError⟩ :=
        conservative apiError (by rwa [classifies])
      obtain ⟨response, rfl, rfl⟩ := readJson_eq_response read
      exact isClientError

/-- The posting of something to an address of a kind. -/
def postsTo (creates : Text → Bool) (event : WebEvent) : Bool :=
  match event with
  | ⟨.send request, _⟩ => request.method = .post && creates request.url
  | _ => false

/-- A request that was answered with a client error. -/
def isRefused (event : WebEvent) : Bool :=
  match event with
  | ⟨.send _, reply⟩ => reply.isClientError
  | _ => false

namespace IQMBackend

/-- Jobs are created under the name of the backend. -/
def creation (server : IQMBackend) : WebEvent → Bool :=
  postsTo fun url => (server.config.basePath ++ "/api/v1/jobs/".toList ++
    server.backendName ++ "/".toList).isPrefixOf url

theorem startsDefinitely (codec : IqmSubmissionCodec) (payload : Payload) :
    StartsDefinitely creation isRefused (taskStart codec payload) := by
  apply startsDefinitely_of_executions
  intro before trace result after executes
  unfold taskStart at executes
  split at executes
  · rename_i iqmjson jobType useTimeslot tag
    cases parsed : codec.parse iqmjson with
    | error message =>
        rw [parsed] at executes
        obtain ⟨rfl, rfl, -⟩ := Method.executes_ofExcept_bind_error_iff.mp executes
        exact .failed (by simp)
    | ok job =>
        rw [parsed] at executes
        have requested := Method.executes_ofExcept_bind_ok_iff.mp executes
        obtain ⟨⟨reply, rfl, rfl⟩, -⟩ := executes_request_fetch_iff.mp requested
        apply KeepsPromise.single
        · simp [creation, postsTo, IQMServer.authorized, List.append_assoc]
        · intro error failed definite
          exact (IQMServer.classify_conservative .backend).refused failed definite
  · obtain ⟨rfl, rfl, -⟩ := Method.executes_throw_iff.mp executes
    exact .failed (by simp)

end IQMBackend

namespace FelisBackend

def creation (felis : FelisBackend) : WebEvent → Bool :=
  postsTo fun url => url = createUrl felis.config

/-- The address of an upload continues that of the creation. -/
theorem uploadUrl_ne (config : FelisConfiguration) (jobId : Text) :
    AliceBobFelis.jobUrl config jobId ++ "/input".toList ≠ createUrl config := by
  intro equal
  have lengths := congrArg List.length equal
  simp only [AliceBobFelis.jobUrl, createUrl, List.length_append] at lengths
  have suffix : 0 < "/input".toList.length := by decide
  omega

/-- The upload creates nothing and fails without a definite kind. -/
theorem uploads_of_executes {codec : FelisSubmissionCodec} {jobId humanQir : Text}
    {before after : FelisBackend} {trace : List WebEvent} {result : Except QrmiError Text}
    (executes : Method.Executes (do
      let _ ← request fun felis : FelisBackend =>
        classified (uploadError jobId) (uploadInput codec felis.config jobId humanQir)
      return jobId) before trace result after) :
    (∀ event ∈ trace, creation before event = false) ∧
      ∀ error, result = .error error → error.kind = .other := by
  have createsNone (input : Json) (reply : HttpReply) : creation before
      ⟨.send { AliceBobFelis.authorized before.config .post
        (AliceBobFelis.jobUrl before.config jobId ++ "/input".toList)
        with body := some input }, reply⟩ = false :=
    decide_eq_false (uploadUrl_ne before.config jobId)
  rcases Method.executes_bind_iff.mp executes with ⟨error, rfl, refused⟩ |
    ⟨first, rest, answer, middle, rfl, uploaded, returned⟩
  · obtain ⟨⟨reply, rfl, failed⟩, -⟩ := executes_request_fetch_iff.mp refused
    refine ⟨List.forall_mem_singleton.mpr (createsNone _ reply), ?_⟩
    rintro error ⟨⟩
    cases read : HttpReply.readJson "application/octet-stream" "serde_json::Value"
        codec.parse reply with
    | ok value => rw [read] at failed; cases failed
    | error apiError => rw [read] at failed; cases failed; rfl
  · obtain ⟨⟨reply, rfl, -⟩, rfl⟩ := executes_request_fetch_iff.mp uploaded
    obtain ⟨rfl, rfl, -⟩ := Method.executes_pure_iff.mp returned
    exact ⟨List.forall_mem_singleton.mpr (createsNone _ reply), by simp⟩

theorem startsDefinitely (codec : FelisSubmissionCodec) (payload : Payload) :
    StartsDefinitely creation isRefused (taskStart codec payload) := by
  apply startsDefinitely_of_executions
  intro before trace result after executes
  unfold taskStart at executes
  split at executes
  · rename_i humanQir inputParams
    cases parsed : codec.parse inputParams with
    | error message =>
        rw [parsed] at executes
        obtain ⟨rfl, rfl, -⟩ := Method.executes_ofExcept_bind_error_iff.mp executes
        exact .failed (by simp)
    | ok params =>
        rw [parsed] at executes
        have started := Method.executes_ofExcept_bind_ok_iff.mp executes
        have creates (reply : HttpReply) : creation before
            ⟨.send { AliceBobFelis.authorized before.config .post (createUrl before.config)
              with body := some (externalJob before params) }, reply⟩ := by
          simp [creation, postsTo, AliceBobFelis.authorized]
        rcases Method.executes_bind_iff.mp started with ⟨error, rfl, refused⟩ |
          ⟨first, rest, jobId, middle, rfl, created, uploaded⟩
        · obtain ⟨⟨reply, rfl, failed⟩, -⟩ := executes_request_fetch_iff.mp refused
          apply KeepsPromise.single (creates reply)
          rintro error ⟨⟩ definite
          exact (AliceBobFelis.classify_conservative .backend).refused failed.symm definite
        · obtain ⟨⟨reply, rfl, -⟩, rfl⟩ := executes_request_fetch_iff.mp created
          -- The job exists from here on, and only an upload follows.
          obtain ⟨noneLater, unknown⟩ := uploads_of_executes uploaded
          apply KeepsPromise.created (List.forall_mem_nil _) (creates reply) noneLater
          intro error failed definite
          exact absurd (unknown error failed) definite
  · obtain ⟨rfl, rfl, -⟩ := Method.executes_throw_iff.mp executes
    exact .failed (by simp)

end FelisBackend

namespace IBMQuantumComputeService

def creation (service : IBMQuantumComputeService) : WebEvent → Bool :=
  postsTo fun url => url = service.config.basePath ++ "/jobs".toList

/-- The renewal of a token creates nothing and keeps the address of the service. -/
theorem quiet_of_checkToken {codec : QuantumCompute.Codec}
    {before after : IBMQuantumComputeService} {trace : List WebEvent}
    {result : Except QrmiError Unit}
    (executes : (checkToken codec).Executes before trace result after) :
    (∀ event ∈ trace, creation before event = false) ∧
      after.config.basePath = before.config.basePath := by
  obtain ⟨-, now, rest, rfl, ⟨-, rfl, rfl⟩ | ⟨url, form, reply, rfl, rfl⟩⟩ :=
    checkToken_cases codec executes
  · exact ⟨List.forall_mem_singleton.mpr rfl, rfl⟩
  · constructor
    · simp [creation, postsTo]
    · unfold renewed
      cases QuantumCompute.readTokenReply codec reply <;> rfl

theorem startsDefinitely (codec : QuantumCompute.Codec) (payload : Payload) :
    StartsDefinitely creation isRefused (taskStart codec payload) := by
  apply startsDefinitely_of_executions
  intro before trace result after executes
  unfold taskStart at executes
  rcases Method.executes_bind_iff.mp executes with ⟨error, rfl, failed⟩ |
    ⟨first, rest, _, middle, rfl, checked, started⟩
  · cases (checkToken_cases codec failed).1
  obtain ⟨noneEarlier, sameAddress⟩ := quiet_of_checkToken checked
  split at started
  · rename_i input programId
    cases read : readParams codec programId input with
    | error error =>
        rw [read] at started
        obtain ⟨rfl, rfl, -⟩ := Method.executes_ofExcept_bind_error_iff.mp started
        rw [List.append_nil]
        exact .failed noneEarlier
    | ok params =>
        rw [read, Method.executes_ofExcept_bind_ok_iff,
          Method.executes_self_bind_iff] at started
        obtain ⟨⟨reply, rfl, rfl⟩, -⟩ := executes_request_fetch_iff.mp started
        apply KeepsPromise.created noneEarlier _ (List.forall_mem_nil _)
        · intro error failed definite
          exact (classify_conservative .backend).refused failed definite
        · simp [creation, postsTo, QuantumCompute.Configuration.request, sameAddress]
  · obtain ⟨rfl, rfl, -⟩ := Method.executes_throw_iff.mp started
    rw [List.append_nil]
    exact .failed noneEarlier

end IBMQuantumComputeService

namespace PasqalCloud

open Method

variable {HeaderValue α : Type} {library : AuthLibrary HeaderValue}

/-- The posting of something to an address of a kind. -/
def postsTo (creates : Text → Bool) (event : CloudEvent HeaderValue) : Bool :=
  match event with
  | ⟨.send request, _⟩ => request.method = .post && creates request.url
  | _ => false

/-- A request that was answered with a client error. -/
def isRefused (event : CloudEvent HeaderValue) : Bool :=
  match event with
  | ⟨.send _, reply⟩ => reply.isClientError
  | _ => false

/-- An event that posts nothing. -/
def Quiet (event : CloudEvent HeaderValue) : Prop :=
  ∀ creates, postsTo creates event = false

theorem emits_question {action : CloudAction HeaderValue}
    (quiet : ∀ answer, Quiet ⟨action, answer⟩) :
    (lift (Program.question action) :
      CloudMethod HeaderValue (CloudAction.Answer action)).Emits Quiet :=
  emits_lift (Program.emits_question quiet)

theorem emits_requestAccessToken (authEndpoint : Text) (request : AccessTokenRequest) :
    (Client.requestAccessToken library authEndpoint request).Emits Quiet := by
  refine (emits_ofExcept _).bind fun endpoint => ?_
  have posted : (lift (Program.question
      (.postForm endpoint request.formParams : CloudAction HeaderValue)) :
        CloudMethod HeaderValue HttpReply).Emits Quiet :=
    emits_question fun _ _ => rfl
  exact posted.bind fun _ => emits_ofExcept _

theorem emits_refresh : (Client.refresh library).Emits Quiet := by
  refine emits_self.bind fun client => (emits_ofExcept _).bind fun _ => ?_
  cases client.accessTokenRequest with
  | none => exact emits_throw _
  | some request =>
      refine (emits_requestAccessToken client.authEndpoint request).bind fun token => ?_
      refine (emits_modify _).bind fun _ => ?_
      exact (emits_ofExcept _).bind fun _ => emits_modify _

theorem emits_ensureAuthenticated : (Client.ensureAuthenticated library).Emits Quiet := by
  have clock : (Client.nowUnixSeconds : CloudMethod HeaderValue Int).Emits Quiet :=
    (emits_question fun _ _ => rfl).bind fun _ => emits_ofExcept _
  refine clock.bind fun now => emits_self.bind fun client => ?_
  by_cases usable : isAuthTokenUsable library client.authToken now
  · rw [if_pos usable]
    exact emits_pure _
  · rw [if_neg usable]
    exact emits_refresh

/-- A request is authenticated without its method and address. -/
theorem executes_authenticated_cases {request : CloudRequest HeaderValue}
    {before after : Client HeaderValue} {trace : List (CloudEvent HeaderValue)}
    {result : Except CloudError (CloudRequest HeaderValue)}
    (executes : (Client.authenticated library request).Executes before trace result after) :
    (∀ event ∈ trace, Quiet event) ∧ ∀ authorized, result = .ok authorized →
      authorized.method = request.method ∧ authorized.url = request.url := by
  unfold Client.authenticated at executes
  rcases executes_bind_iff.mp executes with ⟨error, rfl, failed⟩ |
    ⟨first, rest, _, middle, rfl, ensured, attached⟩
  · exact ⟨emits_ensureAuthenticated.event_of_executes failed, by simp⟩
  have quiet := emits_ensureAuthenticated.event_of_executes ensured
  rw [Client.attachHeaders, executes_self_bind_iff] at attached
  cases held : middle.authHeader with
  | some auth =>
      rw [held] at attached
      obtain ⟨rfl, rfl, -⟩ := executes_pure_iff.mp attached
      rw [List.append_nil]
      refine ⟨quiet, ?_⟩
      rintro authorized ⟨⟩
      exact ⟨rfl, rfl⟩
  | none =>
      rw [held] at attached
      obtain ⟨rfl, rfl, -⟩ := executes_throw_iff.mp attached
      rw [List.append_nil]
      exact ⟨quiet, by simp⟩

/-- A posting either fails before it sends anything, or sends one request last. -/
def PostsLast (url : Text) (trace : List (CloudEvent HeaderValue))
    (result : Except CloudError α) : Prop :=
  (∃ error, result = .error error ∧ ∀ event ∈ trace, Quiet event) ∨
    ∃ earlier event, trace = earlier ++ [event] ∧ (∀ event ∈ earlier, Quiet event) ∧
      ∀ creates, postsTo creates event = creates url

theorem postsLast_of_post {parse : Text → Except String α} {url : Text} {body : Json}
    {before after : Client HeaderValue} {trace : List (CloudEvent HeaderValue)}
    {result : Except CloudError α}
    (executes : (Client.post library parse url body).Executes before trace result after) :
    PostsLast url trace result := by
  unfold Client.post at executes
  rcases executes_bind_iff.mp executes with ⟨error, rfl, failed⟩ |
    ⟨first, rest, authorized, middle, rfl, attached, sent⟩
  · exact .inl ⟨error, rfl, (executes_authenticated_cases failed).1⟩
  obtain ⟨quiet, same⟩ := executes_authenticated_cases attached
  obtain ⟨sameMethod, sameUrl⟩ := same authorized rfl
  obtain ⟨reply, rest, rfl, returned⟩ := executes_question_bind_iff.mp sent
  obtain ⟨rfl, -, -⟩ := executes_ofExcept_iff.mp returned
  refine .inr ⟨first, _, rfl, quiet, fun creates => ?_⟩
  simp [postsTo, sameMethod, sameUrl, CloudRequest.new]

end PasqalCloud

namespace PasqalCloudResource

variable {HeaderValue : Type}

/-- Batches and CUDA-Q jobs are what a task can be. -/
def creation (resource : PasqalCloudResource HeaderValue) :
    PasqalCloud.CloudEvent HeaderValue → Bool :=
  PasqalCloud.postsTo fun url =>
    url = resource.apiClient.url "v1/batches" [] ||
      url = resource.apiClient.url "v1/cudaq/job" []

/-- The client reports nothing of a definite kind. -/
theorem clientError_kind (error : PasqalCloud.CloudError) :
    (clientError error).kind = .other := by
  cases error <;> rfl

/-- A creation through the client, and what is remembered of it. -/
theorem keepsPromise_of_create {α : Type} {method : PasqalCloud.CloudMethod HeaderValue α}
    {url : Text} {taskId : α → Text} {kind : PasqalTaskKind}
    {before after : PasqalCloudResource HeaderValue}
    {trace : List (PasqalCloud.CloudEvent HeaderValue)} {result : Except QrmiError Text}
    (posts : ∀ trace outcome apiClient,
      method.Executes before.apiClient trace outcome apiClient →
        PasqalCloud.PostsLast url trace outcome)
    (creates : url = before.apiClient.url "v1/batches" [] ∨
      url = before.apiClient.url "v1/cudaq/job" [])
    (executes : Method.Executes (do
      let created ← client method
      remember (taskId created) kind) before trace result after) :
    KeepsPromise before.creation PasqalCloud.isRefused trace result := by
  have isCreation : (url = before.apiClient.url "v1/batches" [] ||
      url = before.apiClient.url "v1/cudaq/job" []) = true := by
    simpa using creates
  rcases Method.executes_bind_iff.mp executes with ⟨error, rfl, failed⟩ |
    ⟨first, rest, created, middle, rfl, called, remembered⟩
  · obtain ⟨outcome, apiClient, ran, reported, -⟩ := executes_client_iff.mp failed
    rcases posts _ _ _ ran with ⟨_, -, quiet⟩ | ⟨earlier, event, rfl, quiet, posted⟩
    · exact .failed fun event member => quiet event member _
    · apply KeepsPromise.created (fun other member => quiet other member _)
        ((posted _).trans isCreation) (List.forall_mem_nil _)
      rintro error ⟨⟩ definite
      cases outcome with
      | ok value => cases reported
      | error cloudError =>
          cases reported
          exact absurd (clientError_kind cloudError) definite
  · obtain ⟨outcome, apiClient, ran, reported, -⟩ := executes_client_iff.mp called
    have noEvents : rest = [] ∧ result = .ok (taskId created) := by
      unfold remember at remembered
      have returned := Method.executes_modify_bind_iff.mp remembered
      obtain ⟨nothing, returns, -⟩ := Method.executes_pure_iff.mp returned
      exact ⟨nothing, returns⟩
    obtain ⟨rfl, rfl⟩ := noEvents
    rw [List.append_nil]
    rcases posts _ _ _ ran with ⟨_, rfl, -⟩ | ⟨earlier, event, rfl, quiet, posted⟩
    · cases reported
    · apply KeepsPromise.created (fun other member => quiet other member _)
        ((posted _).trans isCreation) (List.forall_mem_nil _)
      rintro error ⟨⟩

/-- Every error of the library is of the unknown kind, so only the checks before
the creation report a definite one. -/
theorem startsDefinitely (library : Library HeaderValue) (payload : Payload) :
    StartsDefinitely creation PasqalCloud.isRefused (taskStart library payload) := by
  apply startsDefinitely_of_executions
  intro before trace result after executes
  unfold taskStart at executes
  split at executes
  · rename_i sequence jobRuns
    rw [Method.executes_self_bind_iff] at executes
    cases device : parseDeviceType library before.backendName with
    | error error =>
        rw [device] at executes
        obtain ⟨rfl, rfl, -⟩ := Method.executes_ofExcept_bind_error_iff.mp executes
        exact .failed (List.forall_mem_nil _)
    | ok deviceType =>
        rw [device, Method.executes_ofExcept_bind_ok_iff] at executes
        by_cases isCudaq : isCudaqSequence library sequence
        · rw [if_pos isCudaq] at executes
          cases parsed : library.parseValue sequence with
          | error message =>
              rw [parsed] at executes
              obtain ⟨rfl, rfl, -⟩ := Method.executes_ofExcept_bind_error_iff.mp executes
              exact .failed (List.forall_mem_nil _)
          | ok sequenceValue =>
              rw [parsed] at executes
              have created := Method.executes_ofExcept_bind_ok_iff.mp executes
              exact keepsPromise_of_create
                (fun _ _ _ posted => PasqalCloud.postsLast_of_post
                  (Method.executes_self_bind_iff.mp posted)) (.inr rfl) created
        · rw [if_neg isCudaq] at executes
          exact keepsPromise_of_create
            (fun _ _ _ posted => PasqalCloud.postsLast_of_post
              (Method.executes_self_bind_iff.mp posted)) (.inl rfl) executes
  · obtain ⟨rfl, rfl, -⟩ := Method.executes_throw_iff.mp executes
    exact .failed (List.forall_mem_nil _)

end PasqalCloudResource

/-- Every resource that starts tasks with one request keeps the contract. -/
theorem taskStart_startsDefinitely (iqm : IqmSubmissionCodec) (felis : FelisSubmissionCodec)
    (ibm : QuantumCompute.Codec) {HeaderValue : Type}
    (pasqal : PasqalCloudResource.Library HeaderValue) (payload : Payload) :
    StartsDefinitely IQMBackend.creation isRefused (IQMBackend.taskStart iqm payload) ∧
      StartsDefinitely IBMQuantumComputeService.creation isRefused
        (IBMQuantumComputeService.taskStart ibm payload) ∧
      StartsDefinitely FelisBackend.creation isRefused
        (FelisBackend.taskStart felis payload) ∧
      StartsDefinitely PasqalCloudResource.creation PasqalCloud.isRefused
        (PasqalCloudResource.taskStart pasqal payload) :=
  ⟨IQMBackend.startsDefinitely iqm payload,
    IBMQuantumComputeService.startsDefinitely ibm payload,
    FelisBackend.startsDefinitely felis payload,
    PasqalCloudResource.startsDefinitely pasqal payload⟩
