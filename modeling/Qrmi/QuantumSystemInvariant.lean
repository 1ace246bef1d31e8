import Qrmi.QuantumSystemStorage

/-!
# Starting a task in the shared bucket

The invariant of the bucket: every job whose identifier the client has drawn does what it
was submitted for, and the input of every task that was handed to the caller is still
there.  Starting a task keeps it, whatever happens between the requests.
-/

open Interaction

namespace QuantumSystem

namespace ServiceState

/-- Every job with an identifier that was drawn does what it was submitted for.  `tasks`
says what that is. -/
def Tracks (computes : Text → Text → List UInt8 → List UInt8 → Prop) (tasks : Text → JobTask)
    (state : ServiceState) : Prop :=
  ∀ id ∈ state.drawn, Sound computes state id (tasks id)

/-- These tasks are among them, and their inputs are in the bucket. -/
def Keeps (bucket : Text) (tasks : Text → JobTask) (started : List (Text × JobTask))
    (state : ServiceState) : Prop :=
  ∀ id task, (id, task) ∈ started → id ∈ state.drawn ∧ tasks id = task ∧
    state.objects (bucket, inputKey id) = some task.input

/-- The tasks that were started. -/
def Accounts (computes : Text → Text → List UInt8 → List UInt8 → Prop) (bucket : Text)
    (started : List (Text × JobTask)) (state : ServiceState) : Prop :=
  ∃ tasks, Tracks computes tasks state ∧ Keeps bucket tasks started state

/-- A task that is being started: whether its input is stored yet, and the addresses that
were granted for it. -/
structure Working (computes : Text → Text → List UInt8 → List UInt8 → Prop) (bucket : Text)
    (started : List (Text × JobTask)) (id : Text) (task : JobTask) (uploaded : Bool)
    (grants : List (Text × S3Operation × Text × Text)) (state : ServiceState) : Prop where
  tracks : ∃ tasks, Tracks computes tasks state ∧ Keeps bucket tasks started state ∧
    tasks id = task
  drawn : id ∈ state.drawn
  new : ∀ other, (id, other) ∉ started
  stored : uploaded → state.objects (bucket, inputKey id) = some task.input
  granted : ∀ grant ∈ grants, state.granted grant.1 = some grant.2

section Invariant

variable {computes : Text → Text → List UInt8 → List UInt8 → Prop} {bucket : Text}
variable {tasks : Text → JobTask} {started : List (Text × JobTask)}
variable {state next : ServiceState} {id : Text} {task : JobTask} {uploaded : Bool}
variable {grants : List (Text × S3Operation × Text × Text)}

theorem granted_of_moves (moved : Moves computes state next) {url : Text}
    {permission : S3Operation × Text × Text} (present : state.granted url = some permission) :
    next.granted url = some permission := by
  cases moved with
  | others spares => exact spares.granted url permission present
  | load | finish | log | forget => exact present

theorem drawn_of_moves (moved : Moves computes state next) : next.drawn = state.drawn := by
  cases moved with
  | others spares => exact spares.drawn
  | load | finish | log | forget => rfl

/-- Where a job stores what it returns. -/
theorem Tracks.place_of_results (tracks : Tracks computes tasks state) (own : id ∈ state.drawn)
    {document : Json} {input : List UInt8} (job : state.loaded id = some (document, input))
    {url place key : Text} (address : storageUrl document "results" = some url)
    (allowed : state.granted url = some (.putObject, place, key)) : key = resultsKey id := by
  obtain ⟨owner, granted⟩ := ((tracks id own).loaded document input job).1.results url address
  rw [allowed] at granted
  cases granted
  rfl

theorem Tracks.place_of_logs (tracks : Tracks computes tasks state) (own : id ∈ state.drawn)
    {document : Json} {input : List UInt8} (job : state.loaded id = some (document, input))
    {url place key : Text} (address : storageUrl document "logs" = some url)
    (allowed : state.granted url = some (.putObject, place, key)) : key = logsKey id := by
  obtain ⟨owner, granted⟩ := ((tracks id own).loaded document input job).1.logs url address
  rw [allowed] at granted
  cases granted
  rfl

/-- A job keeps doing what it was submitted for. -/
theorem Tracks.moves (tracks : Tracks computes tasks state)
    (moved : Moves computes state next) : Tracks computes tasks next := by
  intro id member
  have sound := tracks id (drawn_of_moves moved ▸ member)
  cases moved with
  | @load other url place key document input own job address allowed present =>
      refine ⟨sound.drawn, sound.input, sound.job, ?_, sound.results⟩
      intro doc content loaded
      have kept : Function.update state.loaded other (some (document, input)) id =
        some (doc, content) := loaded
      by_cases same : id = other
      · subst same
        rw [Function.update_self] at kept
        cases kept
        have describes := sound.job document job
        obtain ⟨owner, granted⟩ := describes.input url address
        rw [allowed] at granted
        cases granted
        exact ⟨describes, sound.input place _ present⟩
      · rw [Function.update_of_ne same] at kept
        exact sound.loaded doc content kept
  | @finish other url place key backend program document input results own job located runs
      computed address allowed =>
      obtain rfl := tracks.place_of_results own job address allowed
      refine sound.store (fun same => ?_) fun same => ?_
      · exact absurd same.symm (inputKey_ne_resultsKey id other)
      · obtain rfl := resultsKey_injective same
        obtain ⟨describes, rfl⟩ := sound.loaded document _ job
        have sameBackend := located.symm.trans describes.backend
        have sameProgram := runs.symm.trans describes.program
        cases sameBackend
        cases sameProgram
        exact computed
  | @log other url place key document input logs own job address allowed =>
      obtain rfl := tracks.place_of_logs own job address allowed
      refine sound.store (fun same => ?_) fun same => ?_
      · exact absurd same (logsKey_ne_inputKey other id)
      · exact absurd same (logsKey_ne_resultsKey other id)
  | forget other => exact sound.forget other
  | others spares => exact sound.spare spares

/-- The input of a job is not touched. -/
theorem Tracks.stored_of_moves (tracks : Tracks computes tasks state)
    (moved : Moves computes state next) (drawn : id ∈ state.drawn) {content : List UInt8}
    (present : state.objects (bucket, inputKey id) = some content) :
    next.objects (bucket, inputKey id) = some content := by
  cases moved with
  | load | forget => exact present
  | @finish other url place key backend program document input results own job located runs
      computed address allowed =>
      obtain rfl := tracks.place_of_results own job address allowed
      refine (Function.update_of_ne (fun same => ?_) ..).trans present
      exact inputKey_ne_resultsKey id other (Prod.mk.inj same).2
  | @log other url place key document input logs own job address allowed =>
      obtain rfl := tracks.place_of_logs own job address allowed
      refine (Function.update_of_ne (fun same => ?_) ..).trans present
      exact logsKey_ne_inputKey other id (Prod.mk.inj same).2.symm
  | others spares => exact (spares.objects id drawn bucket _ (.inl rfl)).trans present

theorem Tracks.keeps_of_moves (tracks : Tracks computes tasks state)
    (moved : Moves computes state next) (keeps : Keeps bucket tasks started state) :
    Keeps bucket tasks started next := by
  intro id task member
  obtain ⟨drawn, equal, present⟩ := keeps id task member
  exact ⟨(drawn_of_moves moved).symm ▸ drawn, equal, tracks.stored_of_moves moved drawn present⟩

theorem accounts_of_moves (moved : Moves computes state next)
    (accounts : Accounts computes bucket started state) :
    Accounts computes bucket started next := by
  obtain ⟨tasks, tracks, keeps⟩ := accounts
  exact ⟨tasks, tracks.moves moved, tracks.keeps_of_moves moved keeps⟩

theorem working_of_moves (moved : Moves computes state next)
    (working : Working computes bucket started id task uploaded grants state) :
    Working computes bucket started id task uploaded grants next := by
  obtain ⟨⟨tasks, tracks, keeps, equal⟩, drawn, new, stored, granted⟩ := working
  refine ⟨⟨tasks, tracks.moves moved, tracks.keeps_of_moves moved keeps, equal⟩,
    (drawn_of_moves moved).symm ▸ drawn, new, fun isUploaded => ?_, fun grant granting => ?_⟩
  · exact tracks.stored_of_moves moved drawn (stored isUploaded)
  · exact granted_of_moves moved (granted grant granting)

theorem Working.accounts (working : Working computes bucket started id task uploaded grants state) :
    Accounts computes bucket started state := by
  obtain ⟨⟨tasks, tracks, keeps, -⟩, -, -, -, -⟩ := working
  exact ⟨tasks, tracks, keeps⟩

/-- The task is handed to the caller. -/
theorem Working.handOver (working : Working computes bucket started id task true grants state) :
    Accounts computes bucket ((id, task) :: started) state := by
  obtain ⟨⟨tasks, tracks, keeps, equal⟩, drawn, -, stored, -⟩ := working
  refine ⟨tasks, tracks, fun other otherTask member => ?_⟩
  rcases List.mem_cons.mp member with same | earlier
  · cases same
    exact ⟨drawn, equal, stored rfl⟩
  · exact keeps other otherTask earlier

/-- An identifier is drawn for the task. -/
theorem working_of_unused (accounts : Accounts computes bucket started state)
    (unused : state.Unused id) :
    Working computes bucket started id task false []
      { state with drawn := insert id state.drawn } := by
  obtain ⟨tasks, tracks, keeps⟩ := accounts
  have other {name : Text} (drawn : name ∈ state.drawn) : name ≠ id := by
    rintro rfl
    exact unused.drawn drawn
  refine ⟨⟨Function.update tasks id task, fun name member => ?_, fun name given member => ?_,
    Function.update_self ..⟩, Set.mem_insert id state.drawn, fun given member => ?_,
    (fun isUploaded => nomatch isUploaded), fun _ member => (List.not_mem_nil member).elim⟩
  · rcases Set.mem_insert_iff.mp member with rfl | drawn
    · rw [Function.update_self]
      exact sound_of_unused unused
    · rw [Function.update_of_ne (other drawn)]
      exact (tracks name drawn).draw id
  · obtain ⟨drawn, equal, present⟩ := keeps name given member
    refine ⟨Set.mem_insert_of_mem id drawn, ?_, present⟩
    rw [Function.update_of_ne (other drawn), equal]
  · exact other (keeps id given member).1 rfl

/-- The input of the task is stored. -/
theorem Working.put (working : Working computes bucket started id task uploaded grants state) :
    Working computes bucket started id task true grants
      (state.store (bucket, inputKey id) task.input) := by
  obtain ⟨⟨tasks, tracks, keeps, equal⟩, drawn, new, -, granted⟩ := working
  refine ⟨⟨tasks, fun name member => ?_, fun name given member => ?_, equal⟩, drawn, new,
    fun _ => Function.update_self .., granted⟩
  · refine (tracks name member).store (fun same => ?_) fun same => ?_
    · rw [← inputKey_injective same, equal]
    · exact absurd same (inputKey_ne_resultsKey id name)
  · obtain ⟨isDrawn, isGiven, present⟩ := keeps name given member
    refine ⟨isDrawn, isGiven, (Function.update_of_ne (fun same => ?_) ..).trans present⟩
    obtain rfl := inputKey_injective (Prod.mk.inj same).2
    exact new given member

/-- An address is granted for the task. -/
theorem Working.grant (working : Working computes bucket started id task uploaded grants state)
    {url : Text} {operation : S3Operation} {place key : Text}
    (free : state.granted url = none ∨ state.granted url = some (operation, place, key)) :
    Working computes bucket started id task uploaded ((url, operation, place, key) :: grants)
      (state.grant url operation place key) := by
  obtain ⟨⟨tasks, tracks, keeps, equal⟩, drawn, new, stored, granted⟩ := working
  refine ⟨⟨tasks, fun name member => (tracks name member).grant free, keeps, equal⟩, drawn, new,
    stored, fun grant member => ?_⟩
  rcases List.mem_cons.mp member with rfl | earlier
  · exact Function.update_self ..
  · exact granted_grant free (granted grant earlier)

/-- The task is submitted, perhaps once more. -/
theorem Working.receive (working : Working computes bucket started id task uploaded grants state)
    {baseUrl : Text} {request : HttpRequest} {document : Json}
    (received : Receives baseUrl request state next) (submits : request.body = some document)
    (names : ∀ name, (document.get "id").asString = some name → name = id)
    (describes : Describes state.granted id task document) :
    Working computes bucket started id task uploaded grants next := by
  cases received with
  | ignores => exact working
  | @creates name body named given new =>
      obtain ⟨⟨tasks, tracks, keeps, equal⟩, drawn, fresh, stored, granted⟩ := working
      rw [submits] at given
      cases given
      have isName : name = id := by
        unfold JobStore.submittedId at named
        split at named
        · rw [submits] at named
          exact names name named
        · cases named
      refine ⟨⟨tasks, fun other member => ?_, keeps, equal⟩, drawn, fresh, stored, granted⟩
      refine (tracks other member).create fun same => ?_
      rw [← same, isName, equal]
      exact describes

end Invariant

end ServiceState

/-- What a client asks while it sends a request. -/
def Sends (request : HttpRequest) : SystemEvent → Prop
  | ⟨.send sent, _⟩ => sent = { request with authorization := sent.authorization }
  | ⟨.instant, _⟩ | ⟨.postForm .., _⟩ | ⟨.overtake, _⟩ => True
  | ⟨.newUuid, _⟩ | ⟨.putObject .., _⟩ | ⟨.presign .., _⟩ => False

section Requests

open Method TokenManager

variable {codec : Codec} {fuel : Nat} {request : HttpRequest}

theorem asks_transmit {action : SystemAction} {asReply : action.Answer → HttpReply}
    {allowed : SystemEvent → Prop} (always : ∀ answer, allowed ⟨action, answer⟩) :
    (transmit action asReply).Asks allowed :=
  (Program.asks_question always).bind fun _ => Program.asks_pure _

theorem asks_instantNow : instantNow.Asks (Sends request) :=
  asks_lift (Program.asks_question fun _ => trivial)

theorem asks_panicking {State Error α : Type} :
    (panicking : Method SystemAction SystemAction.Answer State Error α).Asks (Sends request) :=
  fun _ => trivial

theorem asks_getAccessToken : (getAccessToken codec fuel).Asks (Sends request) := by
  refine asks_self.bind fun manager => ?_
  have requests : (manager.requestToken codec fuel).Asks (Sends request) :=
    (asks_transmit fun _ => trivial).repeatWhile _ _ _
  refine (asks_lift requests).bind fun outcome => (asks_ofExcept _).bind fun response => ?_
  split
  · refine (asks_ofExcept _).bind fun token => asks_instantNow.bind fun now => ?_
    split
    · exact asks_modify _
    · exact asks_panicking
  · exact asks_throw _

theorem asks_getToken : (getToken codec fuel).Asks (Sends request) := by
  have valid : (ensureTokenValidity codec fuel).Asks (Sends request) := by
    refine asks_self.bind fun manager => ?_
    split
    · exact asks_getAccessToken
    · have expiry : (expiryOrNow manager).Asks (Sends request) := by
        rw [expiryOrNow]
        split
        · exact asks_pure _
        · exact asks_instantNow
      refine expiry.bind fun _ => asks_instantNow.bind fun _ => ?_
      split
      · exact asks_getAccessToken
      · exact asks_pure _
  refine valid.bind fun _ => asks_self.bind fun manager => ?_
  split
  · exact asks_pure _
  · exact asks_panicking

theorem asks_sendThroughRetries (client : Client) (authorization : Authorization) :
    (client.sendThroughRetries codec fuel { request with authorization := authorization }).Asks
      (Sends request) := by
  have transmitted :
      (transmit (.send { request with authorization := authorization }) id).Asks
        (Sends request) := asks_transmit fun _ => rfl
  unfold Client.sendThroughRetries
  split
  · exact transmitted
  · split
    · exact (transmitted.repeatWhile _ _ _).repeatWhile _ _ _
    · exact transmitted.repeatWhile _ _ _

theorem asks_sendWith (client : Client) (token : Text) :
    (AuthMiddleware.sendWith (client.sendThroughRetries codec fuel) request token).Asks
      (Sends request) := by
  unfold AuthMiddleware.sendWith
  split
  · exact asks_lift (asks_sendThroughRetries client _)
  · exact asks_panicking

/-- Whatever the layers below do, only the authorization of the request and the token of the
client change. -/
theorem staysWithin_send :
    StaysWithin (Sends request) Client.s3Bucket (Client.send codec fuel request) := by
  have handles (client : Client) : (AuthMiddleware.handle codec fuel
      (client.sendThroughRetries codec fuel) request).Asks (Sends request) := by
    refine asks_getToken.bind fun token => (asks_sendWith client token).bind fun response => ?_
    split
    · refine asks_getAccessToken.bind fun _ => asks_getToken.bind fun token => ?_
      exact (asks_sendWith client token).bind fun _ => asks_ofExcept _
    · exact asks_ofExcept _
  refine staysWithin_self.bind fun client => StaysWithin.attempt ?_
  exact StaysWithin.zoom (staysWithin_of_emits (handles client).emits) fun _ _ _ => rfl

theorem asks_scheduler : scheduler.Asks (Sends request) :=
  Program.asks_question fun _ => trivial

/-- So it is in a branch of a join, also if the branch is dropped. -/
theorem staysWithin_sendJoined (waiting : Option QuantumSystemError) :
    StaysWithin (Sends request) Client.s3Bucket
      (Client.sendJoined codec fuel request waiting) := by
  cases waiting with
  | none => exact staysWithin_send
  | some waiting =>
      have handles (client : Client) : (AuthMiddleware.handleDroppable codec fuel
          (client.sendThroughRetries codec fuel) request).Asks (Sends request) := by
        have sends (token : Text) :=
          (@asks_sendWith codec fuel request client token).droppable asks_scheduler
        have gets := (@asks_getToken codec fuel request).droppable asks_scheduler
        refine gets.bind fun token => (sends token).bind fun response => ?_
        split
        · refine (asks_getAccessToken.droppable asks_scheduler).bind fun _ => ?_
          exact gets.bind fun token => (sends token).bind fun _ => asks_ofExcept _
        · exact asks_ofExcept _
      refine staysWithin_self.bind fun client => StaysWithin.bind (StaysWithin.attempt
        (StaysWithin.zoom (staysWithin_of_emits (handles client).emits) fun _ _ _ => rfl))
          fun outcome => ?_
      split
      · exact staysWithin_pure _
      · exact staysWithin_pure _
      · exact staysWithin_throw _

end Requests

namespace Client

open Method Server ServiceState

variable {computes : Text → Text → List UInt8 → List UInt8 → Prop} {baseUrl bucket : Text}
variable {started : List (Text × JobTask)} {State : Type}

/-- The invariant, as an assertion about the service. -/
def accounts (computes : Text → Text → List UInt8 → List UInt8 → Prop) (baseUrl bucket : Text)
    (started : List (Text × JobTask)) : (service computes baseUrl).Assertion State :=
  .ofWorld (Accounts computes bucket started) accounts_of_moves

/-- A task that is being started, as an assertion about the service. -/
def working (computes : Text → Text → List UInt8 → List UInt8 → Prop) (baseUrl bucket : Text)
    (started : List (Text × JobTask)) (id : Text) (task : JobTask) (uploaded : Bool)
    (grants : List (Text × S3Operation × Text × Text)) :
    (service computes baseUrl).Assertion State :=
  .ofWorld (Working computes bucket started id task uploaded grants) working_of_moves

/-- What a step that returned has achieved; a failure leaves the invariant. -/
def settled {Error α : Type} (computes : Text → Text → List UInt8 → List UInt8 → Prop)
    (baseUrl bucket : Text) (started : List (Text × JobTask))
    (achieved : α → (service computes baseUrl).Assertion State) :
    Except Error α → (service computes baseUrl).Assertion State
  | .ok value => achieved value
  | .error _ => accounts computes baseUrl bucket started

/-- A document that was written for the task.  The last address was granted last. -/
def Described (computes : Text → Text → List UInt8 → List UInt8 → Prop) (bucket : Text)
    (started : List (Text × JobTask)) (task : JobTask) (doc : Json) (state : ServiceState) :
    Prop :=
  ∃ id logLevel timeoutSecs inputUrl resultsUrl logsUrl,
    doc = document id task logLevel timeoutSecs inputUrl resultsUrl logsUrl ∧
      Working computes bucket started id task true
        [(logsUrl, .putObject, bucket, logsKey id),
          (resultsUrl, .putObject, bucket, resultsKey id),
          (inputUrl, .getObject, bucket, inputKey id)] state

theorem described_of_moves {task : JobTask} {doc : Json} {state next : ServiceState}
    (moved : Moves computes state next)
    (described : Described computes bucket started task doc state) :
    Described computes bucket started task doc next := by
  obtain ⟨id, level, timeout, input, results, logs, equal, holds⟩ := described
  exact ⟨id, level, timeout, input, results, logs, equal, working_of_moves moved holds⟩

def described (computes : Text → Text → List UInt8 → List UInt8 → Prop)
    (baseUrl bucket : Text) (started : List (Text × JobTask)) (task : JobTask) (doc : Json) :
    (service computes baseUrl).Assertion State :=
  .ofWorld (Described computes bucket started task doc) described_of_moves

theorem secures_presignedUrl {config : S3Config} {id key : Text} {task : JobTask}
    {grants : List (Text × S3Operation × Text × Text)} {operation : S3Operation}
    {expiration : Nat} :
    Secures (working computes baseUrl bucket started id task true grants).left
      (presignedUrl config bucket key operation expiration)
      fun result => (settled computes baseUrl bucket started (fun url =>
        working computes baseUrl bucket started id task true
          ((url, operation, bucket, key) :: grants)) result).left := by
  have answers : ∀ client state (answer : Except PresignError Text) next,
      (working computes baseUrl bucket started id task true grants).holds client state →
        (service computes baseUrl).left.serves state
          (.presign config bucket key operation expiration) answer next →
          (settled computes baseUrl bucket started (fun url => (working computes baseUrl bucket
            started id task true ((url, operation, bucket, key) :: grants) :
              (service computes baseUrl).Assertion Client)) answer).left.holds client next := by
    intro client state answer next holds served
    cases answer with
    | ok url =>
        obtain ⟨rfl, free⟩ := served
        exact Working.grant holds free
    | error error =>
        obtain rfl : next = state := served
        exact Working.accounts holds
  refine secures_question_bind _ answers fun presigned => ?_
  cases operation with
  | getObject | putObject =>
      refine secures_ofExcept fun client state holds => ?_
      cases presigned with
      | ok url => exact holds
      | error error => exact holds

/-- The description of a job names what was stored and granted for it. -/
theorem secures_describeJob {codec : Codec} {backend : Text} {programId : ProgramId}
    {timeoutSecs : Nat} {logLevel : LogLevel} {payload : Json} :
    Secures ((accounts computes baseUrl bucket started).among
        fun client => client.s3Bucket.getD [] = bucket).left
      (describeJob codec backend programId timeoutSecs logLevel payload none)
      fun result => (settled computes baseUrl bucket started
        (described computes baseUrl bucket started
          ⟨backend, programId, Text.utf8 (codec.json.dump payload)⟩) result).left := by
  refine secures_self_bind fun client => ?_
  split
  · exact secures_throw fun _ _ holds => holds.2.2
  · exact secures_pending
  rename_i config place configured isPlace
  refine secures_of_fact (place = bucket) ?_ fun same => ?_
  · rintro current state ⟨rfl, isBucket, -⟩
    rw [isPlace] at isBucket
    exact isBucket
  subst same
  let task : JobTask := ⟨backend, programId, Text.utf8 (codec.json.dump payload)⟩
  refine secures_question_bind
    (fun id => (working computes baseUrl place started id task false []).left) ?_ fun id => ?_
  · rintro current state id next ⟨-, -, holds⟩ ⟨unused, rfl⟩
    exact working_of_unused holds unused
  refine secures_question_bind
    (fun uploaded : Except String Unit => (settled computes baseUrl place started
      (fun _ => working computes baseUrl place started id task true []) uploaded).left) ?_
    fun uploaded => ?_
  · intro current state uploaded next holds served
    cases uploaded with
    | ok done =>
        obtain rfl : next = _ := served
        exact Working.put holds
    | error message =>
        rcases served with rfl | rfl
        · exact Working.accounts holds
        · exact (Working.put holds).accounts
  cases uploaded with
  | error message =>
      exact secures_ofExcept_bind (fun _ equal => nomatch equal) fun _ _ _ _ holds => holds
  | ok done =>
  refine secures_ofExcept_bind (fun _ _ => ?_) fun _ equal => nomatch equal
  refine Secures.bind secures_presignedUrl (fun inputUrl => ?_) fun _ _ _ holds => holds
  refine Secures.bind secures_presignedUrl (fun resultsUrl => ?_) fun _ _ _ holds => holds
  refine Secures.bind secures_presignedUrl (fun logsUrl => ?_) fun _ _ _ holds => holds
  refine secures_pure fun current state holds => ?_
  exact ⟨id, logLevel, timeoutSecs, inputUrl, resultsUrl, logsUrl, rfl, holds⟩

/-- Whatever becomes of the request, it submits nothing but the document. -/
theorem secures_send {codec : Codec} {fuel : Nat} {request : HttpRequest} {doc : Json}
    {task : JobTask} (submits : request.body = some doc) :
    Secures (described computes baseUrl bucket started task doc).left
      (send codec fuel request)
      fun _ => (described computes baseUrl bucket started task doc).left := by
  refine secures_of_emits described_of_moves staysWithin_send.emits ?_
  rintro ⟨action, answer⟩ state next sends served holds
  cases action with
  | instant | postForm | overtake =>
      obtain rfl : next = state := served
      exact holds
  | newUuid | putObject | presign => exact sends.elim
  | send sent =>
      obtain ⟨id, level, timeout, inputUrl, resultsUrl, logsUrl, rfl, working⟩ := holds
      have isSent : sent = { request with authorization := sent.authorization } := sends
      have body : sent.body = request.body := by
        rw [isSent]
      refine ⟨id, level, timeout, inputUrl, resultsUrl, logsUrl, rfl,
        working.receive served (body.trans submits) (fun name named => ?_) ?_⟩
      · cases named
        rfl
      · obtain ⟨logs, others⟩ := List.forall_mem_cons.mp working.granted
        obtain ⟨results, others⟩ := List.forall_mem_cons.mp others
        obtain ⟨input, -⟩ := List.forall_mem_cons.mp others
        exact describes_document input results logs

/-- A task is handed over under the identifier that its files have. -/
theorem secures_runJob {codec : Codec} {fuel : Nat} {doc : Json} {task : JobTask} :
    Secures (described computes baseUrl bucket started task doc).left (runJob codec fuel doc)
      fun result => (settled computes baseUrl bucket started
        (fun id => accounts computes baseUrl bucket ((id, task) :: started)) result).left := by
  have failing : ∀ (client : Client) state,
      (described computes baseUrl bucket started task doc :
          (service computes baseUrl).Assertion Client).holds client state →
        Accounts computes bucket started state := by
    rintro client state ⟨id, level, timeout, input, results, logs, -, working⟩
    exact working.accounts
  refine secures_self_bind fun client => ?_
  refine Secures.bind ((secures_send rfl).mono (fun _ _ holds => holds.2) fun _ _ _ holds => holds)
    (fun outcome => ?_) fun _ => failing
  split
  · rename_i response
    split
    · split
      · rename_i id named
        refine secures_pure fun current state holds => ?_
        obtain ⟨own, level, timeout, input, results, logs, rfl, working⟩ := holds
        obtain rfl : own = id := Option.some.inj named
        exact working.handOver
      · exact secures_pending
    · exact secures_throw failing
  · exact secures_throw failing

theorem secures_runPrimitive {codec : Codec} {fuel : Nat} {backend : Text}
    {programId : ProgramId} {timeoutSecs : Nat} {logLevel : LogLevel} {payload : Json} :
    Secures ((accounts computes baseUrl bucket started).among
        fun client => client.s3Bucket.getD [] = bucket).left
      (runPrimitive codec fuel backend programId timeoutSecs logLevel payload none)
      fun result => (settled computes baseUrl bucket started (fun id =>
        accounts computes baseUrl bucket
          ((id, ⟨backend, programId, Text.utf8 (codec.json.dump payload)⟩) :: started))
            result).left :=
  secures_describeJob.bind (fun _ => secures_runJob) fun _ _ _ holds => holds

end Client

end QuantumSystem

namespace IBMQuantumSystem

open QuantumSystem Method Server ServiceState Client

variable {computes : Text → Text → List UInt8 → List UInt8 → Prop} {baseUrl bucket : Text}
variable {started : List (Text × JobTask)}

/-- The task that a payload asks for. -/
def taskOf (json : JsonLibrary) (backendName : Text) (payload : Payload) : Option JobTask :=
  match readPayload json payload with
  | .ok (jobInput, programId) => some ⟨backendName, programId, Text.utf8 (json.dump jobInput)⟩
  | .error _ => none

/-- A call of the client secures what its method does. -/
theorem secures_callClient {α : Type} {method : ClientMethod α}
    (pre : (service computes baseUrl).Assertion IBMQuantumSystem)
    (achieved : α → ServiceState → Prop)
    (stable : ∀ {value state next}, Moves computes state next → achieved value state →
      achieved value next)
    (secures : ∀ system : IBMQuantumSystem, Secures (pre.onPart system.withClient).left method
      fun result => (settled computes baseUrl bucket started
        (fun value => .ofWorld (achieved value) stable) result).left) :
    Secures pre.left (callClient method) fun result =>
      (settled computes baseUrl bucket started
        (fun value => .ofWorld (achieved value) stable) result).left := by
  refine Secures.attempt_bind (fun result => (settled computes baseUrl bucket started
    (fun value => .ofWorld (achieved value) stable) result).left) ?_ fun outcome => ?_
  · refine Secures.zoom (fun _ => rfl) fun system => ?_
    refine (secures system).mono (fun _ _ holds => holds) fun result client state holds => ?_
    cases result with
    | ok value => exact holds
    | error error => exact holds
  · refine secures_ofExcept fun system state holds => ?_
    cases outcome with
    | ok value => exact holds
    | error error => exact holds

/-- The task of the payload was started under an identifier. -/
def StartedAs (computes : Text → Text → List UInt8 → List UInt8 → Prop) (bucket : Text)
    (started : List (Text × JobTask)) (json : JsonLibrary) (name : Text) (payload : Payload)
    (id : Text) (state : ServiceState) : Prop :=
  ∃ task, taskOf json name payload = some task ∧
    Accounts computes bucket ((id, task) :: started) state

theorem startedAs_of_moves {json : JsonLibrary} {name : Text} {payload : Payload} {id : Text}
    {state next : ServiceState} (moved : Moves computes state next)
    (holds : StartedAs computes bucket started json name payload id state) :
    StartedAs computes bucket started json name payload id next := by
  obtain ⟨task, isTask, accounts⟩ := holds
  exact ⟨task, isTask, accounts_of_moves moved accounts⟩

/-- Starting a task hands over the task that the payload asks for. -/
theorem secures_taskStart {codec : Codec} {fuel : Nat} {payload : Payload} {name : Text} :
    Secures ((accounts computes baseUrl bucket started).among fun system =>
        system.backendName = name ∧ system.apiClient.s3Bucket.getD [] = bucket).left
      (taskStart codec fuel payload)
      fun result => (settled computes baseUrl bucket started (fun id => .ofWorld
        (StartedAs computes bucket started codec.json name payload id) startedAs_of_moves)
          result).left := by
  refine secures_self_bind fun system => ?_
  refine secures_ofExcept_bind (fun timeoutSecs _ => ?_) fun _ _ _ _ holds => holds.2.2
  refine secures_ofExcept_bind (fun parsed read => ?_) fun _ _ _ _ holds => holds.2.2
  obtain ⟨jobInput, programId⟩ := parsed
  refine secures_of_fact (system.backendName = name) ?_ fun isName => ?_
  · rintro current state ⟨rfl, ⟨isName, -⟩, -⟩
    exact isName
  subst isName
  refine Secures.mono (secures_callClient ((accounts computes baseUrl bucket started).among
    fun system => system.apiClient.s3Bucket.getD [] = bucket)
      (StartedAs computes bucket started codec.json system.backendName payload)
        startedAs_of_moves fun current => ?_) (fun _ _ holds => ⟨holds.2.1.2, holds.2.2⟩)
          fun _ _ _ holds => holds
  refine secures_runPrimitive.mono (fun _ _ holds => holds) fun result client state holds => ?_
  cases result with
  | error error => exact holds
  | ok id =>
      refine ⟨_, ?_, holds⟩
      rw [taskOf, read]

end IBMQuantumSystem
