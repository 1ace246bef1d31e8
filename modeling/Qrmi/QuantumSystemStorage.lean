import Qrmi.InteractionHistory
import Qrmi.QuantumSystemTasks
import Qrmi.TaskStartContract

/-!
# The bucket between the client and the service

The input and the results of a job pass through a bucket.  The client stores the input and
presigns addresses, the service loads the input and stores what the job returns, and both
act when they like.  Jobs of other clients use the same bucket under identifiers of their
own.
-/

open Interaction

namespace QuantumSystem

/-- The keys of the files of a job. -/
def inputKey (id : Text) : Text :=
  "input_".toList ++ id ++ ".json".toList

def resultsKey (id : Text) : Text :=
  "results_".toList ++ id ++ ".json".toList

def logsKey (id : Text) : Text :=
  "logs_".toList ++ id ++ ".json".toList

theorem inputKey_injective {first second : Text} (same : inputKey first = inputKey second) :
    first = second :=
  List.append_cancel_left (List.append_cancel_right same)

theorem resultsKey_injective {first second : Text}
    (same : resultsKey first = resultsKey second) : first = second :=
  List.append_cancel_left (List.append_cancel_right same)

theorem inputKey_ne_resultsKey (first second : Text) : inputKey first ≠ resultsKey second := by
  rintro ⟨⟩

theorem logsKey_ne_inputKey (first second : Text) : logsKey first ≠ inputKey second := by
  rintro ⟨⟩

theorem logsKey_ne_resultsKey (first second : Text) : logsKey first ≠ resultsKey second := by
  rintro ⟨⟩

/-- The keys of the files of a job are its own. -/
def IsKeyOf (id key : Text) : Prop :=
  key = inputKey id ∨ key = resultsKey id ∨ key = logsKey id

/-- What a job is to do. -/
structure JobTask where
  backend : Text
  program : ProgramId
  input : List UInt8

/-- The objects by bucket and key, what an address allows, the jobs by identifier with the
documents they were submitted with, the inputs that jobs were started with, and the
identifiers that the client has drawn. -/
structure ServiceState where
  objects : Text × Text → Option (List UInt8)
  granted : Text → Option (S3Operation × Text × Text)
  jobs : Text → Option Json
  loaded : Text → Option (Json × List UInt8)
  drawn : Set Text

namespace ServiceState

/-- Store an object. -/
def store (place : Text × Text) (content : List UInt8) (state : ServiceState) : ServiceState :=
  { state with objects := Function.update state.objects place (some content) }

/-- Allow an operation to the holders of an address. -/
def grant (url : Text) (operation : S3Operation) (bucket key : Text) (state : ServiceState) :
    ServiceState :=
  { state with granted := Function.update state.granted url (some (operation, bucket, key)) }

/-- The address of a file in the document of a job. -/
def storageUrl (document : Json) (file : String) : Option Text :=
  (((document.get "storage").get file).get "presigned_url").asString

/-- Nothing exists under the identifier. -/
structure Unused (state : ServiceState) (id : Text) : Prop where
  drawn : id ∉ state.drawn
  objects : ∀ bucket key, IsKeyOf id key → state.objects (bucket, key) = none
  jobs : state.jobs id = none
  loaded : state.loaded id = none

/-- What other clients and their jobs leave alone. -/
structure Spares (state next : ServiceState) : Prop where
  drawn : next.drawn = state.drawn
  objects : ∀ id ∈ state.drawn, ∀ bucket key, IsKeyOf id key →
    next.objects (bucket, key) = state.objects (bucket, key)
  jobs : ∀ id ∈ state.drawn, next.jobs id = state.jobs id
  loaded : ∀ id ∈ state.drawn, next.loaded id = state.loaded id
  granted : ∀ url permission, state.granted url = some permission →
    next.granted url = some permission

/-- What happens while the client does not ask.  A job is started with the object at the
address of its input, and later it stores results that its program has computed from that
object on its backend.  `computes` relates backend, program and input to the results. -/
inductive Moves (computes : Text → Text → List UInt8 → List UInt8 → Prop) :
    ServiceState → ServiceState → Prop
  | load {state : ServiceState} {id url bucket key : Text} {document : Json}
      {input : List UInt8} (own : id ∈ state.drawn) (job : state.jobs id = some document)
      (address : storageUrl document "input" = some url)
      (allowed : state.granted url = some (.getObject, bucket, key))
      (present : state.objects (bucket, key) = some input) :
      Moves computes state
        { state with loaded := Function.update state.loaded id (some (document, input)) }
  | finish {state : ServiceState} {id url bucket key backend program : Text} {document : Json}
      {input results : List UInt8} (own : id ∈ state.drawn)
      (job : state.loaded id = some (document, input))
      (place : (document.get "backend").asString = some backend)
      (runs : (document.get "program_id").asString = some program)
      (computed : computes backend program input results)
      (address : storageUrl document "results" = some url)
      (allowed : state.granted url = some (.putObject, bucket, key)) :
      Moves computes state (state.store (bucket, key) results)
  | log {state : ServiceState} {id url bucket key : Text} {document : Json}
      {input logs : List UInt8} (own : id ∈ state.drawn)
      (job : state.loaded id = some (document, input))
      (address : storageUrl document "logs" = some url)
      (allowed : state.granted url = some (.putObject, bucket, key)) :
      Moves computes state (state.store (bucket, key) logs)
  | forget {state : ServiceState} (id : Text) :
      Moves computes state { state with jobs := Function.update state.jobs id none }
  | others {state next : ServiceState} (spares : Spares state next) :
      Moves computes state next

/-- A request is ignored, or it creates the job that it names. -/
inductive Receives (baseUrl : Text) (request : HttpRequest) :
    ServiceState → ServiceState → Prop
  | ignores (state : ServiceState) : Receives baseUrl request state state
  | creates {state : ServiceState} {id : Text} {document : Json}
      (names : JobStore.submittedId baseUrl request = some id)
      (submits : request.body = some document) (new : state.jobs id = none) :
      Receives baseUrl request state
        { state with jobs := Function.update state.jobs id (some document) }

/-- The bucket and the service.  Whatever it replies to a request, a submission may have
created its job, and an object may have been stored although the client is told
otherwise. -/
def service (computes : Text → Text → List UInt8 → List UInt8 → Prop) (baseUrl : Text) :
    Server TaskQuery TaskQuery.Answer ServiceState where
  moves := Moves computes
  serves state query answer next :=
    match query, answer with
    | .inl .newUuid, id =>
        state.Unused id ∧ next = { state with drawn := insert id state.drawn }
    | .inl (.putObject _ bucket key body), .ok () =>
        next = state.store (bucket, key) (Text.utf8 body)
    | .inl (.putObject _ bucket key body), .error _ =>
        next = state ∨ next = state.store (bucket, key) (Text.utf8 body)
    | .inl (.presign _ bucket key operation _), .ok url =>
        next = state.grant url operation bucket key ∧
          (state.granted url = none ∨ state.granted url = some (operation, bucket, key))
    | .inl (.send request), _ => Receives baseUrl request state next
    | .inr request, .ok pieces =>
        next = state ∧ ∀ parts : List (List UInt8), pieces = parts.map Except.ok →
          state.objects (request.bucket, request.key) = some parts.flatten
    | _, _ => next = state

/-- The document of a job, as the client describes it. -/
def document (id : Text) (task : JobTask) (logLevel : LogLevel) (timeoutSecs : Nat)
    (inputUrl resultsUrl logsUrl : Text) : Json :=
  .object
    [("id".toList, .string id), ("backend".toList, .string task.backend),
      Json.stringMember "program_id" task.program.display,
      Json.stringMember "log_level" logLevel.display,
      Json.unsignedMember "timeout_secs" timeoutSecs,
      ("storage".toList, .object
        [Client.storageEntry "input" inputUrl, Client.storageEntry "results" resultsUrl,
          Client.storageEntry "logs" logsUrl])]

/-- The document names the places of the job by addresses that are granted. -/
structure Describes (granted : Text → Option (S3Operation × Text × Text)) (id : Text)
    (task : JobTask) (doc : Json) : Prop where
  backend : (doc.get "backend").asString = some task.backend
  program : (doc.get "program_id").asString = some task.program.display.toList
  input : ∀ url, storageUrl doc "input" = some url →
    ∃ bucket, granted url = some (.getObject, bucket, inputKey id)
  results : ∀ url, storageUrl doc "results" = some url →
    ∃ bucket, granted url = some (.putObject, bucket, resultsKey id)
  logs : ∀ url, storageUrl doc "logs" = some url →
    ∃ bucket, granted url = some (.putObject, bucket, logsKey id)

theorem describes_document {granted : Text → Option (S3Operation × Text × Text)} {id : Text}
    {task : JobTask} {logLevel : LogLevel} {timeoutSecs : Nat}
    {inputUrl resultsUrl logsUrl bucket : Text}
    (input : granted inputUrl = some (.getObject, bucket, inputKey id))
    (results : granted resultsUrl = some (.putObject, bucket, resultsKey id))
    (logs : granted logsUrl = some (.putObject, bucket, logsKey id)) :
    Describes granted id task
      (document id task logLevel timeoutSecs inputUrl resultsUrl logsUrl) where
  backend := rfl
  program := rfl
  input url address := by
    obtain rfl : inputUrl = url := Option.some.inj address
    exact ⟨bucket, input⟩
  results url address := by
    obtain rfl : resultsUrl = url := Option.some.inj address
    exact ⟨bucket, results⟩
  logs url address := by
    obtain rfl : logsUrl = url := Option.some.inj address
    exact ⟨bucket, logs⟩

/-- A job does what it was submitted for. -/
structure Sound (computes : Text → Text → List UInt8 → List UInt8 → Prop)
    (state : ServiceState) (id : Text) (task : JobTask) : Prop where
  drawn : id ∈ state.drawn
  input : ∀ bucket content, state.objects (bucket, inputKey id) = some content →
    content = task.input
  job : ∀ doc, state.jobs id = some doc → Describes state.granted id task doc
  loaded : ∀ doc content, state.loaded id = some (doc, content) →
    Describes state.granted id task doc ∧ content = task.input
  results : ∀ bucket content, state.objects (bucket, resultsKey id) = some content →
    computes task.backend task.program.display.toList task.input content

section Sound

variable {computes : Text → Text → List UInt8 → List UInt8 → Prop}
variable {state next : ServiceState} {id : Text} {task : JobTask} {doc : Json}

/-- What an address allows is not taken back. -/
theorem Describes.extend {granted more : Text → Option (S3Operation × Text × Text)}
    (describes : Describes granted id task doc)
    (keeps : ∀ url permission, granted url = some permission →
      more url = some permission) : Describes more id task doc where
  backend := describes.backend
  program := describes.program
  input url address := (describes.input url address).imp fun _ => keeps _ _
  results url address := (describes.results url address).imp fun _ => keeps _ _
  logs url address := (describes.logs url address).imp fun _ => keeps _ _

theorem sound_of_unused (unused : state.Unused id) :
    Sound computes { state with drawn := insert id state.drawn } id task where
  drawn := Set.mem_insert id state.drawn
  input bucket content present := by
    have absent := unused.objects bucket _ (.inl rfl)
    rw [absent] at present
    cases present
  job doc present := by
    have absent : state.jobs id = some doc := present
    rw [unused.jobs] at absent
    cases absent
  loaded doc content present := by
    have absent : state.loaded id = some (doc, content) := present
    rw [unused.loaded] at absent
    cases absent
  results bucket content present := by
    have absent := unused.objects bucket _ (.inr (.inl rfl))
    rw [absent] at present
    cases present

theorem Sound.draw (sound : Sound computes state id task) (other : Text) :
    Sound computes { state with drawn := insert other state.drawn } id task where
  drawn := Set.mem_insert_of_mem other sound.drawn
  input := sound.input
  job := sound.job
  loaded := sound.loaded
  results := sound.results

theorem Sound.spare (sound : Sound computes state id task) (spares : Spares state next) :
    Sound computes next id task where
  drawn := spares.drawn ▸ sound.drawn
  input bucket content present := by
    rw [spares.objects id sound.drawn bucket _ (.inl rfl)] at present
    exact sound.input bucket content present
  job doc present := by
    rw [spares.jobs id sound.drawn] at present
    exact (sound.job doc present).extend spares.granted
  loaded doc content present := by
    rw [spares.loaded id sound.drawn] at present
    obtain ⟨describes, equal⟩ := sound.loaded doc content present
    exact ⟨describes.extend spares.granted, equal⟩
  results bucket content present := by
    rw [spares.objects id sound.drawn bucket _ (.inr (.inl rfl))] at present
    exact sound.results bucket content present

theorem Sound.forget (sound : Sound computes state id task) (other : Text) :
    Sound computes { state with jobs := Function.update state.jobs other none } id task where
  drawn := sound.drawn
  input := sound.input
  job doc present := by
    have kept : Function.update state.jobs other none id = some doc := present
    by_cases same : id = other
    · subst same
      rw [Function.update_self] at kept
      cases kept
    · rw [Function.update_of_ne same] at kept
      exact sound.job doc kept
  loaded := sound.loaded
  results := sound.results

/-- An object is stored that is what it should be if it belongs to the job. -/
theorem Sound.store (sound : Sound computes state id task) {bucket key : Text}
    {content : List UInt8} (input : key = inputKey id → content = task.input)
    (results : key = resultsKey id →
      computes task.backend task.program.display.toList task.input content) :
    Sound computes (state.store (bucket, key) content) id task where
  drawn := sound.drawn
  input place bytes present := by
    have stored : Function.update state.objects (bucket, key) (some content)
      (place, inputKey id) = some bytes := present
    by_cases same : (place, inputKey id) = (bucket, key)
    · rw [same, Function.update_self] at stored
      cases stored
      exact input (Prod.mk.inj same).2.symm
    · rw [Function.update_of_ne same] at stored
      exact sound.input place bytes stored
  job := sound.job
  loaded := sound.loaded
  results place bytes present := by
    have stored : Function.update state.objects (bucket, key) (some content)
      (place, resultsKey id) = some bytes := present
    by_cases same : (place, resultsKey id) = (bucket, key)
    · rw [same, Function.update_self] at stored
      cases stored
      exact results (Prod.mk.inj same).2.symm
    · rw [Function.update_of_ne same] at stored
      exact sound.results place bytes stored

theorem granted_grant {url other : Text} {operation : S3Operation} {bucket key : Text}
    {permission : S3Operation × Text × Text}
    (free : state.granted url = none ∨ state.granted url = some (operation, bucket, key))
    (present : state.granted other = some permission) :
    (state.grant url operation bucket key).granted other = some permission := by
  change Function.update state.granted url _ other = _
  by_cases same : other = url
  · subst same
    rw [Function.update_self]
    rcases free with absent | already
    · rw [absent] at present
      cases present
    · rw [← already, present]
  · rw [Function.update_of_ne same, present]

theorem Sound.grant (sound : Sound computes state id task) {url : Text}
    {operation : S3Operation} {bucket key : Text}
    (free : state.granted url = none ∨ state.granted url = some (operation, bucket, key)) :
    Sound computes (state.grant url operation bucket key) id task where
  drawn := sound.drawn
  input := sound.input
  job doc present := (sound.job doc present).extend fun _ _ => granted_grant free
  loaded doc content present :=
    ⟨(sound.loaded doc content present).1.extend fun _ _ => granted_grant free,
      (sound.loaded doc content present).2⟩
  results := sound.results

/-- A job is created with a document that describes it, if it is this one. -/
theorem Sound.create (sound : Sound computes state id task) {other : Text}
    (describes : other = id → Describes state.granted id task doc) :
    Sound computes { state with jobs := Function.update state.jobs other (some doc) } id
      task where
  drawn := sound.drawn
  input := sound.input
  job document present := by
    have kept : Function.update state.jobs other (some doc) id = some document := present
    by_cases same : id = other
    · subst same
      rw [Function.update_self] at kept
      cases kept
      exact describes rfl
    · rw [Function.update_of_ne same] at kept
      exact sound.job document kept
  loaded := sound.loaded
  results := sound.results

end Sound

end ServiceState

end QuantumSystem
