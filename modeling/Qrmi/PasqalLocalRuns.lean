import Qrmi.PasqalLocal

/-!
# The credentials and the session of a run

A credential of munge is sent once at most, and a session only when it is the one that the
resource holds.
-/

open Interaction PasqalLocalApi

namespace PasqalLocal

open Method

def grantedCredential : LocalEvent → Option Text
  | ⟨.encode, .ok token⟩ => some token
  | _ => none

def sentCredential : LocalEvent → Option Text
  | ⟨.send request, _⟩ => request.mungeCred
  | _ => none

/-- The session was given to the resource, or was read from the variable. -/
def Holds (resource : PasqalLocal) (session : Text) (trace : List LocalEvent) : Prop :=
  resource.acquisitionToken = some session ∨
    (resource.acquisitionToken = none ∧
      (⟨.readVariable resource.tokenVariable, some session⟩ : LocalEvent) ∈ trace)

/-- Only the question for accessibility has no credential, credentials are sent in the order
in which they were made and once at most, and a session that is sent is held. -/
structure Sound (resource : PasqalLocal) (trace : List LocalEvent) : Prop where
  credited : ∀ request reply, (⟨.send request, reply⟩ : LocalEvent) ∈ trace →
    request.mungeCred = none → request = accessibleRequest resource.baseUrl
  fresh : (trace.filterMap sentCredential).Sublist (trace.filterMap grantedCredential)
  inSession : ∀ request reply session, (⟨.send request, reply⟩ : LocalEvent) ∈ trace →
    request.wardenSession = some session → resource.Holds session trace

section Traces

variable {resource : PasqalLocal} {earlier later : List LocalEvent}

theorem Holds.mono {session : Text} (holds : resource.Holds session earlier)
    (within : earlier ⊆ later) : resource.Holds session later :=
  holds.imp id fun ⟨unset, member⟩ => ⟨unset, within member⟩

theorem Sound.append (first : Sound resource earlier) (second : Sound resource later) :
    Sound resource (earlier ++ later) where
  credited request reply member uncredited :=
    (List.mem_append.mp member).elim (fun inFirst => first.credited _ _ inFirst uncredited)
      fun inSecond => second.credited _ _ inSecond uncredited
  fresh := by
    rw [List.filterMap_append, List.filterMap_append]
    exact first.fresh.append second.fresh
  inSession request reply session member isSession := by
    rcases List.mem_append.mp member with inFirst | inSecond
    · exact (first.inSession _ _ _ inFirst isSession).mono (List.subset_append_left _ _)
    · exact (second.inSession _ _ _ inSecond isSession).mono (List.subset_append_right _ _)

/-- A request with the credential that was just made. -/
theorem Sound.exchange {request : LocalRequest} {token : Text} {reply : HttpReply}
    (sound : Sound resource earlier) (credential : request.mungeCred = some token)
    (session : ∀ session, request.wardenSession = some session →
      resource.Holds session earlier) :
    Sound resource (earlier ++ [⟨.encode, .ok token⟩, ⟨.send request, reply⟩]) where
  credited other _ member uncredited := by
    rcases List.mem_append.mp member with before | now
    · exact sound.credited _ _ before uncredited
    · rcases List.mem_cons.mp now with equal | last
      · cases equal
      · cases List.mem_singleton.mp last
        rw [credential] at uncredited
        cases uncredited
  fresh := by
    rw [List.filterMap_append, List.filterMap_append]
    refine sound.fresh.append ?_
    have sent : ([⟨.encode, .ok token⟩, ⟨.send request, reply⟩] : List LocalEvent).filterMap
        sentCredential = [token] :=
      (List.filterMap_cons_none rfl).trans (List.filterMap_cons_some credential)
    rw [sent]
    exact List.Sublist.refl _
  inSession other _ own member isSession := by
    rcases List.mem_append.mp member with before | now
    · exact (sound.inSession _ _ _ before isSession).mono (List.subset_append_left _ _)
    · rcases List.mem_cons.mp now with equal | last
      · cases equal
      · cases List.mem_singleton.mp last
        exact (session own isSession).mono (List.subset_append_left _ _)

end Traces

section Methods

variable {α β : Type} {resource : PasqalLocal} {read : Text → Except String α}
variable {trace : List LocalEvent}

/-- Every execution is sound. -/
def Keeps (resource : PasqalLocal) (method : LocalMethod α) : Prop :=
  ∀ before trace result after, method.Executes before trace result after →
    Sound resource trace

theorem Keeps.bind {method : LocalMethod α} {next : α → LocalMethod β}
    (first : Keeps resource method) (second : ∀ value, Keeps resource (next value)) :
    Keeps resource (method >>= next) := by
  intro before trace result after executes
  rcases executes_bind_iff.mp executes with ⟨error, rfl, failed⟩ |
    ⟨earlier, later, value, middle, rfl, ran, continued⟩
  · exact first _ _ _ _ failed
  · exact (first _ _ _ _ ran).append (second value _ _ _ _ continued)

variable (library : Library) (resource)

end Methods

inductive Operation
  | isAccessible
  | acquire
  | release (id : Text)
  | taskStart (payload : Payload)
  | taskStop (taskId : Text)
  | taskStatus (taskId : Text)
  | taskResult (taskId : Text)
  | taskLogs (taskId : Text)
  | target

/-- An operation, without its value. -/
def Operation.run (library : Library) (resource : PasqalLocal) : Operation → LocalMethod Unit
  | isAccessible => do let _ ← resource.isAccessible library
  | acquire => do let _ ← resource.acquire library
  | release id => resource.release library id
  | taskStart payload => do let _ ← resource.taskStart library payload
  | taskStop taskId => resource.taskStop library taskId
  | taskStatus taskId => do let _ ← resource.taskStatus library taskId
  | taskResult taskId => do let _ ← resource.taskResult library taskId
  | taskLogs taskId => do let _ ← resource.taskLogs library taskId
  | target => do let _ ← resource.target library

/-- A call of an operation. -/
structure Call where
  operation : Operation
  trace : List LocalEvent
  result : Except (Halt QrmiError) Unit

def Call.Step (library : Library) (resource : PasqalLocal) (before : Unit) (call : Call)
    (after : Unit) : Prop :=
  (call.operation.run library resource).Executes before call.trace call.result after

section Runs

variable {library : Library} {resource : PasqalLocal}

end Runs

namespace StartedSequence

def body : Text :=
  "\x7b\"id\":7,\"user_id\":\"u\",\"status\":\"PENDING\",\"results\":null\x7d".toList

def library : Library where
  json := JsonLibrary.ofTable []
  readJob text := if text = body then .ok ⟨7, .pending, none⟩ else .error "expected value"
  readAccessible _ := .error "expected value"
  readSession _ := .error "expected value"
  readSpecs _ := .error "expected value"
  readName _ := .error "expected value"
  readLogs _ := .error "expected value"
  headerError := "builder error"

def resource : PasqalLocal :=
  ⟨"http://qpu".toList, "FRESNEL".toList, 1000, "42".toList, some ['s']⟩

def request (credential : String) : LocalRequest :=
  jobRequest resource.baseUrl "q".toList 10 credential.toList ['s']

def created : HttpReply :=
  .ok ⟨⟨201, "Created"⟩, some "application/json".toList, .ok body⟩

def call (credential : String) : Call where
  operation := .taskStart (.pasqalCloud "q".toList 10)
  trace := [⟨.encode, .ok credential.toList⟩, ⟨.send (request credential), created⟩]
  result := .ok ()

/-- Each time with a new credential. -/
theorem history : History (Call.Step library resource) () [call "MUNGE:A:", call "MUNGE:B:"] () :=
  .cons (.ask (.ask (.done _))) (.cons (.ask (.ask (.done _))) (.nil ()))

end StartedSequence

end PasqalLocal
