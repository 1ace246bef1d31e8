import Qrmi.InteractionServer

/-!
# Assertions about a moving server

What a method has learnt about a server may be outdated at once, because the server
moves by itself.  An assertion that survives every such move may be carried from one
question of a method to the next.  This file collects the rules for methods that lead
from one such assertion to another.
-/

namespace Interaction

namespace Method

variable {Query : Type} {Answer : Query → Type} {State Part Error Failure α β : Type}

/-- The events of the method are allowed, and it keeps what is read from its state. -/
def StaysWithin {Kept : Type} (allowed : Event Answer → Prop) (read : State → Kept)
    (method : Method Query Answer State Error α) : Prop :=
  method.Relates fun before trace after =>
    (∀ event ∈ trace, allowed event) ∧ read after = read before

section StaysWithin

variable {Kept : Type} {allowed : Event Answer → Prop} {read : State → Kept}

theorem composable_within : Composable fun before trace after =>
    (∀ event ∈ trace, allowed event) ∧ read after = read before where
  refl _ := ⟨List.forall_mem_nil _, rfl⟩
  trans first second :=
    ⟨List.forall_mem_append.mpr ⟨first.1, second.1⟩, second.2.trans first.2⟩

theorem staysWithin_pure (value : α) :
    StaysWithin allowed read (pure value : Method Query Answer State Error α) :=
  composable_within.relates_pure value

theorem staysWithin_throw (error : Error) :
    StaysWithin allowed read (throw error : Method Query Answer State Error α) :=
  composable_within.relates_throw error

theorem staysWithin_self :
    StaysWithin allowed read (self : Method Query Answer State Error State) :=
  composable_within.relates_self

theorem staysWithin_ofExcept (outcome : Except Error α) :
    StaysWithin allowed read (ofExcept outcome : Method Query Answer State Error α) :=
  composable_within.relates_ofExcept outcome

theorem staysWithin_pending :
    StaysWithin allowed read (fun _ => .pending : Method Query Answer State Error α) :=
  relates_pending

theorem staysWithin_lift {program : Program Query Answer α} (emits : program.Emits allowed) :
    StaysWithin allowed read (lift program : Method Query Answer State Error α) :=
  relates_lift fun _ trace value runs => ⟨emits trace value runs, rfl⟩

/-- Nothing is read from the state of a part. -/
theorem staysWithin_of_emits {method : Method Query Answer State Error α}
    (emits : method.Emits allowed) : StaysWithin allowed (fun _ => ()) method :=
  fun _ _ _ _ executes => ⟨emits.event_of_executes executes, rfl⟩

theorem StaysWithin.bind {method : Method Query Answer State Error α}
    {next : α → Method Query Answer State Error β} (first : StaysWithin allowed read method)
    (second : ∀ value, StaysWithin allowed read (next value)) :
    StaysWithin allowed read (method >>= next) :=
  composable_within.relates_bind first second

theorem StaysWithin.attempt {method : Method Query Answer State Error α}
    (stays : StaysWithin allowed read method) :
    StaysWithin allowed read (method.attempt : Method Query Answer State Failure _) := by
  intro before trace result after executes
  obtain ⟨outcome, -, ran⟩ := executes_attempt_iff.mp executes
  exact stays before trace outcome after ran

theorem StaysWithin.zoom {Known : Type} {get : State → Part} {write : State → Part → State}
    {readPart : Part → Known} {method : Method Query Answer Part Error α}
    (stays : StaysWithin allowed readPart method)
    (kept : ∀ state part, readPart part = readPart (get state) →
      read (write state part) = read state) :
    StaysWithin allowed read (zoom get write method) := by
  intro before trace result after executes
  obtain ⟨part, rfl, ran⟩ := executes_zoom_iff.mp executes
  obtain ⟨each, same⟩ := stays _ _ _ _ ran
  exact ⟨each, kept before part same⟩

theorem StaysWithin.emits {method : Method Query Answer State Error α}
    (stays : StaysWithin allowed read method) : method.Emits allowed :=
  fun before trace outcome runs => (stays before trace outcome.1 outcome.2 runs).1

theorem StaysWithin.mono {more : Event Answer → Prop}
    {method : Method Query Answer State Error α} (stays : StaysWithin allowed read method)
    (weaken : ∀ event, allowed event → more event) : StaysWithin more read method :=
  fun before trace result after executes =>
    (stays before trace result after executes).imp_left
      fun each event member => weaken event (each event member)

end StaysWithin

end Method

namespace Server

variable {Query : Type} {Answer : Query → Type} {World State Part Error Failure α β : Type}

/-- A trace is hosted piece by piece. -/
theorem Hosts.split {server : Server Query Answer World} {start final : World}
    {visited : List World} {first second : List (Event Answer)}
    (hosts : server.Hosts start visited (first ++ second) final) :
    ∃ middle earlier later, server.Hosts start earlier first middle ∧
      server.Hosts middle later second final := by
  induction first generalizing start visited with
  | nil => exact ⟨start, [], visited, .idle (.refl start), hosts⟩
  | cons event first ih =>
      cases hosts with
      | serve drift answered rest =>
          obtain ⟨middle, earlier, later, hosted, others⟩ := ih rest
          exact ⟨middle, _, later, .serve drift answered hosted, others⟩

/-- What every move keeps holds at the end of a drift. -/
theorem Drifts.keeps {server : Server Query Answer World} {holds : World → Prop}
    {start final : World} {visited : List World} (drift : server.Drifts start visited final)
    (stable : ∀ {world next}, server.moves world next → holds world → holds next)
    (begins : holds start) : holds final := by
  induction drift with
  | refl world => exact begins
  | move moved _ ih => exact ih (stable moved begins)

/-- What every move and every answer keeps holds at the end. -/
theorem Hosts.keeps {server : Server Query Answer World} {holds : World → Prop}
    {start final : World} {visited : List World} {trace : List (Event Answer)}
    (hosts : server.Hosts start visited trace final)
    (stable : ∀ {world next}, server.moves world next → holds world → holds next)
    (serves : ∀ event ∈ trace, ∀ {world next},
      server.serves world event.1 event.2 next → holds world → holds next)
    (begins : holds start) : holds final := by
  induction hosts with
  | idle drift => exact drift.keeps stable begins
  | serve drift answered _ ih =>
      refine ih (fun event member => serves event (List.mem_cons_of_mem _ member)) ?_
      exact serves _ (List.mem_cons_self ..) answered (drift.keeps stable begins)

/-- A statement about a state of the caller and one of the server, which remains true
while the server moves by itself. -/
structure Assertion (server : Server Query Answer World) (State : Type) where
  holds : State → World → Prop
  stable : ∀ {state world next}, server.moves world next → holds state world →
    holds state next

namespace Assertion

variable {server : Server Query Answer World}

theorem kept_of_drifts (assertion : server.Assertion State) {state : State}
    {start final : World} {visited : List World}
    (drift : server.Drifts start visited final) (holds : assertion.holds state start) :
    assertion.holds state final :=
  drift.keeps assertion.stable holds

/-- An assertion of the part of the state that a method works on. -/
def onPart (assertion : server.Assertion State) (rebuild : Part → State) :
    server.Assertion Part where
  holds part world := assertion.holds (rebuild part) world
  stable moved holds := assertion.stable moved holds

/-- An assertion about the server alone. -/
def ofWorld (holds : World → Prop)
    (stable : ∀ {world next}, server.moves world next → holds world → holds next) :
    server.Assertion State where
  holds _ world := holds world
  stable := stable

/-- An assertion that is made in certain states of the caller. -/
def among (assertion : server.Assertion State) (states : State → Prop) :
    server.Assertion State where
  holds state world := states state ∧ assertion.holds state world
  stable moved holds := ⟨holds.1, assertion.stable moved holds.2⟩

end Assertion

/-- Executed where the first assertion holds, a method ends where the second one does,
whatever the server does meanwhile. -/
def Secures {server : Server Query Answer World} (pre : server.Assertion State)
    (method : Method Query Answer State Error α)
    (post : Except Error α → server.Assertion State) : Prop :=
  ∀ ⦃before after start final trace visited result⦄,
    method.Executes before trace result after → server.Hosts start visited trace final →
      pre.holds before start → (post result).holds after final

section Rules

open Method

variable {server : Server Query Answer World} {pre middle : server.Assertion State}
variable {post : Except Error β → server.Assertion State}

/-- Steps that ask nothing. -/
theorem secures_of_silent {method : Method Query Answer State Error β}
    (silent : ∀ {before trace result after}, method.Executes before trace result after →
      trace = [] ∧ ∀ world, pre.holds before world → (post result).holds after world) :
    Secures pre method post := by
  intro before after start final trace visited result executes hosts holds
  obtain ⟨rfl, kept⟩ := silent executes
  cases hosts with
  | idle drift => exact kept _ (pre.kept_of_drifts drift holds)

theorem secures_pure {value : β}
    (holds : ∀ state world, pre.holds state world → (post (.ok value)).holds state world) :
    Secures pre (pure value) post := by
  refine secures_of_silent fun executes => ?_
  obtain ⟨rfl, rfl, rfl⟩ := executes_pure_iff.mp executes
  exact ⟨rfl, holds _⟩

theorem secures_throw {error : Error}
    (holds : ∀ state world, pre.holds state world → (post (.error error)).holds state world) :
    Secures pre (Method.throw error) post := by
  refine secures_of_silent fun executes => ?_
  obtain ⟨rfl, rfl, rfl⟩ := executes_throw_iff.mp executes
  exact ⟨rfl, holds _⟩

theorem secures_ofExcept {outcome : Except Error β}
    (holds : ∀ state world, pre.holds state world → (post outcome).holds state world) :
    Secures pre (ofExcept outcome) post := by
  refine secures_of_silent fun executes => ?_
  obtain ⟨rfl, rfl, rfl⟩ := executes_ofExcept_iff.mp executes
  exact ⟨rfl, holds _⟩

/-- A method that is cut off secures anything. -/
theorem secures_pending :
    Secures pre (fun _ => .pending : Method Query Answer State Error β) post :=
  fun _ _ _ _ _ _ _ executes => absurd executes Program.not_runs_pending

theorem Secures.bind {method : Method Query Answer State Error α}
    {next : α → Method Query Answer State Error β}
    {passed : Except Error α → server.Assertion State}
    (first : Secures pre method passed)
    (second : ∀ value, Secures (passed (.ok value)) (next value) post)
    (failure : ∀ error state world, (passed (.error error)).holds state world →
      (post (.error error)).holds state world) :
    Secures pre (method >>= next) post := by
  intro before after start final trace visited result executes hosts holds
  rcases executes_bind_iff.mp executes with
    ⟨error, rfl, failed⟩ | ⟨earlier, later, value, reached, rfl, ran, rest⟩
  · exact failure error _ _ (first failed hosts holds)
  · obtain ⟨world, _, _, hosted, others⟩ := hosts.split
    exact second value rest others (first ran hosted holds)

/-- The outcome of a question is its answer. -/
theorem secures_question_bind {query : Query}
    {next : Answer query → Method Query Answer State Error β}
    (passed : Answer query → server.Assertion State)
    (answers : ∀ state world answer next, pre.holds state world →
      server.serves world query answer next → (passed answer).holds state next)
    (rest : ∀ answer, Secures (passed answer) (next answer) post) :
    Secures pre (lift (Program.question query) >>= next) post := by
  intro before after start final trace visited result executes hosts holds
  obtain ⟨answer, others, rfl, ran⟩ := executes_question_bind_iff.mp executes
  cases hosts with
  | serve drift answered hosted =>
      exact rest answer ran hosted
        (answers _ _ _ _ (pre.kept_of_drifts drift holds) answered)

theorem secures_ofExcept_bind {outcome : Except Error α}
    {next : α → Method Query Answer State Error β}
    (rest : ∀ value, outcome = .ok value → Secures pre (next value) post)
    (failure : ∀ error, outcome = .error error → ∀ state world, pre.holds state world →
      (post (.error error)).holds state world) :
    Secures pre (ofExcept outcome >>= next) post := by
  intro before after start final trace visited result executes hosts holds
  cases outcome with
  | ok value =>
      exact rest value rfl (executes_ofExcept_bind_ok_iff.mp executes) hosts holds
  | error error =>
      obtain ⟨rfl, rfl, rfl⟩ := executes_ofExcept_bind_error_iff.mp executes
      cases hosts with
      | idle drift => exact failure error rfl _ _ (pre.kept_of_drifts drift holds)

/-- The outcome of an attempt is passed on, also where it is a failure. -/
theorem Secures.attempt_bind {method : Method Query Answer State Failure α}
    {next : Except Failure α → Method Query Answer State Error β}
    (passed : Except Failure α → server.Assertion State) (first : Secures pre method passed)
    (rest : ∀ outcome, Secures (passed outcome) (next outcome) post) :
    Secures pre (method.attempt >>= next) post := by
  intro before after start final trace visited result executes hosts holds
  rcases executes_bind_iff.mp executes with
    ⟨error, rfl, failed⟩ | ⟨earlier, later, outcome, reached, rfl, ran, continued⟩
  · obtain ⟨_, equal, -⟩ := executes_attempt_iff.mp failed
    cases equal
  · obtain ⟨_, equal, attempted⟩ := executes_attempt_iff.mp ran
    cases equal
    obtain ⟨world, _, _, hosted, others⟩ := hosts.split
    exact rest outcome continued others (first attempted hosted holds)

theorem secures_self_bind {next : State → Method Query Answer State Error β}
    (rest : ∀ state, Secures (pre.among (· = state)) (next state) post) :
    Secures pre (self >>= next) post := by
  intro before after start final trace visited result executes hosts holds
  exact rest before (executes_self_bind_iff.mp executes) hosts ⟨rfl, holds⟩

/-- A method of a part of the state, in every state that has the part. -/
theorem Secures.zoom {read : State → Part} {write : State → Part → State}
    {method : Method Query Answer Part Error β}
    (lawful : ∀ state, write state (read state) = state)
    (secures : ∀ state, Secures (pre.onPart (write state)) method
      fun result => (post result).onPart (write state)) :
    Secures pre (zoom read write method) post := by
  intro before after start final trace visited result executes hosts holds
  obtain ⟨part, rfl, ran⟩ := executes_zoom_iff.mp executes
  refine secures before ran hosts ?_
  change pre.holds (write before (read before)) start
  rwa [lawful before]

theorem Secures.mono {method : Method Query Answer State Error β}
    {weaker : Except Error β → server.Assertion State}
    (secures : Secures middle method post)
    (before : ∀ state world, pre.holds state world → middle.holds state world)
    (after : ∀ result state world, (post result).holds state world →
      (weaker result).holds state world) :
    Secures pre method weaker :=
  fun _ _ _ _ _ _ _ executes hosts holds => after _ _ _ (secures executes hosts (before _ _ holds))

/-- What the assertion implies may be used. -/
theorem secures_of_fact {method : Method Query Answer State Error β} (fact : Prop)
    (known : ∀ state world, pre.holds state world → fact)
    (secures : fact → Secures pre method post) : Secures pre method post :=
  fun _ _ _ _ _ _ _ executes hosts holds => secures (known _ _ holds) executes hosts holds

/-- A method keeps what its questions keep. -/
theorem secures_of_emits {method : Method Query Answer State Error β}
    {allowed : Event Answer → Prop} {holds : World → Prop}
    (stable : ∀ {world next}, server.moves world next → holds world → holds next)
    (emits : method.Emits allowed)
    (serves : ∀ {event : Event Answer} {world next}, allowed event →
      server.serves world event.1 event.2 next → holds world → holds next) :
    Secures (.ofWorld holds stable : server.Assertion State) method
      fun _ => .ofWorld holds stable :=
  fun _ _ _ _ _ _ _ executes hosts begins => hosts.keeps stable
    (fun _ member _ _ => serves (emits.event_of_executes executes _ member)) begins

end Rules

end Server

end Interaction
