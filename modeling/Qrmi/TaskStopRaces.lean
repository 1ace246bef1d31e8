import Qrmi.AliceBobFelis
import Qrmi.InteractionServer
import Qrmi.IqmServer
import Qrmi.QuantumComputeService

/-!
# Stopping a task that may end by itself

Three vendors stop a task in the same way: they ask for its state, and if it has
not ended in their eyes they ask for its cancellation.  A job may end between
the two requests, and the service refuses to cancel a job that has ended.  The
first half treats the pattern for an arbitrary service, the second half
instantiates it.
-/

open Interaction

/-- A job at the service, and whether a cancellation of it was accepted. -/
structure JobWorld (Status : Type) where
  status : Status
  cancelAccepted : Bool

/-- How a vendor's service talks about one job. -/
structure JobService (Status : Type) where
  ended : Status → Bool
  asksStatus : HttpRequest → Prop
  asksCancel : HttpRequest → Prop
  reports : HttpReply → Status → Prop
  accepts : HttpReply → Prop

namespace JobService

variable {Status : Type}

/-- The service answers every request.  A job moves until it has ended, and only
the cancellation of an ended job is refused. -/
def server (service : JobService Status) :
    Server WebAction WebAction.Answer (JobWorld Status) where
  moves world next :=
    service.ended world.status = false ∧
      next.cancelAccepted = world.cancelAccepted
  serves world action answer next :=
    match action, answer with
    | .send request, reply =>
        (service.asksStatus request ∧ service.reports reply world.status ∧
          next = world) ∨
        (service.asksCancel request ∧ service.accepts reply ∧
          next.cancelAccepted = true ∧
            (service.ended world.status = true → next.status = world.status)) ∨
        (service.asksCancel request ∧ HttpReply.IsRefusal reply ∧
          service.ended world.status = true ∧ next = world)
    | _, _ => next = world

/-- Nothing that was settled at one instant is undone at a later one. -/
def Settled (service : JobService Status) (earlier later : JobWorld Status) :
    Prop :=
  (service.ended earlier.status = true → service.ended later.status = true) ∧
    (earlier.cancelAccepted = true → later.cancelAccepted = true)

variable {service : JobService Status}

theorem settled_refl (world : JobWorld Status) : service.Settled world world :=
  ⟨id, id⟩

theorem Settled.trans {first second third : JobWorld Status}
    (before : service.Settled first second)
    (after : service.Settled second third) : service.Settled first third :=
  ⟨after.1 ∘ before.1, after.2 ∘ before.2⟩

theorem settled_of_moves {world next : JobWorld Status}
    (moved : service.server.moves world next) : service.Settled world next := by
  obtain ⟨active, same⟩ := moved
  refine ⟨fun ended => ?_, fun accepted => same.trans accepted⟩
  rw [active] at ended
  cases ended

theorem settled_of_serves {world next : JobWorld Status} {action : WebAction}
    {answer : action.Answer}
    (served : service.server.serves world action answer next) :
    service.Settled world next := by
  cases action with
  | send request =>
      rcases served with ⟨-, -, rfl⟩ | ⟨-, -, accepted, kept⟩ | ⟨-, -, -, rfl⟩
      · exact settled_refl _
      · exact ⟨fun ended => by rw [kept ended]; exact ended, fun _ => accepted⟩
      · exact settled_refl _
  | now | postForm | overtake =>
      have same : next = world := served
      rw [same]
      exact settled_refl _

/-- The job has ended, or its cancellation was accepted. -/
def Stopped (service : JobService Status) (world : JobWorld Status) : Prop :=
  service.ended world.status = true ∨ world.cancelAccepted = true

/-- The call found the job in a state that it cancels, the job reached an end
state before the cancellation arrived, and the service refused it. -/
def Raced (service : JobService Status) (cancels : Status → Bool)
    (visited : List (JobWorld Status)) (trace : List WebEvent) : Prop :=
  ∃ observed refusing request reply, [observed, refusing].Sublist visited ∧
    cancels observed.status = true ∧ service.ended refusing.status = true ∧
      ⟨.send request, reply⟩ ∈ trace ∧ service.asksCancel request ∧
        HttpReply.IsRefusal reply

/-- An event that is not a request to the service. -/
def IsAside : WebEvent → Prop
  | ⟨.send _, _⟩ => False
  | _ => True

/-- Executed in the given state, the method asks for the state of the job, cancels
in some states, and passes on what it is told about the cancellation. -/
def StopsBy {State : Type} (service : JobService Status) (cancels : Status → Bool)
    (method : Method WebAction WebAction.Answer State QrmiError Unit)
    (before : State) : Prop :=
  ∀ trace result after, method.Executes before trace result after →
    ∃ asides request reply rest,
      trace = asides ++ ⟨.send request, reply⟩ :: rest ∧
      (∀ event ∈ asides, IsAside event) ∧ service.asksStatus request ∧
      ∀ status, service.reports reply status →
        (cancels status = false ∧ rest = [] ∧ result = .ok ()) ∨
        (cancels status = true ∧ ∃ cancel answer,
          rest = [⟨.send cancel, answer⟩] ∧ service.asksCancel cancel ∧
            (service.accepts answer → result = .ok ()) ∧
            (HttpReply.IsRefusal answer → ∃ error, result = .error error))

/-- What a vendor has to know about its own protocol. -/
structure Sound (service : JobService Status) (cancels : Status → Bool) : Prop where
  passive : ∀ status, cancels status = false → service.ended status = true
  distinct : ∀ request, service.asksStatus request → ¬ service.asksCancel request
  consistent : ∀ reply, service.accepts reply → ¬ HttpReply.IsRefusal reply

section Stopping

variable {State : Type} {cancels : Status → Bool}
variable {method : Method WebAction WebAction.Answer State QrmiError Unit}
variable {before after : State} {start final : JobWorld Status}
variable {visited : List (JobWorld Status)} {trace : List WebEvent}
variable {result : Except QrmiError Unit}

/-- The instants are settled in order up to the end of the call. -/
theorem settled_final
    (against : service.server.ExecutesAgainst start method before visited trace
      result after final) {world : JobWorld Status} (member : world ∈ visited) :
    service.Settled world final := by
  have ordered : (visited ++ [final]).Pairwise service.Settled := by
    refine (Server.RunsAgainst.ordered settled_refl Settled.trans ?_ ?_ against).2
    · exact settled_of_moves
    · exact settled_of_serves
  exact (List.pairwise_append.mp ordered).2.2 world member final
    (List.mem_singleton_self _)

/-- An accepted cancellation is remembered until the end of the call. -/
theorem accepted_final (sound : service.Sound cancels)
    (against : service.server.ExecutesAgainst start method before visited trace
      result after final) {request : HttpRequest} {reply : HttpReply}
    (member : ⟨.send request, reply⟩ ∈ trace)
    (cancelling : service.asksCancel request) (accepted : service.accepts reply) :
    final.cancelAccepted = true := by
  obtain ⟨world, -, next, served, settled⟩ :
      ∃ world ∈ visited, ∃ next,
        service.server.serves world (.send request) reply next ∧
          service.Settled next final := by
    refine Server.RunsAgainst.exists_outcome settled_refl Settled.trans ?_ ?_
      against member
    · exact settled_of_moves
    · exact settled_of_serves
  rcases served with ⟨asking, -, -⟩ | ⟨-, -, remembered, -⟩ | ⟨-, refused, -, -⟩
  · exact absurd cancelling (sound.distinct request asking)
  · exact settled.2 remembered
  · exact absurd refused (sound.consistent reply accepted)

/-- The requests of a call and the states in which they were answered. -/
theorem exists_instants
    (against : service.server.ExecutesAgainst start method before visited trace
      result after final) {asides rest : List WebEvent} {request : HttpRequest}
    {reply : HttpReply} (split : trace = asides ++ ⟨.send request, reply⟩ :: rest) :
    ∃ observed later, (observed :: later).Sublist visited ∧
      (∃ next, service.server.serves observed (.send request) reply next) ∧
      List.Forall₂ (fun event world => ∃ next,
        service.server.serves world event.1 event.2 next) rest later := by
  obtain ⟨instants, contained, served⟩ := Server.RunsAgainst.exists_instants against
  rw [split] at served
  have lateServed := (List.forall₂_drop_append _ _ _ served.flip).flip
  obtain ⟨observed, later, asked, restServed, equal⟩ :=
    List.forall₂_cons_left_iff.mp lateServed
  refine ⟨observed, later, ?_, asked, restServed⟩
  rw [← equal]
  exact (List.drop_sublist _ _).trans contained

/-- The refused cancellation of a race is not among the other events. -/
theorem Raced.mem_rest {asides rest : List WebEvent} {request : HttpRequest}
    {reply : HttpReply} (sound : service.Sound cancels)
    (raced : service.Raced cancels visited
      (asides ++ ⟨.send request, reply⟩ :: rest))
    (quiet : ∀ event ∈ asides, IsAside event) (asking : service.asksStatus request) :
    ∃ cancel answer, ⟨.send cancel, answer⟩ ∈ rest ∧ HttpReply.IsRefusal answer := by
  obtain ⟨-, -, cancel, answer, -, -, -, member, cancelling, refused⟩ := raced
  refine ⟨cancel, answer, ?_, refused⟩
  rcases List.mem_append.mp member with inAsides | member
  · exact (quiet _ inAsides).elim
  rcases List.mem_cons.mp member with same | inRest
  · cases same
    exact absurd cancelling (sound.distinct request asking)
  · exact inRest

/-- Stopping succeeds, with the job stopped afterwards, exactly if the
cancellation did not lose the race against the end of the job. -/
theorem stops_iff (sound : service.Sound cancels)
    (stops : service.StopsBy cancels method before)
    (against : service.server.ExecutesAgainst start method before visited trace
      result after final) :
    (result = .ok () ∧ service.Stopped final) ↔
      ¬ service.Raced cancels visited trace := by
  obtain ⟨asides, request, reply, rest, rfl, quiet, asking, decides⟩ :=
    stops trace result after against.executes
  obtain ⟨observed, later, contained, ⟨next, served⟩, restServed⟩ :=
    exists_instants against rfl
  have reported : service.reports reply observed.status := by
    rcases served with ⟨-, reported, -⟩ | ⟨cancelling, -⟩ | ⟨cancelling, -⟩
    · exact reported
    · exact absurd cancelling (sound.distinct request asking)
    · exact absurd cancelling (sound.distinct request asking)
  have observedVisited := contained.subset (List.mem_cons_self ..)
  rcases decides observed.status reported with ⟨passive, rfl, rfl⟩ |
    ⟨active, cancel, answer, rfl, cancelling, accepting, refusing⟩
  · have ended := sound.passive observed.status passive
    have stopped := (settled_final against observedVisited).1 ended
    refine iff_of_true ⟨rfl, .inl stopped⟩ fun raced => ?_
    obtain ⟨cancel, answer, member, -⟩ := raced.mem_rest sound quiet asking
    cases member
  · obtain ⟨refusingWorld, _, ⟨_, answered⟩, -, rfl⟩ :=
      List.forall₂_cons_left_iff.mp restServed
    rcases answered with ⟨askingAgain, -⟩ | ⟨-, accepted, -⟩ |
      ⟨-, refused, ended, -⟩
    · exact absurd cancelling (sound.distinct cancel askingAgain)
    · have remembered : final.cancelAccepted = true :=
        accepted_final sound against (by simp) cancelling accepted
      refine iff_of_true ⟨accepting accepted, .inr remembered⟩ fun raced => ?_
      obtain ⟨other, otherAnswer, member, refused⟩ :=
        raced.mem_rest sound quiet asking
      cases List.mem_singleton.mp member
      exact sound.consistent answer accepted refused
    · obtain ⟨error, failed⟩ := refusing refused
      refine iff_of_false (fun succeeded => ?_) fun unraced => unraced ?_
      · rw [failed] at succeeded
        cases succeeded.1
      · exact ⟨observed, refusingWorld, cancel, answer,
          (List.Sublist.cons_cons _ (List.singleton_sublist.mpr
            (List.mem_cons_self ..))).trans contained,
          active, ended, by simp, cancelling, refused⟩

end Stopping

/-- The method is only cut off by a reply that does not tell the state of the
job. -/
def StallsUntold {State : Type} (service : JobService Status)
    (method : Method WebAction WebAction.Answer State QrmiError Unit)
    (before : State) : Prop :=
  ∀ trace, method.Stalls before trace →
    ∃ request reply, ⟨.send request, reply⟩ ∈ trace ∧ service.asksStatus request ∧
      ∀ status, ¬ service.reports reply status

/-- The service never leaves the call without a result. -/
def Returns {State : Type} (service : JobService Status)
    (method : Method WebAction WebAction.Answer State QrmiError Unit)
    (before : State) : Prop :=
  ∀ start visited trace final, service.server.Hosts start visited trace final →
    ¬ method.Stalls before trace

theorem StallsUntold.returns {State : Type} {cancels : Status → Bool}
    {method : Method WebAction WebAction.Answer State QrmiError Unit}
    {before : State} (untold : service.StallsUntold method before)
    (sound : service.Sound cancels) : service.Returns method before := by
  intro start visited trace final hosts stalls
  obtain ⟨request, reply, member, asking, unread⟩ := untold trace stalls
  obtain ⟨world, -, next, served⟩ := hosts.exists_served member
  rcases served with ⟨-, reported, -⟩ | ⟨cancelling, -⟩ | ⟨cancelling, -⟩
  · exact unread world.status reported
  · exact sound.distinct request asking cancelling
  · exact sound.distinct request asking cancelling

/-- Stopping always returns, and in every run it succeeds and leaves the job
stopped. -/
def Tolerates {State : Type} (service : JobService Status)
    (method : Method WebAction WebAction.Answer State QrmiError Unit)
    (before : State) : Prop :=
  service.Returns method before ∧
    ∀ start visited trace result after final,
      service.server.ExecutesAgainst start method before visited trace result
          after final →
        result = .ok () ∧ service.Stopped final

/-- Stopping always returns, and a run succeeds and leaves the job stopped exactly
if it did not lose the race. -/
def ToleratesUnlessRaced {State : Type} (service : JobService Status)
    (cancels : Status → Bool)
    (method : Method WebAction WebAction.Answer State QrmiError Unit)
    (before : State) : Prop :=
  service.Returns method before ∧
    ∀ start visited trace result after final,
      service.server.ExecutesAgainst start method before visited trace result
          after final →
        ((result = .ok () ∧ service.Stopped final) ↔
          ¬ service.Raced cancels visited trace)

theorem toleratesUnlessRaced {State : Type} {cancels : Status → Bool}
    {method : Method WebAction WebAction.Answer State QrmiError Unit}
    {before : State} (sound : service.Sound cancels)
    (untold : service.StallsUntold method before)
    (stops : service.StopsBy cancels method before) :
    service.ToleratesUnlessRaced cancels method before := by
  refine ⟨untold.returns sound, ?_⟩
  intro start visited trace result after final against
  exact stops_iff sound stops against

section Parts

variable {State α : Type} {cancels : Status → Bool} {before : State}

/-- The method asks for the state once and returns what the service reports. -/
def Looks (service : JobService Status) (statusOf : α → Status)
    (method : Method WebAction WebAction.Answer State QrmiError α)
    (before : State) : Prop :=
  ∀ trace result after, method.Executes before trace result after →
    after = before ∧ ∃ request reply, trace = [⟨.send request, reply⟩] ∧
      service.asksStatus request ∧ ∀ status, service.reports reply status →
        ∃ value, result = .ok value ∧ statusOf value = status

/-- The method asks for the cancellation once and fails if it is refused. -/
def PassesOn (service : JobService Status)
    (method : Method WebAction WebAction.Answer State QrmiError Unit)
    (before : State) : Prop :=
  ∀ trace result after, method.Executes before trace result after →
    ∃ request reply, trace = [⟨.send request, reply⟩] ∧
      service.asksCancel request ∧ (service.accepts reply → result = .ok ()) ∧
        (HttpReply.IsRefusal reply → ∃ error, result = .error error)

/-- A request whose reply is read for nothing but its success. -/
theorem passesOn_fetch {β : Type} {classify : ApiError → QrmiError}
    {make : State → HttpRequest} {readReply : HttpReply → Except ApiError β}
    (cancelling : service.asksCancel (make before))
    (accepted : ∀ reply, service.accepts reply →
      ∃ value, readReply reply = .ok value)
    (refused : ∀ reply, HttpReply.IsRefusal reply →
      ∃ error, readReply reply = .error error) :
    service.PassesOn
      (request (fun state => classified classify (fetch (make state) readReply)) >>=
        fun _ => pure ())
      before := by
  intro trace result after executes
  rcases Method.executes_bind_iff.mp executes with ⟨error, rfl, failed⟩ |
    ⟨first, second, value, middle, rfl, asked, returned⟩
  · obtain ⟨⟨reply, rfl, equal⟩, -⟩ := executes_request_fetch_iff.mp failed
    refine ⟨_, reply, rfl, cancelling, fun accepts => ?_, fun _ => ⟨error, rfl⟩⟩
    obtain ⟨value, read⟩ := accepted reply accepts
    rw [read] at equal
    cases equal
  · obtain ⟨⟨reply, rfl, equal⟩, -⟩ := executes_request_fetch_iff.mp asked
    obtain ⟨rfl, rfl, -⟩ := Method.executes_pure_iff.mp returned
    refine ⟨_, reply, rfl, cancelling, fun _ => rfl, fun refuses => ?_⟩
    obtain ⟨error, failed⟩ := refused reply refuses
    rw [failed] at equal
    cases equal

/-- The body that the vendors share. -/
theorem stopsBy_of_parts {statusOf : α → Status}
    {look : Method WebAction WebAction.Answer State QrmiError α}
    {cancel : Method WebAction WebAction.Answer State QrmiError Unit}
    (looks : service.Looks statusOf look before)
    (passesOn : service.PassesOn cancel before) :
    service.StopsBy cancels
      (look >>= fun value => if cancels (statusOf value) then cancel else pure ())
      before := by
  intro trace result after executes
  rcases Method.executes_bind_iff.mp executes with ⟨error, rfl, failed⟩ |
    ⟨first, second, value, middle, rfl, looked, continued⟩
  · obtain ⟨-, request, reply, rfl, asking, reported⟩ := looks _ _ _ failed
    refine ⟨[], request, reply, [], rfl, List.forall_mem_nil _, asking, fun status reports => ?_⟩
    obtain ⟨value, equal, -⟩ := reported status reports
    cases equal
  · obtain ⟨rfl, request, reply, rfl, asking, reported⟩ := looks _ _ _ looked
    refine ⟨[], request, reply, second, rfl, List.forall_mem_nil _, asking,
      fun status reports => ?_⟩
    obtain ⟨_, equal, same⟩ := reported status reports
    cases equal
    rw [same] at continued
    by_cases active : cancels status
    · rw [if_pos active] at continued
      obtain ⟨cancelRequest, answer, rfl, cancelling, decides⟩ :=
        passesOn _ _ _ continued
      exact .inr ⟨active, cancelRequest, answer, rfl, cancelling, decides⟩
    · rw [if_neg active] at continued
      obtain ⟨rfl, rfl, -⟩ := Method.executes_pure_iff.mp continued
      exact .inl ⟨Bool.not_eq_true _ ▸ active, rfl, rfl⟩

/-- Asides in front of the body change nothing. -/
theorem StopsBy.after_asides
    {first : Method WebAction WebAction.Answer State QrmiError Unit}
    {rest : Method WebAction WebAction.Answer State QrmiError Unit}
    (asides : ∀ trace result after, first.Executes before trace result after →
      result = .ok () ∧ (∀ event ∈ trace, IsAside event) ∧
        service.StopsBy cancels rest after) :
    service.StopsBy cancels (first >>= fun _ => rest) before := by
  intro trace result after executes
  rcases Method.executes_bind_iff.mp executes with ⟨error, -, failed⟩ |
    ⟨early, late, _, middle, rfl, ran, continued⟩
  · obtain ⟨equal, -⟩ := asides _ _ _ failed
    cases equal
  · obtain ⟨-, quiet, stops⟩ := asides _ _ _ ran
    obtain ⟨more, request, reply, rest, rfl, moreQuiet, asking, decides⟩ :=
      stops _ _ _ continued
    refine ⟨early ++ more, request, reply, rest, by simp, ?_, asking, decides⟩
    intro event member
    rcases List.mem_append.mp member with inEarly | inMore
    · exact quiet event inEarly
    · exact moreQuiet event inMore

end Parts

end JobService

namespace IQMServer

open Method

/-- How the IQM server talks about a job. -/
def jobService (codec : IqmCodec) (config : IqmConfiguration) (taskId : Text) :
    JobService IqmServerJobStatus where
  ended
    | .completed | .failed | .cancelled => true
    | .waiting | .processing => false
  asksStatus request := request.method = .get ∧ request.url = jobUrl config taskId
  asksCancel request :=
    request.method = .post ∧ request.url = jobUrl config taskId ++ "/cancel".toList
  reports reply status := readJobReply codec reply = .ok status
  accepts reply := ∃ status, readJobReply codec reply = .ok status

theorem jobService_sound (codec : IqmCodec) (config : IqmConfiguration)
    (taskId : Text) : (jobService codec config taskId).Sound cancels where
  passive status passive := by
    cases status with
    | waiting | processing => cases passive
    | completed | failed | cancelled => rfl
  distinct request asking cancelling := by
    have same : HttpMethod.get = .post := asking.1.symm.trans cancelling.1
    cases same
  consistent reply accepted refused := by
    obtain ⟨status, read⟩ := accepted
    obtain ⟨error, failed⟩ := refused.readJson
    rw [readJobReply, failed] at read
    cases read

theorem taskStop_stopsBy (codec : IqmCodec) (server : IQMServer) (taskId : Text) :
    (jobService codec server.config taskId).StopsBy cancels
      (taskStop codec taskId) server := by
  have looks : (jobService codec server.config taskId).Looks id
      (getJob codec taskId) server := by
    intro trace result after executes
    obtain ⟨⟨reply, rfl, rfl⟩, unchanged⟩ := executes_request_fetch_iff.mp executes
    refine ⟨unchanged, _, reply, rfl, ⟨rfl, rfl⟩, fun status reports => ?_⟩
    exact ⟨status, by rw [reports]; rfl, rfl⟩
  refine JobService.stopsBy_of_parts looks (JobService.passesOn_fetch ?_ ?_ ?_)
  · exact ⟨rfl, rfl⟩
  · exact fun reply accepted => accepted
  · exact fun reply refused => refused.readJson

theorem taskStop_returns (codec : IqmCodec) (taskId : Text) :
    (taskStop codec taskId).Returns := by
  refine (request_fetch_returns _ _ _).bind fun status => ?_
  split
  · exact (request_fetch_returns _ _ _).bind fun _ => returns_pure ()
  · exact returns_pure ()

end IQMServer

namespace AliceBobFelis

open Method

/-- How Felis talks about a job. -/
def jobService (codec : FelisCodec) (config : FelisConfiguration) (taskId : Text) :
    JobService EventType where
  ended
    | .succeeded | .cancelled | .timedOut | .compilationFailed
    | .transpilationFailed | .executionFailed => true
    | _ => false
  asksStatus request := request.method = .get ∧ request.url = jobUrl config taskId
  asksCancel request :=
    request.method = .delete ∧ request.url = jobUrl config taskId
  reports reply event :=
    ∃ events, readJobReply codec reply = .ok events ∧ events.getLast? = some event
  accepts reply := ∃ events, readJobReply codec reply = .ok events

theorem jobService_sound (codec : FelisCodec) (config : FelisConfiguration)
    (taskId : Text) : (jobService codec config taskId).Sound cancels where
  passive event passive := by
    cases event with
    | succeeded | cancelled => rfl
    | created | fetchingInput | inputReady | compiling | compiled
    | compilationFailed | transpiling | transpiled | transpilationFailed
    | executing | executionFailed | timedOut => cases passive
  distinct request asking cancelling := by
    have same : HttpMethod.get = .delete := asking.1.symm.trans cancelling.1
    cases same
  consistent reply accepted refused := by
    obtain ⟨events, read⟩ := accepted
    obtain ⟨error, failed⟩ := refused.readJson
    rw [readJobReply, failed] at read
    cases read

theorem mostRecentEvent_looks (codec : FelisCodec) (felis : AliceBobFelis)
    (taskId : Text) :
    (jobService codec felis.config taskId).Looks id (mostRecentEvent codec taskId)
      felis := by
  intro trace result after executes
  rcases executes_bind_iff.mp executes with ⟨error, rfl, failed⟩ |
    ⟨first, second, events, middle, rfl, asked, read⟩
  · obtain ⟨⟨reply, rfl, equal⟩, unchanged⟩ := executes_request_fetch_iff.mp failed
    refine ⟨unchanged, _, reply, rfl, ⟨rfl, rfl⟩, fun event reports => ?_⟩
    obtain ⟨events, readEvents, -⟩ := reports
    rw [readEvents] at equal
    cases equal
  · obtain ⟨⟨reply, rfl, equal⟩, rfl⟩ := executes_request_fetch_iff.mp asked
    cases lastEvent : events.getLast? with
    | none =>
        rw [lastEvent] at read
        exact absurd read Program.not_runs_pending
    | some event =>
        rw [lastEvent] at read
        obtain ⟨rfl, rfl, rfl⟩ := executes_pure_iff.mp read
        refine ⟨rfl, _, reply, rfl, ⟨rfl, rfl⟩, fun status reports => ?_⟩
        obtain ⟨others, readOthers, lastOther⟩ := reports
        rw [readOthers] at equal
        cases equal
        rw [lastEvent] at lastOther
        cases lastOther
        exact ⟨event, rfl, rfl⟩

theorem taskStop_stopsBy (codec : FelisCodec) (felis : AliceBobFelis)
    (taskId : Text) :
    (jobService codec felis.config taskId).StopsBy cancels
      (taskStop codec taskId) felis := by
  refine JobService.stopsBy_of_parts (mostRecentEvent_looks codec felis taskId)
    (JobService.passesOn_fetch ?_ ?_ ?_)
  · exact ⟨rfl, rfl⟩
  · exact fun reply accepted => accepted
  · exact fun reply refused => refused.readJson

/-- A job without events cuts the call off. -/
theorem taskStop_stallsUntold (codec : FelisCodec) (felis : AliceBobFelis)
    (taskId : Text) :
    (jobService codec felis.config taskId).StallsUntold (taskStop codec taskId)
      felis := by
  intro trace stalls
  rcases stalls_bind_iff.mp stalls with inLook |
    ⟨_, rest, event, middle, -, -, cancelling⟩
  · rcases stalls_bind_iff.mp inLook with asked |
      ⟨first, second, events, middle, rfl, asked, unread⟩
    · exact absurd asked (request_fetch_returns _ _ _ _ _)
    · obtain ⟨⟨reply, rfl, equal⟩, rfl⟩ := executes_request_fetch_iff.mp asked
      refine ⟨_, reply, List.mem_cons_self .., ⟨rfl, rfl⟩, fun status reports => ?_⟩
      obtain ⟨others, readOthers, lastOther⟩ := reports
      rw [readOthers] at equal
      cases equal
      rw [lastOther] at unread
      exact returns_pure status _ _ unread
  · have returns : (if cancels event then do
          let _ ← request fun felis : AliceBobFelis =>
            classified (classify .job) (cancelJob codec felis.config taskId)
        else pure () : FelisMethod Unit).Returns := by
      split
      · exact (request_fetch_returns _ _ _).bind fun _ => returns_pure ()
      · exact returns_pure ()
    exact absurd cancelling (returns _ _)

end AliceBobFelis

namespace IBMQuantumComputeService

open Method
open QuantumCompute

/-- How the quantum compute service talks about a job below a base address. -/
def jobService (codec : Codec) (basePath taskId : Text) : JobService JobStatus where
  ended
    | .completed | .cancelled | .cancelledRanTooLong | .failed => true
    | .queued | .running => false
  asksStatus request :=
    request.method = .get ∧ request.url = basePath ++ jobPath taskId
  asksCancel request :=
    request.method = .post ∧
      request.url = basePath ++ (jobPath taskId ++ "/cancel".toList)
  reports reply status := ∃ job,
    HttpReply.readJson "application/json" "models::JobResponse" codec.readJob
      reply = .ok job ∧ job.status = status
  accepts reply := reply.readUnit = .ok ()

theorem jobService_sound (codec : Codec) (basePath taskId : Text) :
    (jobService codec basePath taskId).Sound cancels where
  passive status passive := by
    cases status with
    | queued | running => cases passive
    | completed | cancelled | cancelledRanTooLong | failed => rfl
  distinct request asking cancelling := by
    have same : HttpMethod.get = .post := asking.1.symm.trans cancelling.1
    cases same
  consistent reply accepted refused := by
    obtain ⟨error, failed⟩ := refused.readUnit
    have read : reply.readUnit = .ok () := accepted
    rw [failed] at read
    cases read

theorem renewed_basePath (codec : Codec) (service : IBMQuantumComputeService)
    (reply : HttpReply) :
    (service.renewed codec reply).config.basePath = service.config.basePath := by
  rw [renewed]
  cases readTokenReply codec reply with
  | some granted => rfl
  | none => rfl

theorem taskStop_stopsBy (codec : Codec) (service : IBMQuantumComputeService)
    (taskId : Text) :
    (jobService codec service.config.basePath taskId).StopsBy cancels
      (taskStop codec taskId) service := by
  have body : ∀ current : IBMQuantumComputeService,
      (jobService codec current.config.basePath taskId).StopsBy cancels
        (do
          let job ← call .job fun config => getJob codec config taskId
          if cancels job.status then
            let _ ← call .job fun config => cancelJobJid config taskId
          else
            return ())
        current := by
    intro current
    have looks : (jobService codec current.config.basePath taskId).Looks
        JobResponse.status (call .job fun config => getJob codec config taskId)
        current := by
      intro trace result after executes
      obtain ⟨⟨reply, rfl, rfl⟩, unchanged⟩ :=
        executes_request_fetch_iff.mp executes
      refine ⟨unchanged, _, reply, rfl, ⟨rfl, rfl⟩, fun status reports => ?_⟩
      obtain ⟨job, read, same⟩ := reports
      exact ⟨job, by rw [read]; rfl, same⟩
    refine JobService.stopsBy_of_parts looks (JobService.passesOn_fetch ?_ ?_ ?_)
    · exact ⟨rfl, rfl⟩
    · exact fun reply accepted => ⟨(), accepted⟩
    · exact fun reply refused => refused.readUnit
  refine JobService.StopsBy.after_asides fun trace result after executes => ?_
  obtain ⟨succeeded, now, rest, rfl, ⟨-, rfl, rfl⟩ | ⟨url, form, reply, rfl, rfl⟩⟩ :=
    checkToken_cases codec executes
  · refine ⟨succeeded, fun event member => ?_, body after⟩
    rw [List.mem_singleton.mp member]
    trivial
  · refine ⟨succeeded, fun event member => ?_, ?_⟩
    · rcases List.mem_pair.mp member with rfl | rfl
      · trivial
      · trivial
    · have renewedBody := body (service.renewed codec reply)
      rw [renewed_basePath] at renewedBody
      exact renewedBody

theorem checkToken_returns (codec : Codec) : (checkToken codec).Returns := by
  refine returns_self.bind fun service => ?_
  refine (returns_lift (Program.total_question _)).bind fun now => ?_
  split
  · refine (returns_lift (Program.total_question _)).bind fun reply => ?_
    cases readTokenReply codec reply with
    | some granted => exact returns_modify _
    | none => exact returns_pure ()
  · exact returns_pure ()

theorem taskStop_returns (codec : Codec) (taskId : Text) :
    (taskStop codec taskId).Returns := by
  refine (checkToken_returns codec).bind fun _ => ?_
  refine (request_fetch_returns _ _ _).bind fun job => ?_
  split
  · exact (request_fetch_returns _ _ _).bind fun _ => returns_pure ()
  · exact returns_pure ()

end IBMQuantumComputeService

/-! ## All three vendors -/

/-- For every vendor, every instance, every job and every interleaving: stopping
returns, and it succeeds with the job stopped exactly if no cancellation lost the
race. -/
theorem taskStop_tolerates_iff (iqmCodec : IqmCodec) (server : IQMServer)
    (computeCodec : QuantumCompute.Codec) (service : IBMQuantumComputeService)
    (felisCodec : FelisCodec) (felis : AliceBobFelis) (taskId : Text) :
    (IQMServer.jobService iqmCodec server.config taskId).ToleratesUnlessRaced
        IQMServer.cancels (IQMServer.taskStop iqmCodec taskId) server ∧
      (IBMQuantumComputeService.jobService computeCodec service.config.basePath
        taskId).ToleratesUnlessRaced IBMQuantumComputeService.cancels
          (IBMQuantumComputeService.taskStop computeCodec taskId) service ∧
      (AliceBobFelis.jobService felisCodec felis.config taskId).ToleratesUnlessRaced
        AliceBobFelis.cancels (AliceBobFelis.taskStop felisCodec taskId) felis := by
  refine ⟨?_, ?_, ?_⟩
  · apply JobService.toleratesUnlessRaced
    · exact IQMServer.jobService_sound iqmCodec _ taskId
    · exact fun _ stalls => absurd stalls (IQMServer.taskStop_returns _ _ _ _)
    · exact IQMServer.taskStop_stopsBy iqmCodec server taskId
  · apply JobService.toleratesUnlessRaced
    · exact IBMQuantumComputeService.jobService_sound computeCodec _ taskId
    · exact fun _ stalls =>
        absurd stalls (IBMQuantumComputeService.taskStop_returns _ _ _ _)
    · exact IBMQuantumComputeService.taskStop_stopsBy computeCodec service taskId
  · apply JobService.toleratesUnlessRaced
    · exact AliceBobFelis.jobService_sound felisCodec _ taskId
    · exact AliceBobFelis.taskStop_stallsUntold felisCodec felis taskId
    · exact AliceBobFelis.taskStop_stopsBy felisCodec felis taskId

namespace LostRace

def response (code : Nat) (reason : String) (body : Text) : HttpReply :=
  .ok ⟨⟨code, reason⟩, some "application/json".toList, .ok body⟩

theorem readJson_document {α : Type} (document : Text) (value : α)
    (fallback typeName : String) :
    HttpReply.readJson fallback typeName (readDocument document value)
      (response 200 "OK" document) = .ok value :=
  congrArg (Except.mapError ApiError.serde) (readDocument_self document value)

/-! The IQM job completes between the two requests. -/

def iqmDocument : Text :=
  ("\x7b\"artifacts\":[],\"id\":\"67e55044-10b1-426f-9247-bb680e5fe0c8\"," ++
    "\"messages\":[],\"qc\":\x7b\"id\":\"67e55044-10b1-426f-9247-bb680e5fe0c9\"\x7d," ++
    "\"status\":\"processing\",\"timeline\":[],\"type\":\"circuit\"\x7d").toList

def iqmCodec : IqmCodec where
  readJob := readDocument iqmDocument .processing

def iqm : IQMServer where
  config := ⟨"https://iqm".toList, none, some "t".toList⟩

def iqmTrace : List WebEvent :=
  [⟨.send (IQMServer.authorized iqm.config .get (IQMServer.jobUrl iqm.config ['j'])
      [("wait_until_terminal", "true".toList), ("timeout_seconds", "30".toList)]),
      response 200 "OK" iqmDocument⟩,
    ⟨.send (IQMServer.authorized iqm.config .post
      (IQMServer.jobUrl iqm.config ['j'] ++ "/cancel".toList) []),
      response 403 "Forbidden" []⟩]

theorem iqm_reads :
    IQMServer.readJobReply iqmCodec (response 200 "OK" iqmDocument) =
      .ok .processing :=
  readJson_document ..

theorem iqm_executes :
    (IQMServer.taskStop iqmCodec ['j']).Executes iqm iqmTrace
      (.error (.other "error in response: status code 403 Forbidden")) iqm := by
  refine Method.executes_bind_iff.mpr (.inr ⟨[_], [_], .processing, iqm, rfl, ?_, ?_⟩)
  · refine executes_request_fetch_iff.mpr ⟨⟨_, rfl, ?_⟩, rfl⟩
    rw [iqm_reads]
    rfl
  · refine Method.executes_bind_iff.mpr (.inl ⟨_, rfl, ?_⟩)
    exact executes_request_fetch_iff.mpr ⟨⟨_, rfl, rfl⟩, rfl⟩

theorem iqm_races :
    (IQMServer.jobService iqmCodec iqm.config ['j']).server.ExecutesAgainst
      ⟨.processing, false⟩ (IQMServer.taskStop iqmCodec ['j']) iqm
      [⟨.processing, false⟩, ⟨.processing, false⟩, ⟨.completed, false⟩] iqmTrace
      (.error (.other "error in response: status code 403 Forbidden")) iqm
      ⟨.completed, false⟩ := by
  refine Server.Hosts.runsAgainst ?_ iqm_executes
  have completes : (IQMServer.jobService iqmCodec iqm.config ['j']).server.moves
      ⟨.processing, false⟩ ⟨.completed, false⟩ := ⟨rfl, rfl⟩
  exact .serve (.refl _) (.inl ⟨⟨rfl, rfl⟩, iqm_reads, rfl⟩)
    (.serve (.move completes (.refl _))
      (.inr (.inr ⟨⟨rfl, rfl⟩, ⟨_, rfl, rfl⟩, rfl, rfl⟩)) (.idle (.refl _)))

/-! So does the job of the quantum compute service. -/

def computeDocument : Text :=
  ("\x7b\"id\":\"j\",\"state\":\x7b\"status\":\"Running\"\x7d,\"status\":\"Running\"," ++
    "\"program\":\x7b\"id\":\"sampler\"\x7d,\"created\":\"\",\"cost\":0\x7d").toList

def running : QuantumCompute.JobResponse where
  status := .running
  sessionId := none

def computeCodec : QuantumCompute.Codec where
  readJob := readDocument computeDocument running
  readJobs _ := .error "expected value"
  readCreatedJob _ := .error "expected value"
  readSession _ := .error "expected value"
  readBackendStatus _ := .error "expected value"
  readBackends _ := .error "expected value"
  readProperties _ := .error "expected value"
  readString _ := .error "expected value"
  readToken _ := .error "expected value"
  samplerInput _ := .error "expected value"
  estimatorInput _ := .error "expected value"
  noiseLearnerInput _ := .error "expected value"
  json := .ofTable []
  toLowercase text := text.map Char.toLower

def compute : IBMQuantumComputeService where
  config := ⟨"https://qcs".toList, none, some "t".toList, none⟩
  backendName := "ibm".toList
  sessionId := none
  calibrationId := none
  timeoutSecs := none
  sessionMode := "dedicated".toList
  sessionMaxTtl := 28800
  apiKey := "k".toList
  iamEndpoint := "https://iam".toList
  tokenExpiration := 3600
  tokenLifetime := 3600

def computeCancel : HttpRequest :=
  let request := compute.config.request .post
    (QuantumCompute.jobPath ['j'] ++ "/cancel".toList) [] none none
  { request with headers := request.headers ++ [("Content-Length", "0".toList)] }

def computeTrace : List WebEvent :=
  [⟨.now, (0 : Nat)⟩,
    ⟨.send (compute.config.request .get (QuantumCompute.jobPath ['j']) [] none none),
      response 200 "OK" computeDocument⟩,
    ⟨.send computeCancel, response 409 "Conflict" []⟩]

theorem compute_reads :
    HttpReply.readJson "application/json" "models::JobResponse"
      computeCodec.readJob (response 200 "OK" computeDocument) = .ok running :=
  readJson_document ..

theorem compute_executes :
    (IBMQuantumComputeService.taskStop computeCodec ['j']).Executes compute
      computeTrace (.error (.other "response body: 409 Conflict ")) compute := by
  refine Method.executes_bind_iff.mpr
    (.inr ⟨[_], [_, _], (), compute, rfl, .ask (.done _), ?_⟩)
  refine Method.executes_bind_iff.mpr
    (.inr ⟨[_], [_], running, compute, rfl, ?_, ?_⟩)
  · refine executes_request_fetch_iff.mpr ⟨⟨_, rfl, ?_⟩, rfl⟩
    rw [compute_reads]
    rfl
  · refine Method.executes_bind_iff.mpr (.inl ⟨_, rfl, ?_⟩)
    exact executes_request_fetch_iff.mpr ⟨⟨_, rfl, rfl⟩, rfl⟩

theorem compute_races :
    (IBMQuantumComputeService.jobService computeCodec compute.config.basePath
      ['j']).server.ExecutesAgainst
      ⟨.running, false⟩ (IBMQuantumComputeService.taskStop computeCodec ['j']) compute
      [⟨.running, false⟩, ⟨.running, false⟩, ⟨.running, false⟩, ⟨.completed, false⟩]
      computeTrace (.error (.other "response body: 409 Conflict ")) compute
      ⟨.completed, false⟩ := by
  refine Server.Hosts.runsAgainst ?_ compute_executes
  have completes : (IBMQuantumComputeService.jobService computeCodec
      compute.config.basePath ['j']).server.moves ⟨.running, false⟩
        ⟨.completed, false⟩ := ⟨rfl, rfl⟩
  exact .serve (.refl _) rfl
    (.serve (.refl _) (.inl ⟨⟨rfl, rfl⟩, ⟨running, compute_reads, rfl⟩, rfl⟩)
      (.serve (.move completes (.refl _))
        (.inr (.inr ⟨⟨rfl, rfl⟩, ⟨_, rfl, rfl⟩, rfl, rfl⟩)) (.idle (.refl _))))

/-! The Felis job had timed out before the call. -/

def felisDocument : Text :=
  ("\x7b\"inputDataFormat\":null,\"outputDataFormat\":null,\"target\":\"EMU\"," ++
    "\"inputParams\":null,\"id\":\"j\",\"userName\":\"\",\"userId\":\"\"," ++
    "\"organizationName\":\"\",\"events\":[\x7b\"type\":\"TIMED_OUT\"," ++
    "\"createdAt\":\"\"\x7d],\"errors\":[]\x7d").toList

def felisCodec : FelisCodec where
  readJob := readDocument felisDocument [.timedOut]

def felis : AliceBobFelis where
  config := ⟨"https://felis".toList, none, some ("u".toList, none)⟩

def felisTrace : List WebEvent :=
  [⟨.send (AliceBobFelis.authorized felis.config .get
      (AliceBobFelis.jobUrl felis.config ['j'])), response 200 "OK" felisDocument⟩,
    ⟨.send (AliceBobFelis.authorized felis.config .delete
      (AliceBobFelis.jobUrl felis.config ['j'])), response 409 "Conflict" []⟩]

theorem felis_reads :
    AliceBobFelis.readJobReply felisCodec (response 200 "OK" felisDocument) =
      .ok [.timedOut] :=
  readJson_document ..

theorem felis_executes :
    (AliceBobFelis.taskStop felisCodec ['j']).Executes felis felisTrace
      (.error (.other "response body: 409 Conflict ")) felis := by
  refine Method.executes_bind_iff.mpr
    (.inr ⟨[_], [_], .timedOut, felis, rfl, ?_, ?_⟩)
  · refine Method.executes_bind_iff.mpr
      (.inr ⟨[_], [], [.timedOut], felis, rfl, ?_, .done _⟩)
    refine executes_request_fetch_iff.mpr ⟨⟨_, rfl, ?_⟩, rfl⟩
    rw [felis_reads]
    rfl
  · refine Method.executes_bind_iff.mpr (.inl ⟨_, rfl, ?_⟩)
    exact executes_request_fetch_iff.mpr ⟨⟨_, rfl, rfl⟩, rfl⟩

theorem felis_races :
    (AliceBobFelis.jobService felisCodec felis.config ['j']).server.ExecutesAgainst
      ⟨.timedOut, false⟩ (AliceBobFelis.taskStop felisCodec ['j']) felis
      [⟨.timedOut, false⟩, ⟨.timedOut, false⟩] felisTrace
      (.error (.other "response body: 409 Conflict ")) felis
      ⟨.timedOut, false⟩ := by
  refine Server.Hosts.runsAgainst ?_ felis_executes
  exact .serve (.refl _) (.inl ⟨⟨rfl, rfl⟩, ⟨_, felis_reads, rfl⟩, rfl⟩)
    (.serve (.refl _) (.inr (.inr ⟨⟨rfl, rfl⟩, ⟨_, rfl, rfl⟩, rfl, rfl⟩))
      (.idle (.refl _)))

end LostRace

theorem taskStop_tolerates_iff_lost :
    ((Except.error (QrmiError.other
        "error in response: status code 403 Forbidden") = Except.ok () ∧
      (IQMServer.jobService LostRace.iqmCodec LostRace.iqm.config
        ['j']).Stopped ⟨.completed, false⟩) ↔
      ¬ (IQMServer.jobService LostRace.iqmCodec LostRace.iqm.config ['j']).Raced
        IQMServer.cancels
        [⟨.processing, false⟩, ⟨.processing, false⟩, ⟨.completed, false⟩]
        LostRace.iqmTrace) :=
  (taskStop_tolerates_iff LostRace.iqmCodec LostRace.iqm LostRace.computeCodec
    LostRace.compute LostRace.felisCodec LostRace.felis ['j']).1.2 _ _ _ _ _ _
      LostRace.iqm_races

/-- No vendor tolerates a job that ends before its cancellation arrives. -/
theorem exists_lost_race :
    ¬ (IQMServer.jobService LostRace.iqmCodec LostRace.iqm.config
        ['j']).Tolerates (IQMServer.taskStop LostRace.iqmCodec ['j'])
          LostRace.iqm ∧
    ¬ (IBMQuantumComputeService.jobService LostRace.computeCodec
        LostRace.compute.config.basePath ['j']).Tolerates
          (IBMQuantumComputeService.taskStop LostRace.computeCodec ['j'])
            LostRace.compute ∧
    ¬ (AliceBobFelis.jobService LostRace.felisCodec LostRace.felis.config
        ['j']).Tolerates (AliceBobFelis.taskStop LostRace.felisCodec ['j'])
          LostRace.felis := by
  refine ⟨fun tolerates => ?_, fun tolerates => ?_, fun tolerates => ?_⟩
  · cases (tolerates.2 _ _ _ _ _ _ LostRace.iqm_races).1
  · cases (tolerates.2 _ _ _ _ _ _ LostRace.compute_races).1
  · cases (tolerates.2 _ _ _ _ _ _ LostRace.felis_races).1
