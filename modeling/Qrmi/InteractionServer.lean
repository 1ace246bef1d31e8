import Mathlib.Data.List.Forall2
import Qrmi.InteractionMethod

/-!
# Running a program against a moving server

A remote service has a state of its own.  It answers questions in that state,
and it also moves by itself while nobody asks.  This file runs a question
program against such a service, records every server state that was current at
some instant of the run, and transports facts about single moves and answers to
whole runs.
-/

namespace Interaction

/-- A nondeterministic service: its spontaneous moves, and the answers it may
give together with the state reached by answering. -/
structure Server (Query : Type) (Answer : Query → Type) (World : Type) where
  moves : World → World → Prop
  serves : World → (query : Query) → Answer query → World → Prop

variable {Query : Type} {Answer : Query → Type} {World State Error α β : Type}

namespace Server

variable (server : Server Query Answer World)

/-- A sequence of spontaneous moves, with the states that were left. -/
inductive Drifts : World → List World → World → Prop
  | refl (world : World) : Drifts world [] world
  | move {world next final : World} {visited : List World}
      (moved : server.moves world next) (rest : Drifts next visited final) :
      Drifts world (world :: visited) final

/-- A complete run of a program against the server.  `visited` lists the states
that were left during the run, so `visited ++ [final]` are all states that were
current between its start and its end. -/
inductive RunsAgainst :
    World → Program Query Answer α → List World → List (Event Answer) → α →
      World → Prop
  | done {start final : World} {visited : List World} (value : α)
      (drift : server.Drifts start visited final) :
      RunsAgainst start (.done value) visited [] value final
  | ask {start current served final : World} {waited visited : List World}
      {query : Query} {next : Answer query → Program Query Answer α}
      {answer : Answer query} {trace : List (Event Answer)} {value : α}
      (drift : server.Drifts start waited current)
      (answered : server.serves current query answer served)
      (rest : RunsAgainst served (next answer) visited trace value final) :
      RunsAgainst start (.ask query next) (waited ++ current :: visited)
        (⟨query, answer⟩ :: trace) value final

variable {server}

/-- Forgetting the server leaves an ordinary run of the program. -/
theorem RunsAgainst.runs {start final : World} {visited : List World}
    {program : Program Query Answer α} {trace : List (Event Answer)}
    {value : α}
    (against : server.RunsAgainst start program visited trace value final) :
    program.Runs trace value := by
  induction against with
  | done value => exact .done value
  | ask _ _ _ ih => exact .ask ih

/-- The server can answer these questions in this way, whoever asks them. -/
inductive Hosts (server : Server Query Answer World) :
    World → List World → List (Event Answer) → World → Prop
  | idle {start final : World} {visited : List World}
      (drift : server.Drifts start visited final) :
      Hosts server start visited [] final
  | serve {start current served final : World} {waited visited : List World}
      {event : Event Answer} {trace : List (Event Answer)}
      (drift : server.Drifts start waited current)
      (answered : server.serves current event.1 event.2 served)
      (rest : Hosts server served visited trace final) :
      Hosts server start (waited ++ current :: visited) (event :: trace) final

/-- A run of a program whose questions the server can answer in this way is a
run against the server. -/
theorem Hosts.runsAgainst {start final : World} {visited : List World}
    {program : Program Query Answer α} {trace : List (Event Answer)}
    {value : α} (hosts : server.Hosts start visited trace final)
    (runs : program.Runs trace value) :
    server.RunsAgainst start program visited trace value final := by
  induction runs generalizing start visited with
  | done value =>
      cases hosts with
      | idle drift => exact .done value drift
  | ask _ ih =>
      cases hosts with
      | serve drift answered rest => exact .ask drift answered (ih rest)

section Order

variable {order : World → World → Prop}
variable (reflexive : ∀ world, order world world)
variable (transitive : ∀ {first second third},
  order first second → order second third → order first third)
variable (moves : ∀ {world next}, server.moves world next → order world next)

include reflexive transitive moves

/-- A preorder respected by every move orders the states of a drift. -/
theorem Drifts.ordered {start final : World} {visited : List World}
    (drift : server.Drifts start visited final) :
    (∀ world ∈ visited ++ [final], order start world) ∧
      (visited ++ [final]).Pairwise order := by
  induction drift with
  | refl world =>
      refine ⟨fun other member => ?_, List.pairwise_singleton _ _⟩
      rw [List.nil_append, List.mem_singleton] at member
      rw [member]
      exact reflexive world
  | move moved _ ih =>
      have forward := fun world member =>
        transitive (moves moved) (ih.1 world member)
      refine ⟨fun world member => ?_, List.pairwise_cons.mpr ⟨forward, ih.2⟩⟩
      rcases List.mem_cons.mp member with rfl | inRest
      · exact reflexive _
      · exact forward world inRest

/-- A preorder respected by every move and every answer orders the states of a
whole run. -/
theorem RunsAgainst.ordered
    (serves : ∀ {world query answer next},
      server.serves world query answer next → order world next)
    {start final : World} {visited : List World}
    {program : Program Query Answer α} {trace : List (Event Answer)}
    {value : α}
    (against : server.RunsAgainst start program visited trace value final) :
    (∀ world ∈ visited ++ [final], order start world) ∧
      (visited ++ [final]).Pairwise order := by
  induction against with
  | done value drift => exact drift.ordered reflexive transitive moves
  | ask drift answered _ ih =>
      obtain ⟨fromStart, onDrift⟩ := drift.ordered reflexive transitive moves
      obtain ⟨waitedOrdered, -, toCurrent⟩ := List.pairwise_append.mp onDrift
      have onward := fun world member =>
        transitive (serves answered) (ih.1 world member)
      rw [List.append_assoc, List.cons_append]
      constructor
      · intro world member
        rcases List.mem_append.mp member with inWaited | inRest
        · exact fromStart world (List.mem_append_left _ inWaited)
        · have reached := fromStart _ (List.mem_append_right _
            (List.mem_singleton_self _))
          rcases List.mem_cons.mp inRest with rfl | later
          · exact reached
          · exact transitive reached (onward world later)
      · refine List.pairwise_append.mpr ⟨waitedOrdered,
          List.pairwise_cons.mpr ⟨onward, ih.2⟩, fun world inWaited later inRest => ?_⟩
        have reached := toCurrent world inWaited _ (List.mem_singleton_self _)
        rcases List.mem_cons.mp inRest with rfl | inTail
        · exact reached
        · exact transitive reached (onward later inTail)

/-- The state that an answer left behind precedes the end of the run. -/
theorem RunsAgainst.exists_outcome
    (serves : ∀ {world query answer next},
      server.serves world query answer next → order world next)
    {start final : World} {visited : List World}
    {program : Program Query Answer α} {trace : List (Event Answer)}
    {value : α} {event : Event Answer}
    (against : server.RunsAgainst start program visited trace value final)
    (member : event ∈ trace) :
    ∃ world ∈ visited, ∃ next, server.serves world event.1 event.2 next ∧
      order next final := by
  induction against with
  | done value drift => cases member
  | ask drift answered rest ih =>
      rcases List.mem_cons.mp member with rfl | inRest
      · have onward := (rest.ordered reflexive transitive moves serves).1
        exact ⟨_, List.mem_append_right _ (List.mem_cons_self ..), _, answered,
          onward _ (List.mem_append_right _ (List.mem_singleton_self _))⟩
      · obtain ⟨world, inVisited, next, served, before⟩ := ih inRest
        exact ⟨world, List.mem_append_right _
          (List.mem_cons_of_mem _ inVisited), next, served, before⟩

end Order

/-- The instants at which the questions of a run were answered, in order. -/
theorem RunsAgainst.exists_instants {start final : World} {visited : List World}
    {program : Program Query Answer α} {trace : List (Event Answer)}
    {value : α}
    (against : server.RunsAgainst start program visited trace value final) :
    ∃ instants, instants.Sublist visited ∧
      List.Forall₂ (fun event world =>
        ∃ next, server.serves world event.1 event.2 next) trace instants := by
  induction against with
  | done value drift => exact ⟨[], List.nil_sublist _, .nil⟩
  | ask drift answered _ ih =>
      obtain ⟨instants, contained, served⟩ := ih
      refine ⟨_ :: instants, ?_, .cons ⟨_, answered⟩ served⟩
      exact (contained.cons_cons _).trans (List.sublist_append_right _ _)

theorem RunsAgainst.hosts {start final : World} {visited : List World}
    {program : Program Query Answer α} {trace : List (Event Answer)}
    {value : α}
    (against : server.RunsAgainst start program visited trace value final) :
    server.Hosts start visited trace final := by
  induction against with
  | done value drift => exact .idle drift
  | ask drift answered _ ih => exact .serve drift answered ih

/-- Every question was answered in a state of the server. -/
theorem Hosts.exists_served {start final : World} {visited : List World}
    {trace : List (Event Answer)} {event : Event Answer}
    (hosts : server.Hosts start visited trace final) (member : event ∈ trace) :
    ∃ world ∈ visited, ∃ next, server.serves world event.1 event.2 next := by
  induction hosts with
  | idle drift => cases member
  | serve drift answered _ ih =>
      rcases List.mem_cons.mp member with rfl | inRest
      · exact ⟨_, List.mem_append_right _ (List.mem_cons_self ..), _, answered⟩
      · obtain ⟨world, inVisited, served⟩ := ih inRest
        exact ⟨world, List.mem_append_right _
          (List.mem_cons_of_mem _ inVisited), served⟩

/-- After the last answer the server only moves by itself. -/
theorem Hosts.exists_last {start final : World} {visited : List World}
    {earlier : List (Event Answer)} {last : Event Answer}
    (hosts : server.Hosts start visited (earlier ++ [last]) final) :
    ∃ world ∈ visited, ∃ next drifted,
      server.serves world last.1 last.2 next ∧ server.Drifts next drifted final := by
  induction earlier generalizing start visited with
  | nil =>
      cases hosts with
      | serve waiting answered rest =>
          cases rest with
          | idle drift =>
              exact ⟨_, List.mem_append_right _ (List.mem_cons_self ..), _, _,
                answered, drift⟩
  | cons event earlier ih =>
      cases hosts with
      | serve waiting answered rest =>
          obtain ⟨world, inVisited, next, drifted, served, drift⟩ := ih rest
          exact ⟨world, List.mem_append_right _
            (List.mem_cons_of_mem _ inVisited), next, drifted, served, drift⟩

/-- Every question of a run was answered in a state of it. -/
theorem RunsAgainst.exists_served {start final : World} {visited : List World}
    {program : Program Query Answer α} {trace : List (Event Answer)}
    {value : α} {event : Event Answer}
    (against : server.RunsAgainst start program visited trace value final)
    (member : event ∈ trace) :
    ∃ world ∈ visited, ∃ next, server.serves world event.1 event.2 next :=
  against.hosts.exists_served member

theorem Drifts.start_mem {start final : World} {visited : List World}
    (drift : server.Drifts start visited final) : start ∈ visited ++ [final] := by
  cases drift with
  | refl => exact List.mem_singleton_self _
  | move moved rest => exact List.mem_cons_self ..

/-- A run begins in the first of its states. -/
theorem RunsAgainst.start_mem {start final : World} {visited : List World}
    {program : Program Query Answer α} {trace : List (Event Answer)}
    {value : α}
    (against : server.RunsAgainst start program visited trace value final) :
    start ∈ visited ++ [final] := by
  cases against with
  | done value drift => exact drift.start_mem
  | ask drift answered rest =>
      rcases List.mem_append.mp drift.start_mem with inWaited | current
      · simp [inWaited]
      · rw [List.mem_singleton.mp current]
        simp

/-- A drift that leaves a set of states leaves it by one move. -/
theorem Drifts.exists_crossing (inside : World → Prop) {start final : World}
    {visited : List World} (drift : server.Drifts start visited final)
    (begins : inside start) {world : World} (member : world ∈ visited ++ [final])
    (outside : ¬ inside world) :
    ∃ last ∈ visited, ∃ next, inside last ∧ ¬ inside next ∧
      server.moves last next := by
  induction drift with
  | refl start =>
      rw [List.nil_append, List.mem_singleton] at member
      rw [member] at outside
      exact (outside begins).elim
  | @move here next final visited moved _ ih =>
      by_cases stays : inside next
      · have later : world ∈ visited ++ [final] := by
          rcases List.mem_cons.mp member with rfl | later
          · exact (outside begins).elim
          · exact later
        obtain ⟨last, inVisited, crossing⟩ := ih stays later
        exact ⟨last, List.mem_cons_of_mem _ inVisited, crossing⟩
      · exact ⟨here, List.mem_cons_self .., next, begins, stays, moved⟩

/-- A run that leaves a set of states leaves it by one move or by one answer. -/
theorem RunsAgainst.exists_crossing (inside : World → Prop)
    {start final : World} {visited : List World}
    {program : Program Query Answer α} {trace : List (Event Answer)}
    {value : α}
    (against : server.RunsAgainst start program visited trace value final)
    (begins : inside start) {world : World} (member : world ∈ visited ++ [final])
    (outside : ¬ inside world) :
    ∃ last ∈ visited, ∃ next, inside last ∧ ¬ inside next ∧
      (server.moves last next ∨
        ∃ query answer, server.serves last query answer next) := by
  induction against with
  | done value drift =>
      obtain ⟨last, inVisited, next, stays, leaves, moved⟩ :=
        drift.exists_crossing inside begins member outside
      exact ⟨last, inVisited, next, stays, leaves, .inl moved⟩
  | @ask start current served final waited visited query _ answer _ _ drift
      answered _ ih =>
      by_cases early : ∃ other ∈ waited ++ [current], ¬ inside other
      · obtain ⟨other, inDrift, leaves⟩ := early
        obtain ⟨last, inWaited, next, stays, leaves, moved⟩ :=
          drift.exists_crossing inside begins inDrift leaves
        exact ⟨last, List.mem_append_left _ inWaited, next, stays, leaves,
          .inl moved⟩
      · push Not at early
        have here : inside current := early current (by simp)
        by_cases stays : inside served
        · have later : world ∈ visited ++ [final] := by
            rw [List.append_assoc, List.cons_append] at member
            rcases List.mem_append.mp member with inWaited | inRest
            · exact (outside (early world (by simp [inWaited]))).elim
            · rcases List.mem_cons.mp inRest with rfl | later
              · exact (outside here).elim
              · exact later
          obtain ⟨last, inVisited, crossing⟩ := ih stays later
          exact ⟨last, List.mem_append_right _
            (List.mem_cons_of_mem _ inVisited), crossing⟩
        · exact ⟨current, List.mem_append_right _ (List.mem_cons_self ..),
            served, here, stays, .inr ⟨query, answer, answered⟩⟩

/-- What every spontaneous move keeps is kept by a drift. -/
theorem Drifts.preserves {Measure : Type} (measure : World → Measure)
    (moves : ∀ {world next}, server.moves world next →
      measure next = measure world)
    {start final : World} {visited : List World}
    (drift : server.Drifts start visited final) :
    measure final = measure start := by
  induction drift with
  | refl world => rfl
  | move moved _ ih => exact ih.trans (moves moved)

/-- What every spontaneous move and every harmless answer keeps is kept by a
run all of whose events are harmless. -/
theorem RunsAgainst.preserves {Measure : Type} (measure : World → Measure)
    (harmless : Event Answer → Prop)
    (moves : ∀ {world next}, server.moves world next →
      measure next = measure world)
    (serves : ∀ {world query answer next},
      server.serves world query answer next → harmless ⟨query, answer⟩ →
        measure next = measure world)
    {start final : World} {visited : List World}
    {program : Program Query Answer α} {trace : List (Event Answer)}
    {value : α}
    (against : server.RunsAgainst start program visited trace value final)
    (allHarmless : ∀ event ∈ trace, harmless event) :
    measure final = measure start := by
  induction against with
  | done value drift => exact drift.preserves measure moves
  | ask drift answered _ ih =>
      have rest := ih fun event member =>
        allHarmless event (List.mem_cons_of_mem _ member)
      have served := serves answered (allHarmless _ (List.mem_cons_self ..))
      exact rest.trans (served.trans (drift.preserves measure moves))

/-- An execution of a method against the server. -/
def ExecutesAgainst (server : Server Query Answer World) (start : World)
    (method : Method Query Answer State Error α) (before : State)
    (visited : List World) (trace : List (Event Answer))
    (result : Except Error α) (after : State) (final : World) : Prop :=
  server.RunsAgainst start (method before) visited trace (result, after) final

theorem ExecutesAgainst.executes {start final : World}
    {method : Method Query Answer State Error α} {before after : State}
    {visited : List World} {trace : List (Event Answer)}
    {result : Except Error α}
    (against : server.ExecutesAgainst start method before visited trace result
      after final) :
    method.Executes before trace result after :=
  RunsAgainst.runs against

end Server

end Interaction
