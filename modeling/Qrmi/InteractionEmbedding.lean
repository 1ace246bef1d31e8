import Qrmi.InteractionAssertion

/-!
# Programs that ask questions of two kinds

A component that is written for one kind of questions may be part of a program that also
asks questions of another kind.  Its runs, and what it secures against a server that
answers both, are those that it has by itself.
-/

namespace Interaction

variable {Query Extra : Type} {Answer : Query → Type} {ExtraAnswer : Extra → Type}
variable {World State Error α β : Type}

/-- The answers to the questions of two kinds. -/
abbrev EitherAnswer (Answer : Query → Type) (ExtraAnswer : Extra → Type) :
    Query ⊕ Extra → Type
  | .inl query => Answer query
  | .inr query => ExtraAnswer query

/-- An event of the first kind. -/
def Event.inl (event : Event Answer) : Event (EitherAnswer Answer ExtraAnswer) :=
  ⟨.inl event.1, event.2⟩

namespace Program

/-- The program among others. -/
def inl : Program Query Answer α → Program (Query ⊕ Extra) (EitherAnswer Answer ExtraAnswer) α
  | done value => done value
  | ask query next => ask (.inl query) fun answer => (next answer).inl
  | pending => pending

theorem runs_inl_iff {program : Program Query Answer α}
    {trace : List (Event (EitherAnswer Answer ExtraAnswer))} {value : α} :
    program.inl.Runs trace value ↔
      ∃ own, trace = own.map Event.inl ∧ program.Runs own value := by
  induction program generalizing trace with
  | done result =>
      rw [inl, runs_done_iff]
      constructor
      · rintro ⟨rfl, rfl⟩
        exact ⟨[], rfl, .done _⟩
      · rintro ⟨own, rfl, runs⟩
        obtain ⟨rfl, rfl⟩ := runs_done_iff.mp runs
        exact ⟨rfl, rfl⟩
  | pending => simp [inl]
  | ask query next ih =>
      rw [inl, runs_ask_iff]
      constructor
      · rintro ⟨answer, rest, rfl, runs⟩
        obtain ⟨own, rfl, ran⟩ := (ih answer).mp runs
        exact ⟨⟨query, answer⟩ :: own, rfl, .ask ran⟩
      · rintro ⟨own, rfl, runs⟩
        obtain ⟨answer, rest, rfl, ran⟩ := runs_ask_iff.mp runs
        exact ⟨answer, rest.map Event.inl, rfl, (ih answer).mpr ⟨rest, rfl, ran⟩⟩

end Program

/-- The method among others. -/
def Method.inl (method : Method Query Answer State Error α) :
    Method (Query ⊕ Extra) (EitherAnswer Answer ExtraAnswer) State Error α :=
  fun state => (method state).inl

theorem Method.executes_inl_iff {method : Method Query Answer State Error α}
    {before after : State} {trace : List (Event (EitherAnswer Answer ExtraAnswer))}
    {result : Except Error α} :
    method.inl.Executes before trace result after ↔
      ∃ own, trace = own.map Event.inl ∧ method.Executes before own result after :=
  Program.runs_inl_iff

theorem Method.StaysWithin.inl {Kept : Type} {allowed : Event Answer → Prop}
    {read : State → Kept} {method : Method Query Answer State Error α}
    (stays : StaysWithin allowed read method) : StaysWithin
      (fun event : Event (EitherAnswer Answer ExtraAnswer) =>
        ∀ own : Event Answer, event = own.inl → allowed own) read method.inl := by
  intro before trace result after executes
  obtain ⟨own, rfl, ran⟩ := Method.executes_inl_iff.mp executes
  obtain ⟨each, same⟩ := stays _ _ _ _ ran
  refine ⟨fun event member other equal => ?_, same⟩
  obtain ⟨event, isOwn, rfl⟩ := List.mem_map.mp member
  obtain ⟨query, answer⟩ := event
  obtain ⟨otherQuery, otherAnswer⟩ := other
  cases equal
  exact each _ isOwn

namespace Server

/-- What a server does for the questions of the first kind. -/
def left (server : Server (Query ⊕ Extra) (EitherAnswer Answer ExtraAnswer) World) :
    Server Query Answer World where
  moves := server.moves
  serves world query answer next := server.serves world (.inl query) answer next

variable {server : Server (Query ⊕ Extra) (EitherAnswer Answer ExtraAnswer) World}

theorem Drifts.left {start final : World} {visited : List World}
    (drift : server.Drifts start visited final) : server.left.Drifts start visited final := by
  induction drift with
  | refl world => exact .refl world
  | move moved _ ih => exact .move moved ih

theorem Hosts.left {start final : World} {visited : List World} {own : List (Event Answer)}
    (hosts : server.Hosts start visited (own.map Event.inl) final) :
    server.left.Hosts start visited own final := by
  induction own generalizing start visited with
  | nil =>
      cases hosts with
      | idle drift => exact .idle drift.left
  | cons event own ih =>
      cases hosts with
      | serve drift answered rest => exact .serve drift.left answered (ih rest)

/-- An assertion for the questions of the first kind. -/
def Assertion.left (assertion : server.Assertion State) : server.left.Assertion State where
  holds := assertion.holds
  stable moved holds := assertion.stable moved holds

/-- What a component secures by itself it secures among others. -/
theorem Secures.inl {pre : server.Assertion State} {method : Method Query Answer State Error β}
    {post : Except Error β → server.Assertion State}
    (secures : Secures pre.left method fun result => (post result).left) :
    Secures pre method.inl post := by
  intro before after start final trace visited result executes hosts holds
  obtain ⟨own, rfl, ran⟩ := Method.executes_inl_iff.mp executes
  exact secures ran hosts.left holds

end Server

end Interaction
