import Qrmi.InteractionProgram

/-!
# Methods with local state and errors

A method of a client object runs a question program on the object's state and
either returns a value or fails.  A failing method keeps the state changes made
before the failure, as a mutable receiver does.  The execution lemmas below
take a method apart along its definition.
-/

namespace Interaction

/-- A fallible method on an object with mutable state. -/
def Method (Query : Type) (Answer : Query → Type) (State Error α : Type) :
    Type :=
  State → Program Query Answer (Except Error α × State)

namespace Method

variable {Query : Type} {Answer : Query → Type}
variable {State Part Error Failure α β : Type}

instance : Monad (Method Query Answer State Error) where
  pure value := fun state => .done (.ok value, state)
  bind method next := fun state =>
    (method state).bind fun outcome =>
      match outcome.1 with
      | .ok value => next value outcome.2
      | .error error => .done (.error error, outcome.2)

/-- Fail without changing the state. -/
def throw (error : Error) : Method Query Answer State Error α :=
  fun state => .done (.error error, state)

/-- The current state. -/
def self : Method Query Answer State Error State :=
  fun state => .done (.ok state, state)

/-- Change the state. -/
def modify (change : State → State) : Method Query Answer State Error Unit :=
  fun state => .done (.ok (), change state)

/-- Run a stateless program that cannot fail. -/
def lift (program : Program Query Answer α) :
    Method Query Answer State Error α :=
  fun state => program.bind fun value => .done (.ok value, state)

/-- Return the outcome of a method as a value, so that the caller can inspect
its failure. -/
def attempt (method : Method Query Answer State Error α) :
    Method Query Answer State Failure (Except Error α) :=
  fun state => (method state).bind fun outcome => .done (.ok outcome.1, outcome.2)

/-- Continue with an already known outcome. -/
def ofExcept (outcome : Except Error α) : Method Query Answer State Error α :=
  fun state => .done (outcome, state)

/-- Run a method of one part of the state. -/
def zoom (read : State → Part) (write : State → Part → State)
    (method : Method Query Answer Part Error α) :
    Method Query Answer State Error α :=
  fun state => (method (read state)).bind fun outcome =>
    .done (outcome.1, write state outcome.2)

/-- A complete execution of a method between two states of its receiver. -/
def Executes (method : Method Query Answer State Error α) (before : State)
    (trace : List (Event Answer)) (result : Except Error α) (after : State) :
    Prop :=
  (method before).Runs trace (result, after)

variable {before after : State} {trace : List (Event Answer)}

@[simp]
theorem executes_pure_iff {value : α} {result : Except Error α} :
    (pure value : Method Query Answer State Error α).Executes
        before trace result after ↔
      trace = [] ∧ result = .ok value ∧ after = before := by
  change (Program.done _ : Program Query Answer _).Runs _ _ ↔ _
  rw [Program.runs_done_iff, Prod.mk.injEq]

@[simp]
theorem executes_throw_iff {error : Error} {result : Except Error α} :
    (throw error : Method Query Answer State Error α).Executes
        before trace result after ↔
      trace = [] ∧ result = .error error ∧ after = before := by
  change (Program.done _ : Program Query Answer _).Runs _ _ ↔ _
  rw [Program.runs_done_iff, Prod.mk.injEq]

@[simp]
theorem executes_self_iff {result : Except Error State} :
    (self : Method Query Answer State Error State).Executes
        before trace result after ↔
      trace = [] ∧ result = .ok before ∧ after = before := by
  change (Program.done _ : Program Query Answer _).Runs _ _ ↔ _
  rw [Program.runs_done_iff, Prod.mk.injEq]

@[simp]
theorem executes_modify_iff {change : State → State}
    {result : Except Error Unit} :
    (modify change : Method Query Answer State Error Unit).Executes
        before trace result after ↔
      trace = [] ∧ result = .ok () ∧ after = change before := by
  change (Program.done _ : Program Query Answer _).Runs _ _ ↔ _
  rw [Program.runs_done_iff, Prod.mk.injEq]

@[simp]
theorem executes_ofExcept_iff {outcome result : Except Error α} :
    (ofExcept outcome : Method Query Answer State Error α).Executes
        before trace result after ↔
      trace = [] ∧ result = outcome ∧ after = before := by
  change (Program.done _ : Program Query Answer _).Runs _ _ ↔ _
  rw [Program.runs_done_iff, Prod.mk.injEq]

@[simp]
theorem executes_lift_iff {program : Program Query Answer α}
    {result : Except Error α} :
    (lift program : Method Query Answer State Error α).Executes
        before trace result after ↔
      ∃ value, program.Runs trace value ∧ result = .ok value ∧
        after = before := by
  change (program >>= fun value => Program.done (.ok value, before)).Runs
    trace (result, after) ↔ _
  simp only [Program.runs_bind_iff, Program.runs_done_iff, Prod.mk.injEq]
  constructor
  · rintro ⟨first, second, value, rfl, runs, rfl, rfl, rfl⟩
    exact ⟨value, by simpa using runs, rfl, rfl⟩
  · rintro ⟨value, runs, rfl, rfl⟩
    exact ⟨trace, [], value, by simp, runs, rfl, rfl, rfl⟩

/-- Executions of an attempted method are those of the method itself, with the
outcome handed to the caller. -/
@[simp]
theorem executes_attempt_iff {method : Method Query Answer State Error α}
    {result : Except Failure (Except Error α)} :
    (attempt method : Method Query Answer State Failure _).Executes
        before trace result after ↔
      ∃ outcome, result = .ok outcome ∧
        method.Executes before trace outcome after := by
  change (method before >>= fun outcome : Except Error α × State =>
    Program.done (.ok outcome.1, outcome.2)).Runs trace (result, after) ↔ _
  simp only [Program.runs_bind_iff, Program.runs_done_iff, Prod.mk.injEq]
  constructor
  · rintro ⟨first, second, ⟨outcome, state⟩, rfl, runs, rfl, rfl, rfl⟩
    exact ⟨outcome, rfl, by simpa [Executes] using runs⟩
  · rintro ⟨outcome, rfl, runs⟩
    exact ⟨trace, [], (outcome, after), by simp, runs, rfl, rfl, rfl⟩

@[simp]
theorem executes_zoom_iff {read : State → Part} {write : State → Part → State}
    {method : Method Query Answer Part Error α} {result : Except Error α} :
    (zoom read write method).Executes before trace result after ↔
      ∃ part, after = write before part ∧
        method.Executes (read before) trace result part := by
  change (method (read before) >>= fun outcome : Except Error α × Part =>
    Program.done (outcome.1, write before outcome.2)).Runs
      trace (result, after) ↔ _
  simp only [Program.runs_bind_iff, Program.runs_done_iff, Prod.mk.injEq]
  constructor
  · rintro ⟨first, second, ⟨outcome, part⟩, rfl, runs, rfl, rfl, rfl⟩
    exact ⟨part, rfl, by simpa [Executes] using runs⟩
  · rintro ⟨part, rfl, runs⟩
    exact ⟨trace, [], (result, part), by simp, runs, rfl, rfl, rfl⟩

/-- A composition either stops at the failure of its first method or continues
from the value that it returned. -/
theorem executes_bind_iff {method : Method Query Answer State Error α}
    {next : α → Method Query Answer State Error β} {result : Except Error β} :
    (method >>= next).Executes before trace result after ↔
      (∃ error, result = .error error ∧
        method.Executes before trace (.error error) after) ∨
      ∃ first second value middle, trace = first ++ second ∧
        method.Executes before first (.ok value) middle ∧
        (next value).Executes middle second result after := by
  change (method before >>= fun outcome : Except Error α × State =>
    match outcome.1 with
    | .ok value => next value outcome.2
    | .error error => .done (.error error, outcome.2)).Runs
      trace (result, after) ↔ _
  rw [Program.runs_bind_iff]
  constructor
  · rintro ⟨first, second, ⟨outcome, middle⟩, rfl, firstRuns, secondRuns⟩
    cases outcome with
    | error error =>
        obtain ⟨rfl, equal⟩ := Program.runs_done_iff.mp secondRuns
        obtain ⟨rfl, rfl⟩ := Prod.mk.inj equal
        exact .inl ⟨error, rfl, by simpa [Executes] using firstRuns⟩
    | ok value =>
        exact .inr ⟨first, second, value, middle, rfl, firstRuns, secondRuns⟩
  · rintro (⟨error, rfl, runs⟩ |
      ⟨first, second, value, middle, rfl, firstRuns, secondRuns⟩)
    · exact ⟨trace, [], (.error error, after), by simp, runs,
        Program.Runs.done _⟩
    · exact ⟨first, second, (.ok value, middle), rfl, firstRuns, secondRuns⟩

/-- A method whose first step is known to be silent and successful executes as
its continuation does. -/
theorem executes_bind_of_silent {method : Method Query Answer State Error α}
    {next : α → Method Query Answer State Error β} {result : Except Error β}
    {value : α}
    (silent : ∀ trace outcome after,
      method.Executes before trace outcome after ↔
        trace = [] ∧ outcome = .ok value ∧ after = before) :
    (method >>= next).Executes before trace result after ↔
      (next value).Executes before trace result after := by
  rw [executes_bind_iff]
  constructor
  · rintro (⟨error, rfl, failed⟩ | ⟨first, second, _, _, rfl, ran, rest⟩)
    · simp [silent] at failed
    · obtain ⟨rfl, equal, rfl⟩ := (silent _ _ _).mp ran
      cases equal
      exact rest
  · intro rest
    exact .inr ⟨[], trace, value, before, rfl,
      (silent _ _ _).mpr ⟨rfl, rfl, rfl⟩, rest⟩

@[simp]
theorem executes_self_bind_iff {next : State → Method Query Answer State Error β}
    {result : Except Error β} :
    (self >>= next).Executes before trace result after ↔
      (next before).Executes before trace result after :=
  executes_bind_of_silent fun _ _ _ => executes_self_iff

/-- A method that begins by changing its state. -/
theorem executes_modify_bind_iff {change : State → State}
    {next : Unit → Method Query Answer State Error β} {result : Except Error β} :
    (modify change >>= next).Executes before trace result after ↔
      (next ()).Executes (change before) trace result after := by
  rw [executes_bind_iff]
  constructor
  · rintro (⟨error, rfl, failed⟩ | ⟨first, second, _, _, rfl, changed, rest⟩)
    · cases (executes_modify_iff.mp failed).2.1
    · obtain ⟨rfl, -, rfl⟩ := executes_modify_iff.mp changed
      exact rest
  · intro rest
    exact .inr ⟨[], trace, (), change before, rfl,
      executes_modify_iff.mpr ⟨rfl, rfl, rfl⟩, rest⟩

@[simp]
theorem executes_ofExcept_bind_ok_iff {value : α}
    {next : α → Method Query Answer State Error β} {result : Except Error β} :
    (ofExcept (.ok value) >>= next).Executes before trace result after ↔
      (next value).Executes before trace result after :=
  executes_bind_of_silent fun _ _ _ => executes_ofExcept_iff

@[simp]
theorem executes_ofExcept_bind_error_iff {error : Error}
    {next : α → Method Query Answer State Error β} {result : Except Error β} :
    (ofExcept (.error error) >>= next).Executes before trace result after ↔
      trace = [] ∧ result = .error error ∧ after = before := by
  rw [executes_bind_iff]
  constructor
  · rintro (⟨_, rfl, failed⟩ | ⟨first, second, _, _, rfl, ran, -⟩)
    · obtain ⟨rfl, equal, rfl⟩ := executes_ofExcept_iff.mp failed
      cases equal
      exact ⟨rfl, rfl, rfl⟩
    · simp at ran
  · rintro ⟨rfl, rfl, rfl⟩
    exact .inl ⟨error, rfl, by simp⟩

/-- A method that begins with a question. -/
theorem executes_question_bind_iff {query : Query}
    {next : Answer query → Method Query Answer State Error β}
    {result : Except Error β} :
    (lift (Program.question query) >>= next).Executes before trace result after ↔
      ∃ answer rest, trace = ⟨query, answer⟩ :: rest ∧
        (next answer).Executes before rest result after := by
  rw [executes_bind_iff]
  constructor
  · rintro (⟨error, rfl, failed⟩ | ⟨first, rest, answer, middle, rfl, asked, continued⟩)
    · obtain ⟨_, -, impossible, -⟩ := executes_lift_iff.mp failed
      cases impossible
    · obtain ⟨_, runs, equal, rfl⟩ := executes_lift_iff.mp asked
      cases equal
      obtain rfl := Program.runs_question_iff.mp runs
      exact ⟨answer, rest, rfl, continued⟩
  · rintro ⟨answer, rest, rfl, continued⟩
    exact .inr ⟨[⟨query, answer⟩], rest, answer, before, rfl,
      executes_lift_iff.mpr ⟨answer, Program.runs_question_iff.mpr rfl, rfl, rfl⟩,
      continued⟩

/-- The events after which a method is cut off without a result. -/
def Stalls (method : Method Query Answer State Error α) (before : State)
    (trace : List (Event Answer)) : Prop :=
  (method before).Exhausts trace

/-- A composition is cut off in its first method, or in the one that continues
from the value returned. -/
theorem stalls_bind_iff {method : Method Query Answer State Error α}
    {next : α → Method Query Answer State Error β} :
    (method >>= next).Stalls before trace ↔
      method.Stalls before trace ∨
      ∃ first second value middle, trace = first ++ second ∧
        method.Executes before first (.ok value) middle ∧
        (next value).Stalls middle second := by
  change (method before >>= fun outcome : Except Error α × State =>
    match outcome.1 with
    | .ok value => next value outcome.2
    | .error error => .done (.error error, outcome.2)).Exhausts trace ↔ _
  rw [Program.exhausts_bind_iff]
  refine or_congr_right ⟨?_, ?_⟩
  · rintro ⟨first, second, ⟨outcome, middle⟩, rfl, runs, stalls⟩
    cases outcome with
    | error error => exact absurd stalls Program.not_exhausts_done
    | ok value => exact ⟨first, second, value, middle, rfl, runs, stalls⟩
  · rintro ⟨first, second, value, middle, rfl, runs, stalls⟩
    exact ⟨first, second, (.ok value, middle), rfl, runs, stalls⟩

/-- A method that always returns. -/
def Returns (method : Method Query Answer State Error α) : Prop :=
  ∀ before trace, ¬ method.Stalls before trace

theorem returns_pure (value : α) :
    (pure value : Method Query Answer State Error α).Returns :=
  fun _ _ => Program.not_exhausts_done

theorem returns_self : (self : Method Query Answer State Error State).Returns :=
  fun _ _ => Program.not_exhausts_done

theorem returns_modify (change : State → State) :
    (modify change : Method Query Answer State Error Unit).Returns :=
  fun _ _ => Program.not_exhausts_done

theorem returns_ofExcept (outcome : Except Error α) :
    (ofExcept outcome : Method Query Answer State Error α).Returns :=
  fun _ _ => Program.not_exhausts_done

theorem returns_lift {program : Program Query Answer α} (total : program.Total) :
    (lift program : Method Query Answer State Error α).Returns := by
  intro before
  have returning : ∀ value : α,
      (Program.done (.ok value, before) :
        Program Query Answer (Except Error α × State)).Total :=
    fun _ => Program.total_pure _
  exact total.bind returning

theorem returns_throw (error : Error) :
    (throw error : Method Query Answer State Error α).Returns :=
  fun _ _ => Program.not_exhausts_done

theorem Returns.attempt {method : Method Query Answer State Error α}
    (returns : method.Returns) :
    (attempt method : Method Query Answer State Failure _).Returns := by
  intro before trace stalls
  rcases Program.exhausts_bind_iff.mp stalls with inMethod | ⟨_, _, _, _, _, inDone⟩
  · exact returns before trace inMethod
  · exact Program.not_exhausts_done inDone

theorem Returns.zoom {read : State → Part} {write : State → Part → State}
    {method : Method Query Answer Part Error α} (returns : method.Returns) :
    (zoom read write method).Returns := by
  intro before trace stalls
  rcases Program.exhausts_bind_iff.mp stalls with inMethod | ⟨_, _, _, _, _, inDone⟩
  · exact returns (read before) trace inMethod
  · exact Program.not_exhausts_done inDone

theorem Returns.bind {method : Method Query Answer State Error α}
    {next : α → Method Query Answer State Error β} (first : method.Returns)
    (second : ∀ value, (next value).Returns) : (method >>= next).Returns := by
  intro before trace stalls
  rcases stalls_bind_iff.mp stalls with inFirst |
    ⟨_, rest, value, middle, -, -, inSecond⟩
  · exact first before trace inFirst
  · exact second value middle rest inSecond

/-- Every event of every execution satisfies a predicate. -/
def Emits (method : Method Query Answer State Error α)
    (allowed : Event Answer → Prop) : Prop :=
  ∀ state, (method state).Emits allowed

theorem Emits.event_of_executes {method : Method Query Answer State Error α}
    {allowed : Event Answer → Prop} {result : Except Error α}
    (emits : method.Emits allowed)
    (executes : method.Executes before trace result after) :
    ∀ event ∈ trace, allowed event :=
  emits before trace _ executes

theorem Emits.mono {method : Method Query Answer State Error α}
    {allowed wider : Event Answer → Prop} (emits : method.Emits allowed)
    (widens : ∀ event, allowed event → wider event) : method.Emits wider :=
  fun state trace outcome runs event member =>
    widens event (emits state trace outcome runs event member)

theorem emits_silent {method : Method Query Answer State Error α}
    {allowed : Event Answer → Prop}
    (silent : ∀ before trace result after,
      method.Executes before trace result after → trace = []) :
    method.Emits allowed := by
  rintro state trace ⟨result, after⟩ runs event member
  rw [silent _ _ _ _ runs] at member
  simp at member

section Emission

variable {allowed : Event Answer → Prop}

theorem emits_pure (value : α) :
    (pure value : Method Query Answer State Error α).Emits allowed :=
  emits_silent fun _ _ _ _ executes => (executes_pure_iff.mp executes).1

theorem emits_throw (error : Error) :
    (throw error : Method Query Answer State Error α).Emits allowed :=
  emits_silent fun _ _ _ _ executes => (executes_throw_iff.mp executes).1

theorem emits_self :
    (self : Method Query Answer State Error State).Emits allowed :=
  emits_silent fun _ _ _ _ executes => (executes_self_iff.mp executes).1

theorem emits_modify (change : State → State) :
    (modify change : Method Query Answer State Error Unit).Emits allowed :=
  emits_silent fun _ _ _ _ executes => (executes_modify_iff.mp executes).1

theorem emits_ofExcept (outcome : Except Error α) :
    (ofExcept outcome : Method Query Answer State Error α).Emits allowed :=
  emits_silent fun _ _ _ _ executes => (executes_ofExcept_iff.mp executes).1

theorem emits_lift {program : Program Query Answer α}
    (emits : program.Emits allowed) :
    (lift program : Method Query Answer State Error α).Emits allowed := by
  rintro state trace ⟨result, after⟩ runs
  obtain ⟨value, programRuns, -, -⟩ := executes_lift_iff.mp runs
  exact emits trace value programRuns

theorem Emits.attempt {method : Method Query Answer State Error α}
    (emits : method.Emits allowed) :
    (method.attempt : Method Query Answer State Failure _).Emits allowed := by
  rintro state trace ⟨result, after⟩ runs
  obtain ⟨outcome, -, methodRuns⟩ := executes_attempt_iff.mp runs
  exact emits.event_of_executes methodRuns

theorem Emits.zoom {read : State → Part} {write : State → Part → State}
    {method : Method Query Answer Part Error α}
    (emits : method.Emits allowed) :
    (zoom read write method).Emits allowed := by
  rintro state trace ⟨result, after⟩ runs
  obtain ⟨part, -, methodRuns⟩ := executes_zoom_iff.mp runs
  exact emits.event_of_executes methodRuns

end Emission

theorem Emits.bind {method : Method Query Answer State Error α}
    {next : α → Method Query Answer State Error β}
    {allowed : Event Answer → Prop}
    (first : method.Emits allowed)
    (second : ∀ value, (next value).Emits allowed) :
    (method >>= next).Emits allowed := by
  rintro state trace ⟨result, after⟩ runs event member
  rcases executes_bind_iff.mp runs with ⟨error, rfl, failed⟩ |
    ⟨before, rest, value, middle, rfl, ran, continued⟩
  · exact first.event_of_executes failed event member
  · rcases List.mem_append.mp member with inFirst | inRest
    · exact first.event_of_executes ran event inFirst
    · exact (second value).event_of_executes continued event inRest

/-- No execution has more events of a kind than the limit. -/
def AtMost (method : Method Query Answer State Error α) (counted : Event Answer → Bool)
    (limit : Nat) : Prop :=
  ∀ before trace result after, method.Executes before trace result after →
    trace.countP counted ≤ limit

section Budgets

variable {counted : Event Answer → Bool} {limit more : Nat}

theorem AtMost.mono {method : Method Query Answer State Error α}
    (atMost : method.AtMost counted limit) (less : limit ≤ more) :
    method.AtMost counted more := by
  intro before trace result after executes
  exact (atMost before trace result after executes).trans less

theorem Emits.atMost {method : Method Query Answer State Error α}
    (emits : method.Emits fun event => ¬ counted event = true) : method.AtMost counted 0 := by
  intro before trace result after executes
  rw [List.countP_eq_zero.mpr (emits.event_of_executes executes)]

/-- The events of a composition are those of its two methods. -/
theorem AtMost.bind {method : Method Query Answer State Error α}
    {next : α → Method Query Answer State Error β} (first : method.AtMost counted limit)
    (second : ∀ value, (next value).AtMost counted more) :
    (method >>= next).AtMost counted (limit + more) := by
  intro before trace result after executes
  rcases executes_bind_iff.mp executes with ⟨error, rfl, failed⟩ |
    ⟨_, rest, value, middle, rfl, ran, continued⟩
  · have bound := first before trace _ after failed
    omega
  · have bound := first before _ _ middle ran
    have boundRest := second value middle rest result after continued
    rw [List.countP_append]
    omega

end Budgets

/-- A relation between the ends of an execution and its events that holds when nothing
happens and composes along executions. -/
structure Composable (relation : State → List (Event Answer) → State → Prop) : Prop where
  refl : ∀ state, relation state [] state
  trans : ∀ {before middle after first second}, relation before first middle →
    relation middle second after → relation before (first ++ second) after

/-- Every execution, failing or not, satisfies a relation. -/
def Relates (method : Method Query Answer State Error α)
    (relation : State → List (Event Answer) → State → Prop) : Prop :=
  ∀ before trace result after, method.Executes before trace result after →
    relation before trace after

section Relations

variable {relation : State → List (Event Answer) → State → Prop}

theorem Composable.relates_pure (composable : Composable relation) (value : α) :
    (pure value : Method Query Answer State Error α).Relates relation := by
  intro before trace result after executes
  obtain ⟨rfl, -, rfl⟩ := executes_pure_iff.mp executes
  exact composable.refl _

theorem Composable.relates_throw (composable : Composable relation) (error : Error) :
    (throw error : Method Query Answer State Error α).Relates relation := by
  intro before trace result after executes
  obtain ⟨rfl, -, rfl⟩ := executes_throw_iff.mp executes
  exact composable.refl _

theorem Composable.relates_self (composable : Composable relation) :
    (self : Method Query Answer State Error State).Relates relation := by
  intro before trace result after executes
  obtain ⟨rfl, -, rfl⟩ := executes_self_iff.mp executes
  exact composable.refl _

theorem Composable.relates_ofExcept (composable : Composable relation)
    (outcome : Except Error α) :
    (ofExcept outcome : Method Query Answer State Error α).Relates relation := by
  intro before trace result after executes
  obtain ⟨rfl, -, rfl⟩ := executes_ofExcept_iff.mp executes
  exact composable.refl _

theorem relates_lift {program : Program Query Answer α}
    (kept : ∀ state trace value, program.Runs trace value → relation state trace state) :
    (lift program : Method Query Answer State Error α).Relates relation := by
  intro before trace result after executes
  obtain ⟨value, runs, -, rfl⟩ := executes_lift_iff.mp executes
  exact kept after trace value runs

/-- A method that is cut off at once has no executions. -/
theorem relates_pending :
    @Relates Query Answer State Error α (fun _ => .pending) relation :=
  fun _ _ _ _ executes => absurd executes Program.not_runs_pending

theorem Composable.relates_bind (composable : Composable relation)
    {method : Method Query Answer State Error α}
    {next : α → Method Query Answer State Error β} (first : method.Relates relation)
    (second : ∀ value, (next value).Relates relation) :
    (method >>= next).Relates relation := by
  intro before trace result after executes
  rcases executes_bind_iff.mp executes with ⟨error, rfl, failed⟩ |
    ⟨_, _, value, middle, rfl, ran, continued⟩
  · exact first before trace _ after failed
  · exact composable.trans (first before _ _ middle ran) (second value middle _ _ after continued)

end Relations

end Method

end Interaction
