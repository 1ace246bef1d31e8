import Mathlib.Algebra.Order.Ring.Nat
import Mathlib.Tactic.Common

/-!
# Programs that question their environment

A client of a remote service is a program that asks questions and continues
with whatever it is told.  This file represents such programs as finite
question trees and describes their complete runs by the list of questions and
answers exchanged.  An answer is chosen by the environment alone, so a
statement about every run is a statement about every behaviour of the service.

A loop without a bound of its own is cut off by a fuel argument.  The cut is the
leaf `pending`, which no complete run reaches.
-/

namespace Interaction

/-- One question together with the answer that the environment gave to it. -/
abbrev Event {Query : Type} (Answer : Query → Type) : Type :=
  Sigma Answer

/-- A program that asks the environment questions before it returns. -/
inductive Program (Query : Type) (Answer : Query → Type) (α : Type) : Type
  | done (value : α)
  | ask (query : Query) (next : Answer query → Program Query Answer α)
  | pending

namespace Program

variable {Query : Type} {Answer : Query → Type} {α β : Type}

/-- Sequential composition continues at every returning leaf. -/
protected def bind :
    Program Query Answer α → (α → Program Query Answer β) →
      Program Query Answer β
  | done value, continuation => continuation value
  | ask query next, continuation =>
      ask query fun answer => (next answer).bind continuation
  | pending, _ => pending

instance : Monad (Program Query Answer) where
  pure := done
  bind := Program.bind

/-- Ask a single question and return its answer. -/
def question (query : Query) : Program Query Answer (Answer query) :=
  ask query done

/-- The complete runs of a program: the exchanged events and the value that is
returned after them. -/
inductive Runs : Program Query Answer α → List (Event Answer) → α → Prop
  | done (value : α) : Runs (done value) [] value
  | ask {query : Query} {next : Answer query → Program Query Answer α}
      {answer : Answer query} {trace : List (Event Answer)} {value : α}
      (rest : Runs (next answer) trace value) :
      Runs (ask query next) (⟨query, answer⟩ :: trace) value

@[simp]
theorem runs_done_iff {result value : α} {trace : List (Event Answer)} :
    (done result : Program Query Answer α).Runs trace value ↔
      trace = [] ∧ value = result := by
  constructor
  · rintro ⟨⟩
    exact ⟨rfl, rfl⟩
  · rintro ⟨rfl, rfl⟩
    exact .done _

@[simp]
theorem runs_pure_iff {result value : α} {trace : List (Event Answer)} :
    (pure result : Program Query Answer α).Runs trace value ↔
      trace = [] ∧ value = result :=
  runs_done_iff

@[simp]
theorem runs_ask_iff {query : Query}
    {next : Answer query → Program Query Answer α}
    {trace : List (Event Answer)} {value : α} :
    (ask query next).Runs trace value ↔
      ∃ answer rest, trace = ⟨query, answer⟩ :: rest ∧
        (next answer).Runs rest value := by
  constructor
  · rintro ⟨⟩
    exact ⟨_, _, rfl, ‹_›⟩
  · rintro ⟨answer, rest, rfl, restRuns⟩
    exact .ask restRuns

@[simp]
theorem not_runs_pending {trace : List (Event Answer)} {value : α} :
    ¬ (pending : Program Query Answer α).Runs trace value := by
  rintro ⟨⟩

@[simp]
theorem runs_question_iff {query : Query} {answer : Answer query}
    {trace : List (Event Answer)} :
    (question query : Program Query Answer (Answer query)).Runs trace answer ↔
      trace = [⟨query, answer⟩] := by
  simp only [question, runs_ask_iff, runs_done_iff]
  constructor
  · rintro ⟨_, _, rfl, rfl, rfl⟩
    rfl
  · rintro rfl
    exact ⟨answer, [], rfl, rfl, rfl⟩

/-- A run of a composition is a run of the first program followed by a run of
its continuation. -/
@[simp]
theorem runs_bind_iff {program : Program Query Answer α}
    {continuation : α → Program Query Answer β}
    {trace : List (Event Answer)} {value : β} :
    (program >>= continuation).Runs trace value ↔
      ∃ first second middle, trace = first ++ second ∧
        program.Runs first middle ∧
        (continuation middle).Runs second value := by
  change (program.bind continuation).Runs trace value ↔ _
  induction program generalizing trace with
  | done result => simp [Program.bind]
  | pending => simp [Program.bind]
  | ask query next ih =>
      simp only [Program.bind, runs_ask_iff]
      constructor
      · rintro ⟨answer, rest, rfl, restRuns⟩
        obtain ⟨first, second, middle, rfl, firstRuns, secondRuns⟩ :=
          (ih answer).mp restRuns
        exact ⟨⟨query, answer⟩ :: first, second, middle, rfl,
          ⟨answer, first, rfl, firstRuns⟩, secondRuns⟩
      · rintro ⟨_, second, middle, rfl, ⟨answer, first, rfl, firstRuns⟩,
          secondRuns⟩
        exact ⟨answer, first ++ second, rfl,
          (ih answer).mpr ⟨first, second, middle, rfl, firstRuns, secondRuns⟩⟩

/-- A program that begins with a question. -/
theorem runs_question_bind_iff {query : Query}
    {next : Answer query → Program Query Answer β}
    {trace : List (Event Answer)} {value : β} :
    (question query >>= next).Runs trace value ↔
      ∃ answer rest, trace = ⟨query, answer⟩ :: rest ∧
        (next answer).Runs rest value :=
  runs_ask_iff

/-- A program that is given the same answers returns at the same point. -/
theorem Runs.eq_of_prefix {program : Program Query Answer α}
    {trace more : List (Event Answer)} {value result : α}
    (runs : program.Runs trace value) (longer : program.Runs (trace ++ more) result) :
    more = [] ∧ result = value := by
  induction runs with
  | done value => exact runs_done_iff.mp longer
  | ask rest ih =>
      obtain ⟨answer, others, equal, continued⟩ := runs_ask_iff.mp longer
      cases equal
      exact ih continued

/-- The run with which a longer trace starts is unique. -/
theorem Runs.prefix_unique {program : Program Query Answer α}
    {first second other rest : List (Event Answer)} {value result : α}
    (runs : program.Runs first value) (otherRuns : program.Runs other result)
    (same : first ++ second = other ++ rest) :
    first = other ∧ second = rest ∧ value = result := by
  rcases List.append_eq_append_iff.mp same with ⟨more, rfl, tail⟩ | ⟨more, rfl, tail⟩
  · obtain ⟨rfl, equal⟩ := runs.eq_of_prefix otherRuns
    exact ⟨by simp, by simpa using tail, equal.symm⟩
  · obtain ⟨rfl, equal⟩ := otherRuns.eq_of_prefix runs
    exact ⟨by simp, by simpa using tail.symm, equal⟩

/-- The traces after which a program is cut off. -/
inductive Exhausts : Program Query Answer α → List (Event Answer) → Prop
  | pending : Exhausts pending []
  | ask {query : Query} {next : Answer query → Program Query Answer α}
      {answer : Answer query} {trace : List (Event Answer)}
      (rest : Exhausts (next answer) trace) :
      Exhausts (ask query next) (⟨query, answer⟩ :: trace)

@[simp]
theorem not_exhausts_done {value : α} {trace : List (Event Answer)} :
    ¬ (done value : Program Query Answer α).Exhausts trace := by
  rintro ⟨⟩

@[simp]
theorem not_exhausts_pure {value : α} {trace : List (Event Answer)} :
    ¬ (pure value : Program Query Answer α).Exhausts trace :=
  not_exhausts_done

@[simp]
theorem exhausts_pending_iff {trace : List (Event Answer)} :
    (pending : Program Query Answer α).Exhausts trace ↔ trace = [] := by
  constructor
  · rintro ⟨⟩
    rfl
  · rintro rfl
    exact .pending

@[simp]
theorem exhausts_ask_iff {query : Query}
    {next : Answer query → Program Query Answer α}
    {trace : List (Event Answer)} :
    (ask query next).Exhausts trace ↔
      ∃ answer rest, trace = ⟨query, answer⟩ :: rest ∧
        (next answer).Exhausts rest := by
  constructor
  · rintro ⟨⟩
    exact ⟨_, _, rfl, ‹_›⟩
  · rintro ⟨answer, rest, rfl, restExhausts⟩
    exact .ask restExhausts

theorem exhausts_question_bind_iff {query : Query}
    {next : Answer query → Program Query Answer β}
    {trace : List (Event Answer)} :
    (question query >>= next).Exhausts trace ↔
      ∃ answer rest, trace = ⟨query, answer⟩ :: rest ∧
        (next answer).Exhausts rest :=
  exhausts_ask_iff

@[simp]
theorem not_exhausts_question {query : Query} {trace : List (Event Answer)} :
    ¬ (question query : Program Query Answer _).Exhausts trace := by
  intro exhausts
  obtain ⟨answer, rest, -, stopped⟩ := exhausts_ask_iff.mp exhausts
  exact not_exhausts_done stopped

/-- A composition is cut off in its first program or in its continuation. -/
theorem exhausts_bind_iff {program : Program Query Answer α}
    {continuation : α → Program Query Answer β}
    {trace : List (Event Answer)} :
    (program >>= continuation).Exhausts trace ↔
      program.Exhausts trace ∨
      ∃ first second middle, trace = first ++ second ∧
        program.Runs first middle ∧ (continuation middle).Exhausts second := by
  change (program.bind continuation).Exhausts trace ↔ _
  induction program generalizing trace with
  | done result => simp [Program.bind]
  | pending => simp [Program.bind]
  | ask query next ih =>
      simp only [Program.bind, exhausts_ask_iff, runs_ask_iff]
      constructor
      · rintro ⟨answer, rest, rfl, restExhausts⟩
        rcases (ih answer).mp restExhausts with inFirst |
          ⟨first, second, middle, rfl, firstRuns, inSecond⟩
        · exact .inl ⟨answer, rest, rfl, inFirst⟩
        · exact .inr ⟨⟨query, answer⟩ :: first, second, middle, rfl,
            ⟨answer, first, rfl, firstRuns⟩, inSecond⟩
      · rintro (⟨answer, rest, rfl, inFirst⟩ |
          ⟨_, second, middle, rfl, ⟨answer, first, rfl, firstRuns⟩, inSecond⟩)
        · exact ⟨answer, rest, rfl, (ih answer).mpr (.inl inFirst)⟩
        · exact ⟨answer, first ++ second, rfl, (ih answer).mpr
            (.inr ⟨first, second, middle, rfl, firstRuns, inSecond⟩)⟩

/-- A program that is never cut off. -/
def Total (program : Program Query Answer α) : Prop :=
  ∀ trace, ¬ program.Exhausts trace

theorem total_pure (value : α) : (pure value : Program Query Answer α).Total :=
  fun _ => not_exhausts_pure

theorem total_question (query : Query) :
    (question query : Program Query Answer (Answer query)).Total :=
  fun _ => not_exhausts_question

theorem Total.bind {program : Program Query Answer α}
    {continuation : α → Program Query Answer β} (first : program.Total)
    (second : ∀ value, (continuation value).Total) :
    (program >>= continuation).Total := by
  intro trace exhausts
  rcases exhausts_bind_iff.mp exhausts with inFirst |
    ⟨_, rest, middle, -, -, inSecond⟩
  · exact first trace inFirst
  · exact second middle rest inSecond

/-- Every event of every complete run satisfies a predicate. -/
def Emits (program : Program Query Answer α)
    (allowed : Event Answer → Prop) : Prop :=
  ∀ trace value, program.Runs trace value → ∀ event ∈ trace, allowed event

theorem emits_pure (value : α) (allowed : Event Answer → Prop) :
    (pure value : Program Query Answer α).Emits allowed := by
  intro trace result runs event member
  obtain ⟨rfl, -⟩ := runs_pure_iff.mp runs
  simp at member

theorem emits_question {query : Query} {allowed : Event Answer → Prop}
    (always : ∀ answer, allowed ⟨query, answer⟩) :
    (question query : Program Query Answer (Answer query)).Emits allowed := by
  intro trace answer runs event member
  rw [runs_question_iff] at runs
  subst runs
  rw [List.mem_singleton.mp member]
  exact always answer

theorem Emits.bind {program : Program Query Answer α}
    {continuation : α → Program Query Answer β}
    {allowed : Event Answer → Prop}
    (first : program.Emits allowed)
    (second : ∀ value, (continuation value).Emits allowed) :
    (program >>= continuation).Emits allowed := by
  intro trace value runs event member
  obtain ⟨before, after, middle, rfl, beforeRuns, afterRuns⟩ :=
    runs_bind_iff.mp runs
  rcases List.mem_append.mp member with inBefore | inAfter
  · exact first before middle beforeRuns event inBefore
  · exact second middle after value afterRuns event inAfter

/-- Continue with the value of a fallible program, or stop at its error. -/
def tryThen {ε : Type} (program : Program Query Answer (Except ε α))
    (continuation : α → Program Query Answer (Except ε β)) :
    Program Query Answer (Except ε β) := do
  match ← program with
  | .ok value => continuation value
  | .error error => return .error error

theorem Total.tryThen {ε : Type} {program : Program Query Answer (Except ε α)}
    {continuation : α → Program Query Answer (Except ε β)} (first : program.Total)
    (second : ∀ value, (continuation value).Total) :
    (program.tryThen continuation).Total := by
  refine first.bind fun outcome => ?_
  cases outcome with
  | ok value => exact second value
  | error error => exact total_pure _

/-- As long as the environment answers as it is relied on to, the program returns a
value that satisfies the postcondition. -/
def Ensures (rely : Event Answer → Prop) (program : Program Query Answer α)
    (post : α → Prop) : Prop :=
  ∀ trace value, program.Runs trace value → (∀ event ∈ trace, rely event) → post value

section Ensures

variable {rely : Event Answer → Prop} {middle : α → Prop} {post : β → Prop}

theorem ensures_pure {value : β} (holds : post value) :
    (pure value : Program Query Answer β).Ensures rely post := by
  intro trace result runs _
  obtain ⟨-, rfl⟩ := runs_pure_iff.mp runs
  exact holds

theorem Ensures.bind {program : Program Query Answer α}
    {continuation : α → Program Query Answer β} (first : program.Ensures rely middle)
    (second : ∀ value, middle value → (continuation value).Ensures rely post) :
    (program >>= continuation).Ensures rely post := by
  intro trace value runs relied
  obtain ⟨before, after, between, rfl, beforeRuns, afterRuns⟩ := runs_bind_iff.mp runs
  have reached := first before between beforeRuns fun event member =>
    relied event (List.mem_append_left _ member)
  exact second between reached after value afterRuns fun event member =>
    relied event (List.mem_append_right _ member)

/-- A fallible program that is known to succeed. -/
theorem Ensures.tryThen {ε : Type} {post : Except ε β → Prop}
    {program : Program Query Answer (Except ε α)}
    {continuation : α → Program Query Answer (Except ε β)}
    (first : program.Ensures rely fun outcome => ∃ value, outcome = .ok value ∧ middle value)
    (second : ∀ value, middle value → (continuation value).Ensures rely post) :
    (program.tryThen continuation).Ensures rely post := by
  refine first.bind fun outcome succeeded => ?_
  obtain ⟨value, rfl, reached⟩ := succeeded
  exact second value reached

end Ensures

/-- Every question that the program can reach satisfies a predicate, whatever it
was told before and whether or not it ever returns. -/
def Asks (allowed : Event Answer → Prop) : Program Query Answer α → Prop
  | done _ => True
  | ask query next =>
      ∀ answer, allowed ⟨query, answer⟩ ∧ (next answer).Asks allowed
  | pending => True

section Asks

variable {allowed : Event Answer → Prop}

theorem asks_pure (value : α) :
    (pure value : Program Query Answer α).Asks allowed :=
  trivial

theorem asks_question {query : Query}
    (always : ∀ answer, allowed ⟨query, answer⟩) :
    (question query : Program Query Answer (Answer query)).Asks allowed :=
  fun answer => ⟨always answer, trivial⟩

theorem Asks.bind {program : Program Query Answer α}
    {continuation : α → Program Query Answer β} (first : program.Asks allowed)
    (second : ∀ value, (continuation value).Asks allowed) :
    (program >>= continuation).Asks allowed := by
  change (program.bind continuation).Asks allowed
  induction program with
  | done value => exact second value
  | pending => trivial
  | ask query next ih =>
      exact fun answer => ⟨(first answer).1, ih answer (first answer).2⟩

theorem Asks.tryThen {ε : Type} {program : Program Query Answer (Except ε α)}
    {continuation : α → Program Query Answer (Except ε β)}
    (first : program.Asks allowed)
    (second : ∀ value, (continuation value).Asks allowed) :
    (program.tryThen continuation).Asks allowed := by
  refine first.bind fun outcome => ?_
  cases outcome with
  | ok value => exact second value
  | error error => exact asks_pure _

theorem Asks.emits {program : Program Query Answer α}
    (asks : program.Asks allowed) : program.Emits allowed := by
  intro trace value runs
  induction runs with
  | done value => simp
  | @ask query next answer trace value rest ih =>
      intro event member
      rcases List.mem_cons.mp member with rfl | inRest
      · exact (asks answer).1
      · exact ih (asks answer).2 event inRest

end Asks

end Program

end Interaction
