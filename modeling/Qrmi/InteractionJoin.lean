import Qrmi.InteractionAssertion

/-!
# Joining methods that share a lock

Methods are joined that exchange something under one lock and then read what they got.
So their exchanges follow each other in the order in which the scheduler hands over the lock,
while what one of them got may still be read during the exchanges of others.  The join ends
with the first error, and an exchange that is under way is dropped where it waits.
-/

namespace Interaction

variable {Query : Type} {Answer : Query → Type}

/-- A program that may be dropped before each of its questions.  The scheduler decides. -/
def Program.droppable {α : Type} (program : Program Query Answer α)
    (scheduler : Program Query Answer Bool) : Program Query Answer (Option α) :=
  match program with
  | .done value => .done (some value)
  | .pending => .pending
  | .ask query next => scheduler.bind fun dropped =>
      if dropped then .done none
      else .ask query fun answer => (next answer).droppable scheduler

theorem Program.Asks.droppable {α : Type} {scheduler : Program Query Answer Bool}
    {program : Program Query Answer α} {allowed : Event Answer → Prop}
    (asks : program.Asks allowed) (schedules : scheduler.Asks allowed) :
    (program.droppable scheduler).Asks allowed := by
  induction program with
  | done value => trivial
  | pending => trivial
  | ask query next ih =>
      refine schedules.bind fun dropped => ?_
      cases dropped with
      | true => trivial
      | false => exact fun answer => ⟨(asks answer).1, ih answer (asks answer).2⟩

namespace Method

variable {State Error α β γ : Type} {allowed : Event Answer → Prop}

/-- Every question that the method can reach satisfies a predicate. -/
def Asks (method : Method Query Answer State Error α) (allowed : Event Answer → Prop) : Prop :=
  ∀ state, (method state).Asks allowed

section Asking

theorem asks_pure (value : α) : (pure value : Method Query Answer State Error α).Asks allowed :=
  fun _ => trivial

theorem asks_throw (error : Error) :
    (throw error : Method Query Answer State Error α).Asks allowed :=
  fun _ => trivial

theorem asks_self : (self : Method Query Answer State Error State).Asks allowed :=
  fun _ => trivial

theorem asks_modify (change : State → State) :
    (modify change : Method Query Answer State Error Unit).Asks allowed :=
  fun _ => trivial

theorem asks_ofExcept (outcome : Except Error α) :
    (ofExcept outcome : Method Query Answer State Error α).Asks allowed :=
  fun _ => trivial

theorem asks_lift {program : Program Query Answer α} (asks : program.Asks allowed) :
    (lift program : Method Query Answer State Error α).Asks allowed :=
  fun _ => Program.Asks.bind asks fun _ => trivial

theorem Asks.bind {method : Method Query Answer State Error α}
    {next : α → Method Query Answer State Error β} (first : method.Asks allowed)
    (second : ∀ value, (next value).Asks allowed) : (method >>= next).Asks allowed := by
  intro state
  refine Program.Asks.bind (first state) fun outcome => ?_
  obtain ⟨result, after⟩ := outcome
  cases result with
  | ok value => exact second value after
  | error error => trivial

theorem Asks.emits {method : Method Query Answer State Error α} (asks : method.Asks allowed) :
    method.Emits allowed :=
  fun state => (asks state).emits

end Asking

/-- A step that may be dropped while it waits.  Then the state is as the step found it. -/
def droppable (method : Method Query Answer State Error α)
    (scheduler : Program Query Answer Bool) : Method Query Answer State (Option Error) α :=
  fun state => ((method state).droppable scheduler).bind fun outcome =>
    match outcome with
    | some returned => .done (returned.1.mapError some, returned.2)
    | none => .done (.error none, state)

theorem Asks.droppable {scheduler : Program Query Answer Bool}
    {method : Method Query Answer State Error α} (asks : method.Asks allowed)
    (schedules : scheduler.Asks allowed) : (method.droppable scheduler).Asks allowed := by
  intro state
  refine Program.Asks.bind ((asks state).droppable schedules) fun outcome => ?_
  cases outcome with
  | some outcome => trivial
  | none => trivial

section Join

variable (scheduler : Program Query Answer Bool)

/-- The end of a join, for the error that waits for it. -/
def endJoin : Option Error → Method Query Answer State Error Unit
  | some error => throw error
  | none => return ()

/-- Which of two errors is the first one. -/
def firstError (error : Error) : Option Error → Method Query Answer State Error Error
  | none => return error
  | some waiting => do
      let overtaken ← lift scheduler
      return if overtaken then error else waiting

/-- A branch of a join: its exchange, given the error that waits to end the join, and how it
reads what it got.  The exchange fails only with that error, when it is dropped. -/
structure Branch (Query : Type) (Answer : Query → Type) (State Error β α : Type) where
  exchange : Option Error → Method Query Answer State Error β
  read : β → Except Error α

/-- A branch has its turn, and then the others have theirs. -/
def inTurn (branch : Branch Query Answer State Error β α)
    (others : Option Error → Method Query Answer State Error γ) (waiting : Option Error) :
    Method Query Answer State Error (α × γ) := do
  let got ← branch.exchange waiting
  match branch.read got with
  | .ok value =>
      let values ← others waiting
      return (value, values)
  | .error error =>
      let first ← firstError scheduler error waiting
      let _ ← others (some first)
      throw first

variable {α₁ α₂ α₃ : Type} (first : Branch Query Answer State Error β α₁)
variable (second : Branch Query Answer State Error β α₂)
variable (third : Branch Query Answer State Error β α₃)

/-- Two branches, the first of which to get the lock is chosen by the scheduler. -/
def joinTwo (waiting : Option Error) : Method Query Answer State Error (α₁ × α₂) := do
  let overtaken ← lift scheduler
  if overtaken then
    let (value₂, value₁, _) ← inTurn scheduler second (inTurn scheduler first endJoin) waiting
    return (value₁, value₂)
  else
    let (value₁, value₂, _) ← inTurn scheduler first (inTurn scheduler second endJoin) waiting
    return (value₁, value₂)

/-- `tokio::try_join!` of two branches. -/
def tryJoinTwo : Method Query Answer State Error (α₁ × α₂) :=
  joinTwo scheduler first second none

/-- `tokio::try_join!` of three branches. -/
def tryJoinThree : Method Query Answer State Error (α₁ × α₂ × α₃) := do
  let overtaken ← lift scheduler
  if overtaken then
    let overtakenAgain ← lift scheduler
    if overtakenAgain then
      let (value₃, value₁, value₂) ← inTurn scheduler third (joinTwo scheduler first second) none
      return (value₁, value₂, value₃)
    else
      let (value₂, value₁, value₃) ← inTurn scheduler second (joinTwo scheduler first third) none
      return (value₁, value₂, value₃)
  else
    inTurn scheduler first (joinTwo scheduler second third) none

end Join

section Rules

variable {Kept : Type} {keep : State → Kept} {scheduler : Program Query Answer Bool}

/-- A branch stays within what its exchange does. -/
def Branch.StaysWithin (allowed : Event Answer → Prop) (keep : State → Kept)
    (branch : Branch Query Answer State Error β α) : Prop :=
  ∀ waiting, Method.StaysWithin allowed keep (branch.exchange waiting)

theorem staysWithin_inTurn {branch : Branch Query Answer State Error β α}
    {others : Option Error → Method Query Answer State Error γ}
    (schedules : scheduler.Asks allowed) (stays : branch.StaysWithin allowed keep)
    (rest : ∀ waiting, StaysWithin allowed keep (others waiting)) (waiting : Option Error) :
    StaysWithin allowed keep (inTurn scheduler branch others waiting) := by
  refine (stays waiting).bind fun got => ?_
  split
  · exact (rest waiting).bind fun _ => staysWithin_pure _
  · rename_i error _
    have chooses : StaysWithin allowed keep
        (firstError scheduler error waiting : Method Query Answer State Error Error) := by
      cases waiting with
      | none => exact staysWithin_pure _
      | some waiting => exact (staysWithin_lift schedules.emits).bind fun _ => staysWithin_pure _
    exact chooses.bind fun first => (rest (some first)).bind fun _ => staysWithin_throw _

theorem staysWithin_endJoin (waiting : Option Error) :
    StaysWithin allowed keep (endJoin waiting : Method Query Answer State Error Unit) := by
  cases waiting with
  | none => exact staysWithin_pure _
  | some error => exact staysWithin_throw _

variable {α₁ α₂ α₃ : Type} {first : Branch Query Answer State Error β α₁}
variable {second : Branch Query Answer State Error β α₂}
variable {third : Branch Query Answer State Error β α₃}

theorem staysWithin_joinTwo (schedules : scheduler.Asks allowed)
    (stays : first.StaysWithin allowed keep) (staysToo : second.StaysWithin allowed keep)
    (waiting : Option Error) :
    StaysWithin allowed keep (joinTwo scheduler first second waiting) := by
  refine (staysWithin_lift schedules.emits).bind fun overtaken => ?_
  split
  · exact (staysWithin_inTurn schedules staysToo
      (staysWithin_inTurn schedules stays staysWithin_endJoin) waiting).bind
        fun _ => staysWithin_pure _
  · exact (staysWithin_inTurn schedules stays
      (staysWithin_inTurn schedules staysToo staysWithin_endJoin) waiting).bind
        fun _ => staysWithin_pure _

/-- A join of three stays within what its branches do. -/
theorem staysWithin_tryJoinThree (schedules : scheduler.Asks allowed)
    (stays : first.StaysWithin allowed keep) (staysToo : second.StaysWithin allowed keep)
    (staysAlso : third.StaysWithin allowed keep) :
    StaysWithin allowed keep (tryJoinThree scheduler first second third) := by
  refine (staysWithin_lift schedules.emits).bind fun overtaken => ?_
  split
  · refine (staysWithin_lift schedules.emits).bind fun overtakenAgain => ?_
    split
    · exact (staysWithin_inTurn schedules staysAlso
        (staysWithin_joinTwo schedules stays staysToo) none).bind fun _ => staysWithin_pure _
    · exact (staysWithin_inTurn schedules staysToo
        (staysWithin_joinTwo schedules stays staysAlso) none).bind fun _ => staysWithin_pure _
  · exact staysWithin_inTurn schedules stays (staysWithin_joinTwo schedules staysToo staysAlso)
      none

end Rules

end Method

end Interaction
