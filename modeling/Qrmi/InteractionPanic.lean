import Qrmi.InteractionHiding
import Qrmi.InteractionMethod

/-!
# Methods that may panic

A panic ends a method like a failure does and leaves the state as it is at that
point, but nothing that calls the method handles it.  A model that is cut off at a
panic has the executions of the others alone.
-/

namespace Interaction

variable {Query : Type} {Answer : Query → Type}

/-- How a method ends without a value. -/
inductive Halt (Error : Type) : Type
  | panic
  | failed (error : Error)

theorem mapError_failed_ne_panic {Error α : Type} (outcome : Except Error α) :
    outcome.mapError Halt.failed ≠ .error .panic := by
  cases outcome with
  | ok value => rintro ⟨⟩
  | error error => rintro ⟨⟩

namespace Method

variable {State Error α β : Type}

def cutOutcome : Except (Halt Error) α × State → Program Query Answer (Except Error α × State)
  | (.ok value, state) => .done (.ok value, state)
  | (.error .panic, _) => .pending
  | (.error (.failed error), state) => .done (.error error, state)

/-- Cut a method off where it panics. -/
def cutPanics (method : Method Query Answer State (Halt Error) α) :
    Method Query Answer State Error α :=
  fun state => (method state).bind cutOutcome

@[simp]
theorem cutPanics_pure (value : α) :
    cutPanics (pure value : Method Query Answer State (Halt Error) α) = pure value :=
  rfl

@[simp]
theorem cutPanics_self :
    cutPanics (self : Method Query Answer State (Halt Error) State) = self :=
  rfl

@[simp]
theorem cutPanics_modify (change : State → State) :
    cutPanics (modify change : Method Query Answer State (Halt Error) Unit) = modify change :=
  rfl

@[simp]
theorem cutPanics_failed (error : Error) :
    cutPanics (throw (.failed error) : Method Query Answer State (Halt Error) α) =
      throw error :=
  rfl

@[simp]
theorem cutPanics_panic :
    cutPanics (throw .panic : Method Query Answer State (Halt Error) α) = fun _ => .pending :=
  rfl

@[simp]
theorem cutPanics_ofExcept (outcome : Except Error α) :
    cutPanics (ofExcept (outcome.mapError Halt.failed) :
      Method Query Answer State (Halt Error) α) = ofExcept outcome := by
  cases outcome <;> rfl

@[simp]
theorem cutPanics_lift (program : Program Query Answer α) :
    cutPanics (lift program : Method Query Answer State (Halt Error) α) = lift program := by
  funext state
  exact Program.bind_assoc program _ _

theorem cutPanics_bind (method : Method Query Answer State (Halt Error) α)
    (next : α → Method Query Answer State (Halt Error) β) :
    cutPanics (method >>= next) = cutPanics method >>= fun value => cutPanics (next value) := by
  funext state
  refine (Program.bind_assoc (method state) _ _).trans ?_
  refine Eq.trans ?_ (Program.bind_assoc (method state) _ _).symm
  congr 1
  funext ⟨outcome, after⟩
  cases outcome with
  | ok value => rfl
  | error halt => cases halt <;> rfl

/-- A composition that does not panic fails in its first method, or continues from its
value. -/
theorem executes_bind_of_returns {method : Method Query Answer State (Halt Error) α}
    {next : α → Method Query Answer State (Halt Error) β} {before after : State}
    {trace : List (Event Answer)} {result : Except (Halt Error) β}
    (executes : (method >>= next).Executes before trace result after)
    (returns : result ≠ .error .panic) :
    (∃ error, result = .error (.failed error) ∧
        method.Executes before trace (.error (.failed error)) after) ∨
      ∃ first second value middle, trace = first ++ second ∧
        method.Executes before first (.ok value) middle ∧
          (next value).Executes middle second result after := by
  rcases executes_bind_iff.mp executes with ⟨halt, rfl, failed⟩ | continued
  · cases halt with
    | panic => exact absurd rfl returns
    | failed error => exact .inl ⟨error, rfl, failed⟩
  · exact .inr continued

/-- The executions without a panic. -/
theorem executes_cutPanics_iff {method : Method Query Answer State (Halt Error) α}
    {before after : State} {trace : List (Event Answer)} {result : Except Error α} :
    (cutPanics method).Executes before trace result after ↔
      method.Executes before trace (result.mapError Halt.failed) after := by
  change (method before >>= cutOutcome).Runs trace (result, after) ↔ _
  rw [Program.runs_bind_iff]
  constructor
  · rintro ⟨first, second, ⟨outcome, middle⟩, rfl, runs, rest⟩
    cases outcome with
    | ok value =>
        obtain ⟨rfl, equal⟩ := Program.runs_done_iff.mp rest
        cases equal
        rwa [List.append_nil]
    | error halt =>
        cases halt with
        | panic => exact absurd rest Program.not_runs_pending
        | failed error =>
            obtain ⟨rfl, equal⟩ := Program.runs_done_iff.mp rest
            cases equal
            rwa [List.append_nil]
  · intro runs
    refine ⟨trace, [], _, (List.append_nil _).symm, runs, ?_⟩
    cases result <;> exact Program.Runs.done _

end Method

end Interaction
