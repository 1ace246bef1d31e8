import Qrmi.InteractionProgram

/-!
# Repeating a program

A repeated program runs an attempt, looks at its value, and may run it again.
Nothing but the events of the earlier attempts survives: the value of the last
attempt is returned unchanged.
-/

namespace Interaction

variable {Query : Type} {Answer : Query → Type} {α : Type}

namespace Program

/-- Run an attempt as long as it has to be repeated.  `past` counts the
repetitions so far, and the fuel bounds the attempts where nothing else does. -/
def repeatWhile (attempt : Program Query Answer α) (again : Nat → α → Bool) :
    Nat → Nat → Program Query Answer α
  | 0, _ => .pending
  | fuel + 1, past => do
      let value ← attempt
      if again past value then attempt.repeatWhile again fuel (past + 1)
      else return value

/-- A repeated program ends with a complete attempt and returns its value. -/
theorem Runs.exists_last_attempt {attempt : Program Query Answer α}
    {again : Nat → α → Bool} {fuel past : Nat} {trace : List (Event Answer)}
    {value : α}
    (runs : (attempt.repeatWhile again fuel past).Runs trace value) :
    ∃ earlier last, trace = earlier ++ last ∧ attempt.Runs last value := by
  induction fuel generalizing past trace with
  | zero => exact absurd runs not_runs_pending
  | succ fuel ih =>
      obtain ⟨first, second, middle, rfl, attempted, continued⟩ :=
        runs_bind_iff.mp runs
      by_cases repeats : again past middle
      · rw [if_pos repeats] at continued
        obtain ⟨earlier, last, rfl, finished⟩ := ih continued
        exact ⟨first ++ earlier, last, (List.append_assoc ..).symm, finished⟩
      · rw [if_neg repeats] at continued
        obtain ⟨rfl, rfl⟩ := runs_pure_iff.mp continued
        exact ⟨[], first, List.append_nil _, attempted⟩

/-- The events of a repeated program are those of its attempts. -/
theorem Emits.repeatWhile {attempt : Program Query Answer α} {allowed : Event Answer → Prop}
    (emits : attempt.Emits allowed) (again : Nat → α → Bool) (fuel past : Nat) :
    (attempt.repeatWhile again fuel past).Emits allowed := by
  induction fuel generalizing past with
  | zero => exact fun _ _ runs => absurd runs not_runs_pending
  | succ fuel ih =>
      refine emits.bind fun value => ?_
      split
      · exact ih (past + 1)
      · exact emits_pure value allowed

theorem Asks.repeatWhile {attempt : Program Query Answer α} {allowed : Event Answer → Prop}
    (asks : attempt.Asks allowed) (again : Nat → α → Bool) (fuel past : Nat) :
    (attempt.repeatWhile again fuel past).Asks allowed := by
  induction fuel generalizing past with
  | zero => trivial
  | succ fuel ih =>
      refine asks.bind fun value => ?_
      split
      · exact ih (past + 1)
      · exact asks_pure value

/-- An attempt that is not repeated is the whole run. -/
theorem Runs.once {attempt : Program Query Answer α} {again : Nat → α → Bool}
    {fuel past : Nat} {trace : List (Event Answer)} {value : α}
    (runs : attempt.Runs trace value) (last : again past value = false) :
    (attempt.repeatWhile again (fuel + 1) past).Runs trace value := by
  apply runs_bind_iff.mpr
  refine ⟨trace, [], value, (List.append_nil _).symm, runs, ?_⟩
  rw [last]
  exact .done value

/-- A program that is repeated a limited number of times is not cut off with fuel for
them all. -/
theorem Total.repeatWhile {attempt : Program Query Answer α} {again : Nat → α → Bool}
    {limit : Nat} (total : attempt.Total)
    (stops : ∀ past value, limit ≤ past → again past value = false) {fuel past : Nat}
    (fueled : 0 < fuel) (enough : limit < fuel + past) :
    (attempt.repeatWhile again fuel past).Total := by
  induction fuel generalizing past with
  | zero => exact absurd fueled (Nat.lt_irrefl 0)
  | succ fuel ih =>
      refine total.bind fun value => ?_
      cases repeats : again past value with
      | false => exact total_pure value
      | true =>
          have early : past < limit := by
            by_contra late
            rw [stops past value (Nat.le_of_not_lt late)] at repeats
            cases repeats
          exact ih (by omega) (by omega)

end Program

end Interaction
