import Qrmi.InteractionProgram

/-!
# Hiding questions

Two programs that do different things on the side may still ask an environment
the same questions that matter.  The questions that do not matter are hidden: a
fixed answer is given to each, and the program that remains asks only the others.
Two programs with one remainder cannot be told apart by an environment that
answers a hidden question always in the same way and forgets that it was asked.
-/

namespace Interaction

namespace Program

variable {Query : Type} {Answer : Query → Type} {α β Environment : Type}

/-- Answer every question of a program with a deterministic environment: what was
exchanged, and the value unless the program is cut off. -/
def drive (respond : Environment → (query : Query) → Answer query × Environment) :
    Environment → Program Query Answer α → List (Event Answer) × Option α
  | _, done value => ([], some value)
  | environment, ask query next =>
      let reply := respond environment query
      let rest := drive respond reply.2 (next reply.1)
      (⟨query, reply.1⟩ :: rest.1, rest.2)
  | _, pending => ([], none)

protected theorem bind_assoc {γ : Type} (program : Program Query Answer α)
    (first : α → Program Query Answer β) (second : β → Program Query Answer γ) :
    (program.bind first).bind second =
      program.bind fun value => (first value).bind second := by
  induction program with
  | done value => rfl
  | pending => rfl
  | ask query next ih =>
      simp only [Program.bind]
      exact congrArg (ask query) (funext ih)

protected theorem bind_done (program : Program Query Answer α) :
    program.bind done = program := by
  induction program with
  | done value => rfl
  | pending => rfl
  | ask query next ih =>
      simp only [Program.bind]
      exact congrArg (ask query) (funext ih)

instance : LawfulMonad (Program Query Answer) :=
  LawfulMonad.mk' _ Program.bind_done (fun _ _ => rfl) Program.bind_assoc

/-- Give the fixed answers to the hidden questions. -/
def hide (hidden : (query : Query) → Option (Answer query)) :
    Program Query Answer α → Program Query Answer α
  | done value => done value
  | ask query next =>
      match hidden query with
      | some answer => (next answer).hide hidden
      | none => ask query fun answer => (next answer).hide hidden
  | pending => pending

variable {hidden : (query : Query) → Option (Answer query)}
variable {respond : Environment → (query : Query) → Answer query × Environment}

theorem hide_ask_hidden {query : Query} {answer : Answer query}
    {next : Answer query → Program Query Answer α}
    (isHidden : hidden query = some answer) :
    (ask query next).hide hidden = (next answer).hide hidden := by
  simp only [hide, isHidden]

theorem hide_ask_visible {query : Query}
    {next : Answer query → Program Query Answer α}
    (visible : hidden query = none) :
    (ask query next).hide hidden = ask query fun answer => (next answer).hide hidden := by
  simp only [hide, visible]

@[simp]
theorem hide_pure (value : α) :
    (pure value : Program Query Answer α).hide hidden = pure value :=
  rfl

/-- Questions are hidden in a composition part by part. -/
theorem hide_bind (program : Program Query Answer α)
    (continuation : α → Program Query Answer β) :
    (program >>= continuation).hide hidden =
      program.hide hidden >>= fun value => (continuation value).hide hidden := by
  change (program.bind continuation).hide hidden =
    (program.hide hidden).bind fun value => (continuation value).hide hidden
  induction program with
  | done value => rfl
  | pending => rfl
  | ask query next ih =>
      cases isHidden : hidden query with
      | some answer =>
          rw [hide_ask_hidden isHidden]
          simp only [Program.bind]
          rw [hide_ask_hidden isHidden, ih]
      | none =>
          rw [hide_ask_visible isHidden]
          simp only [Program.bind]
          rw [hide_ask_visible isHidden]
          exact congrArg (ask query) (funext ih)

/-- A program that starts with a visible question, and a program that does the
same after each of its answers. -/
theorem hide_question_bind_congr {query : Query}
    {next other : Answer query → Program Query Answer α}
    (alike : ∀ answer, (next answer).hide hidden = (other answer).hide hidden) :
    (question query >>= next).hide hidden = (question query >>= other).hide hidden := by
  rw [hide_bind, hide_bind]
  exact congrArg _ (funext alike)

/-- Computing with the value of a program asks nothing. -/
theorem drive_bind_pure (program : Program Query Answer α) (compute : α → β)
    (environment : Environment) :
    drive respond environment (program >>= fun value => pure (compute value)) =
      ((drive respond environment program).1,
        (drive respond environment program).2.map compute) := by
  change drive respond environment (program.bind _) = _
  induction program generalizing environment with
  | done value => rfl
  | pending => rfl
  | ask query next ih =>
      have rest := ih (respond environment query).1 (respond environment query).2
      simp only [Program.bind, drive, rest]

/-- An environment that is not changed by the hidden questions exchanges the
visible ones of a program with its remainder. -/
theorem drive_hide
    (oblivious : ∀ environment query answer, hidden query = some answer →
      respond environment query = (answer, environment))
    (program : Program Query Answer α) (environment : Environment) :
    drive respond environment (program.hide hidden) =
      ((drive respond environment program).1.filter
          fun event => (hidden event.1).isNone,
        (drive respond environment program).2) := by
  induction program generalizing environment with
  | done value => rfl
  | pending => rfl
  | ask query next ih =>
      cases isHidden : hidden query with
      | some answer =>
          have answered := oblivious environment query answer isHidden
          rw [hide_ask_hidden isHidden, ih]
          simp [drive, answered, isHidden]
      | none =>
          rw [hide_ask_visible isHidden]
          simp only [drive, ih]
          simp [isHidden]

/-- Programs with one remainder exchange the same events of every visible kind
and return the same value. -/
theorem drive_eq_of_hide_eq {first second : Program Query Answer α}
    (alike : first.hide hidden = second.hide hidden)
    (oblivious : ∀ environment query answer, hidden query = some answer →
      respond environment query = (answer, environment))
    (shown : Event Answer → Bool)
    (visible : ∀ event, shown event → hidden event.1 = none)
    (environment : Environment) :
    (drive respond environment first).1.filter shown =
        (drive respond environment second).1.filter shown ∧
      (drive respond environment first).2 = (drive respond environment second).2 := by
  have narrow : ∀ events : List (Event Answer),
      (events.filter fun event => (hidden event.1).isNone).filter shown =
        events.filter shown := by
    intro events
    rw [List.filter_filter]
    refine List.filter_congr fun event _ => ?_
    cases isShown : shown event with
    | false => rfl
    | true => simp [visible event isShown]
  have firstDriven := drive_hide oblivious first environment
  have secondDriven := drive_hide oblivious second environment
  rw [alike, secondDriven, Prod.mk.injEq] at firstDriven
  obtain ⟨events, values⟩ := firstDriven
  refine ⟨?_, values.symm⟩
  rw [← narrow, ← events, narrow]

end Program

end Interaction
