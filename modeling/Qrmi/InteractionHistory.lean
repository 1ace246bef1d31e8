import Mathlib.Tactic.Common

/-!
# Histories of labelled steps

A history follows a labelled transition relation and remembers its labels in
order.  The induction rules below prove a property of every reachable state
from one step, with the labels of the past at hand.
-/

namespace Interaction

variable {State Label : Type}

/-- A finite history of a labelled transition relation. -/
inductive History (step : State → Label → State → Prop) :
    State → List Label → State → Prop
  | nil (state : State) : History step state [] state
  | cons {start middle final : State} {label : Label} {labels : List Label}
      (first : step start label middle)
      (rest : History step middle labels final) :
      History step start (label :: labels) final

namespace History

variable {step : State → Label → State → Prop} {start middle final : State}
variable {label : Label} {labels : List Label}

theorem append {later : List Label}
    (first : History step start labels middle)
    (second : History step middle later final) :
    History step start (labels ++ later) final := by
  induction first with
  | nil => exact second
  | cons taken _ ih => exact .cons taken (ih second)

theorem snoc (history : History step start labels middle)
    (last : step middle label final) :
    History step start (labels ++ [label]) final :=
  history.append (.cons last (.nil final))

/-- A history stays one when its labels are translated. -/
theorem map {Translated : Type} {other : State → Translated → State → Prop}
    (translate : Label → Translated)
    (simulates : ∀ {state label next}, step state label next →
      other state (translate label) next)
    (history : History step start labels final) :
    History other start (labels.map translate) final := by
  induction history with
  | nil => exact .nil _
  | cons first _ ih => exact .cons (simulates first) ih

theorem split {later : List Label}
    (history : History step start (labels ++ later) final) :
    ∃ middle, History step start labels middle ∧
      History step middle later final := by
  induction labels generalizing start with
  | nil => exact ⟨start, .nil start, history⟩
  | cons label labels ih =>
      cases history with
      | cons first rest =>
          obtain ⟨middle, before, after⟩ := ih rest
          exact ⟨middle, .cons first before, after⟩

/-- Induction along a history with the past labels: what holds initially and is
preserved by appending one step holds after the whole history. -/
theorem invariant (property : List Label → State → Prop)
    (initially : property [] start)
    (preserved : ∀ {past state label next}, History step start past state →
      property past state → step state label next →
        property (past ++ [label]) next)
    (history : History step start labels final) :
    property labels final := by
  suffices extended : ∀ {past state rest final},
      History step start past state → property past state →
      History step state rest final → property (past ++ rest) final by
    simpa using extended (.nil start) initially history
  intro past state rest final before holds after
  induction after generalizing past with
  | nil => simpa using holds
  | cons first _ ih =>
      simpa using ih (before.snoc first) (preserved before holds first)

/-- The invariant rule for properties of the state alone. -/
theorem stateInvariant (property : State → Prop)
    (initially : property start)
    (preserved : ∀ {state label next}, property state →
      step state label next → property next)
    (history : History step start labels final) :
    property final :=
  invariant (fun _ state => property state) initially
    (fun _ holds taken => preserved holds taken) history

end History

end Interaction
