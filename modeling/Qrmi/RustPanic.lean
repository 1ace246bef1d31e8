import Mathlib.Data.List.Forall2
import Mathlib.Tactic.Common

/-!
# Code that may panic

An indexing or slicing expression outside of its bounds panics.  The panic is an
outcome of its own, which no later part of the code observes.
-/

/-- The outcome of code that may panic. -/
inductive MayPanic (α : Type) : Type
  | panicked
  | returned (value : α)
  deriving DecidableEq

namespace MayPanic

variable {α β : Type}

protected def bind : MayPanic α → (α → MayPanic β) → MayPanic β
  | panicked, _ => panicked
  | returned value, next => next value

instance : Monad MayPanic where
  pure := returned
  bind := MayPanic.bind

@[simp]
theorem returned_bind (value : α) (next : α → MayPanic β) :
    (returned value >>= next) = next value :=
  rfl

@[simp]
theorem panicked_bind (next : α → MayPanic β) :
    (panicked >>= next) = panicked :=
  rfl

theorem bind_eq_returned_iff {outcome : MayPanic α} {next : α → MayPanic β} {value : β} :
    (outcome >>= next) = returned value ↔
      ∃ middle, outcome = returned middle ∧ next middle = returned value := by
  cases outcome <;> simp

instance : LawfulMonad MayPanic :=
  LawfulMonad.mk' MayPanic (fun outcome => by cases outcome <;> rfl) (fun _ _ => rfl)
    fun outcome _ _ => by cases outcome <;> rfl

@[simp]
theorem pure_eq_returned (value : α) : (pure value : MayPanic α) = returned value :=
  rfl

/-- A loop returns when each of its steps does. -/
theorem mapM_eq_returned_iff {step : α → MayPanic β} {items : List α} {results : List β} :
    items.mapM step = returned results ↔
      List.Forall₂ (fun item result => step item = returned result) items results := by
  induction items generalizing results with
  | nil =>
      rw [List.mapM_nil, List.forall₂_nil_left_iff, pure_eq_returned, returned.injEq, eq_comm]
  | cons item items ih =>
      rw [List.mapM_cons, List.forall₂_cons_left_iff, bind_eq_returned_iff]
      refine exists_congr fun result => ?_
      rw [bind_eq_returned_iff]
      constructor
      · rintro ⟨returns, rest, looped, equal⟩
        exact ⟨rest, returns, ih.mp looped, (returned.inj equal).symm⟩
      · rintro ⟨rest, returns, looped, rfl⟩
        exact ⟨returns, rest, ih.mpr looped, rfl⟩

theorem mem_iff_of_mapM {step : α → MayPanic β} {items : List α} {results : List β}
    (looped : items.mapM step = returned results) {result : β} :
    result ∈ results ↔ ∃ item ∈ items, step item = returned result := by
  have steps := mapM_eq_returned_iff.mp looped
  clear looped
  induction steps with
  | nil => simp
  | @cons item first _ _ returns _ ih =>
      rw [List.mem_cons, List.exists_mem_cons_iff, returns, returned.injEq, eq_comm]
      exact or_congr_right ih

theorem exists_mapM_eq_returned_iff {step : α → MayPanic β} {items : List α} :
    (∃ results, items.mapM step = returned results) ↔
      ∀ item ∈ items, ∃ result, step item = returned result := by
  constructor
  · rintro ⟨results, looped⟩ item member
    have steps := mapM_eq_returned_iff.mp looped
    clear looped
    induction steps with
    | nil => cases member
    | @cons first result _ _ returns _ ih =>
        rcases List.mem_cons.mp member with rfl | later
        · exact ⟨result, returns⟩
        · exact ih later
  · intro returns
    induction items with
    | nil => exact ⟨[], rfl⟩
    | cons item items ih =>
        obtain ⟨result, first⟩ := returns item List.mem_cons_self
        obtain ⟨results, rest⟩ := ih fun other later =>
          returns other (List.mem_cons_of_mem _ later)
        exact ⟨result :: results, by rw [List.mapM_cons, first, rest]; rfl⟩

end MayPanic
