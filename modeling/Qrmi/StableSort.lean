import Mathlib

/-!
# Stable sorts

A stable sort of a list by a key is a permutation of it in the order of the keys, in
which the items of one key keep the order of the list.  Filtering commutes with it.
-/

section StableSort

variable {α β : Type} [LinearOrder β] {key : α → β} {items sorted : List α}

structure IsStableSort (key : α → β) (items sorted : List α) : Prop where
  perm : sorted.Perm items
  ordered : sorted.Pairwise fun first second => key first ≤ key second
  stable : ∀ value, sorted.filter (key · = value) = items.filter (key · = value)

theorem isStableSort_mergeSort (key : α → β) (items : List α) :
    IsStableSort key items
      (items.mergeSort fun first second => decide (key first ≤ key second)) := by
  have transitive : ∀ first second third : α,
      decide (key first ≤ key second) = true → decide (key second ≤ key third) = true →
        decide (key first ≤ key third) = true := by
    simp only [decide_eq_true_eq]
    exact fun _ _ _ => le_trans
  have total : ∀ first second : α,
      (decide (key first ≤ key second) || decide (key second ≤ key first)) = true := by
    simp only [Bool.or_eq_true, decide_eq_true_eq]
    exact fun first second => le_total (key first) (key second)
  have perm := List.mergeSort_perm items fun first second => decide (key first ≤ key second)
  refine ⟨perm, ?_, fun value => ?_⟩
  · have ordered := List.pairwise_mergeSort transitive total items
    exact ordered.imp of_decide_eq_true
  -- The items of the key are in order already, so the sort keeps them as they are.
  · have inOrder : (items.filter (key · = value)).Pairwise
        fun first second => decide (key first ≤ key second) = true := by
      rw [List.pairwise_iff_forall_sublist]
      intro first second pair
      have isFirst := List.mem_filter.mp (pair.subset List.mem_cons_self)
      have isSecond := List.mem_filter.mp
        (pair.subset (List.mem_cons_of_mem _ (List.mem_singleton_self _)))
      have same := (of_decide_eq_true isFirst.2).trans (of_decide_eq_true isSecond.2).symm
      exact decide_eq_true (le_of_eq same)
    have kept := List.sublist_mergeSort transitive total inOrder List.filter_sublist
    have filtered := kept.filter (key · = value)
    simp only [List.filter_filter, Bool.and_self] at filtered
    exact (filtered.eq_of_length (perm.filter _).length_eq.symm).symm

theorem IsStableSort.filter (sorts : IsStableSort key items sorted) (keep : α → Bool) :
    IsStableSort key (items.filter keep) (sorted.filter keep) where
  perm := sorts.perm.filter keep
  ordered := sorts.ordered.filter keep
  stable value := by
    have same := congrArg (List.filter keep) (sorts.stable value)
    simp only [List.filter_filter, Bool.and_comm] at same ⊢
    exact same

end StableSort
