import Mathlib.Logic.Function.Basic

/-!
# Keyed stores

The extensional view of a hash map: what it returns for each key.  Two stores
are equal exactly when every lookup agrees, so statements about whole stores
need no ordering or hashing.
-/

/-- A finite-map view that only exposes lookups. -/
def KeyedStore (Key Value : Type) : Type :=
  Key → Option Value

namespace KeyedStore

variable {Key Value : Type}

/-- The entry of a key, if there is one. -/
def get (store : KeyedStore Key Value) (key : Key) : Option Value :=
  store key

/-- The store without entries. -/
def empty : KeyedStore Key Value :=
  fun _ => none

/-- Add or replace the entry of a key. -/
def insert [DecidableEq Key] (store : KeyedStore Key Value) (key : Key)
    (value : Value) : KeyedStore Key Value :=
  Function.update store key (some value)

/-- Delete the entry of a key. -/
def remove [DecidableEq Key] (store : KeyedStore Key Value) (key : Key) :
    KeyedStore Key Value :=
  Function.update store key none

/-- Keep only the entries whose key passes a test. -/
def retain (store : KeyedStore Key Value) (keep : Key → Bool) :
    KeyedStore Key Value :=
  fun key => if keep key then store key else none

@[ext]
theorem ext {first second : KeyedStore Key Value}
    (agree : ∀ key, first.get key = second.get key) : first = second :=
  funext agree

@[simp]
theorem get_empty (key : Key) :
    (empty : KeyedStore Key Value).get key = none :=
  rfl

@[simp]
theorem get_insert_self [DecidableEq Key] (store : KeyedStore Key Value)
    (key : Key) (value : Value) :
    (store.insert key value).get key = some value :=
  Function.update_self ..

theorem get_insert_of_ne [DecidableEq Key] (store : KeyedStore Key Value)
    {key other : Key} (value : Value) (distinct : other ≠ key) :
    (store.insert key value).get other = store.get other :=
  Function.update_of_ne distinct ..

theorem get_insert [DecidableEq Key] (store : KeyedStore Key Value)
    (key other : Key) (value : Value) :
    (store.insert key value).get other =
      if other = key then some value else store.get other := by
  by_cases same : other = key
  · subst same
    simp
  · simp [same, get_insert_of_ne]

@[simp]
theorem get_remove_self [DecidableEq Key] (store : KeyedStore Key Value)
    (key : Key) : (store.remove key).get key = none :=
  Function.update_self ..

theorem get_remove_of_ne [DecidableEq Key] (store : KeyedStore Key Value)
    {key other : Key} (distinct : other ≠ key) :
    (store.remove key).get other = store.get other :=
  Function.update_of_ne distinct ..

theorem get_remove [DecidableEq Key] (store : KeyedStore Key Value)
    (key other : Key) :
    (store.remove key).get other =
      if other = key then none else store.get other := by
  by_cases same : other = key
  · subst same
    simp
  · simp [same, get_remove_of_ne]

theorem get_retain (store : KeyedStore Key Value) (keep : Key → Bool)
    (key : Key) :
    (store.retain keep).get key = if keep key then store.get key else none :=
  rfl

section Entries

variable [BEq Key] [LawfulBEq Key] {entries : List (Key × Value)}

/-- The store of a list of entries. -/
def ofEntries (entries : List (Key × Value)) : KeyedStore Key Value :=
  fun key => entries.lookup key

/-- The first entry of a key is its only one when no key is repeated. -/
theorem mem_iff_get_ofEntries (distinct : (entries.map Prod.fst).Nodup)
    {key : Key} {value : Value} :
    (key, value) ∈ entries ↔ (ofEntries entries).get key = some value := by
  change (key, value) ∈ entries ↔ entries.lookup key = some value
  induction entries with
  | nil => simp
  | cons entry entries ih =>
      obtain ⟨other, content⟩ := entry
      rw [List.map_cons, List.nodup_cons] at distinct
      rw [List.mem_cons, List.lookup_cons, ih distinct.2]
      by_cases same : key = other
      · subst same
        have absent : entries.lookup key ≠ some value := by
          intro found
          exact distinct.1 (List.mem_map.mpr ⟨_, (ih distinct.2).mpr found, rfl⟩)
        simp [absent, eq_comm]
      · have different : (key == other) = false := by simpa using same
        simp [same, different]

/-- The order of entries with different keys does not matter. -/
theorem ofEntries_perm {first second : List (Key × Value)} (perm : first.Perm second)
    (distinct : (first.map Prod.fst).Nodup) : ofEntries first = ofEntries second := by
  apply KeyedStore.ext
  intro key
  apply Option.ext
  intro value
  have distinctSecond : (second.map Prod.fst).Nodup := (perm.map Prod.fst).nodup distinct
  rw [← mem_iff_get_ofEntries distinct, ← mem_iff_get_ofEntries distinctSecond, perm.mem_iff]

/-- Inserting the entries of a map one after the other gives the map. -/
theorem foldl_insert [DecidableEq Key] (distinct : (entries.map Prod.fst).Nodup) :
    entries.foldl (fun store entry => store.insert entry.1 entry.2) empty =
      ofEntries entries := by
  have extended (store : KeyedStore Key Value) (key : Key) :
      (entries.foldl (fun store entry => store.insert entry.1 entry.2) store).get key =
        (entries.lookup key).or (store.get key) := by
    induction entries generalizing store with
    | nil => rfl
    | cons entry entries ih =>
        obtain ⟨other, content⟩ := entry
        rw [List.map_cons, List.nodup_cons] at distinct
        rw [List.foldl_cons, ih distinct.2, get_insert, List.lookup_cons]
        by_cases same : key = other
        · subst same
          have absent : entries.lookup key = none := by
            rw [List.lookup_eq_none_iff]
            intro entry member
            have different : key ≠ entry.1 := by
              rintro rfl
              exact distinct.1 (List.mem_map.mpr ⟨entry, member, rfl⟩)
            simpa using different
          simp [absent]
        · have different : (key == other) = false := by simpa using same
          simp [same, different]
  apply KeyedStore.ext
  intro key
  exact (extended empty key).trans Option.or_none

end Entries

end KeyedStore
