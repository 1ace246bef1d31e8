import Qrmi.Json
import Mathlib.Data.Option.Basic

/-!
# One JSON value in two libraries

Libraries agree about the structure of a JSON value and differ about its numbers.
A Rust value holds 64-bit integers and doubles, and Python holds integers of any
size and doubles.  The relation `Same` compares what two libraries hold, whatever
the order of the keys.
-/

/-- How the libraries read literals as doubles.  A literal with a fraction or an exponent
has the value that Python reads, unless there is no such number.  What `serde_json` reads,
for such a literal or for an integer beyond 64 bits, is given as the literal of another
double: it does not always round to the nearest one. -/
structure Doubles where
  value : Text → Option Rat
  serde : Text → Text
  serdeInteger : Int → Text

namespace JsonNumber

def value (doubles : Doubles) : JsonNumber → Option Rat
  | unsigned value => some value
  | negative magnitude => some (-magnitude)
  | real literal => doubles.value literal

/-- The number that `serde_json` holds.  Integers beyond 64 bits and the negative
zero become doubles. -/
def serde (doubles : Doubles) : JsonNumber → JsonNumber
  | unsigned value =>
      if value < 2 ^ 64 then unsigned value else real (doubles.serdeInteger value)
  | negative magnitude =>
      if magnitude = 0 then real "-0.0".toList
      else if magnitude ≤ 2 ^ 63 then negative magnitude
      else real (doubles.serdeInteger (-magnitude))
  | real literal => real (doubles.serde literal)

/-- The number that Python holds: its integers have one zero. -/
def python : JsonNumber → JsonNumber
  | negative 0 => unsigned 0
  | number => number

/-- Python also reads literals that have no value: those of numbers beyond the doubles, and
three words that JSON does not have. -/
def isFinite (doubles : Doubles) (number : JsonNumber) : Bool :=
  (number.value doubles).isSome

end JsonNumber

namespace Json

def isNull : Json → Bool
  | null => true
  | _ => false

def isString : Json → Bool
  | string _ => true
  | _ => false

/-- The keys of an object. -/
def keys : Json → List Text
  | object entries => entries.map Prod.fst
  | _ => []

mutual

def mapNumbers (change : JsonNumber → JsonNumber) : Json → Json
  | null => null
  | bool value => bool value
  | number value => number (change value)
  | string value => string value
  | array items => array (mapNumbersItems change items)
  | object entries => object (mapNumbersEntries change entries)

def mapNumbersItems (change : JsonNumber → JsonNumber) : List Json → List Json
  | [] => []
  | item :: items => mapNumbers change item :: mapNumbersItems change items

def mapNumbersEntries (change : JsonNumber → JsonNumber) :
    List (Text × Json) → List (Text × Json)
  | [] => []
  | (key, value) :: entries =>
      (key, mapNumbers change value) :: mapNumbersEntries change entries

end

mutual

/-- `json.dumps` with `allow_nan=False` accepts the value. -/
def isFinite (doubles : Doubles) : Json → Bool
  | number value => value.isFinite doubles
  | array items => isFiniteItems doubles items
  | object entries => isFiniteEntries doubles entries
  | _ => true

def isFiniteItems (doubles : Doubles) : List Json → Bool
  | [] => true
  | item :: items => isFinite doubles item && isFiniteItems doubles items

def isFiniteEntries (doubles : Doubles) : List (Text × Json) → Bool
  | [] => true
  | (_, value) :: entries => isFinite doubles value && isFiniteEntries doubles entries

end

/-- What the text of a JSON value can hold: no key twice, and no number beyond the
doubles. -/
structure IsValue (doubles : Doubles) (document : Json) : Prop where
  finite : document.isFinite doubles = true
  distinct : document.keys.Nodup

/-- Two libraries hold the same JSON value. -/
inductive Same (doubles : Doubles) : Json → Json → Prop
  | null : Same doubles null null
  | bool (value : Bool) : Same doubles (bool value) (bool value)
  | number {first second : JsonNumber} (equal : first.value doubles = second.value doubles) :
      Same doubles (number first) (number second)
  | string (value : Text) : Same doubles (string value) (string value)
  | array {first second : List Json} (items : List.Forall₂ (Same doubles) first second) :
      Same doubles (array first) (array second)
  | object {first second : List (Text × Json)}
      (members : ∀ key, Option.Rel (Same doubles) (first.lookup key) (second.lookup key)) :
      Same doubles (object first) (object second)

section Lookup

variable {entries : List (Text × Json)} {key : Text}

theorem lookup_isSome_iff : (entries.lookup key).isSome = true ↔ key ∈ entries.map Prod.fst := by
  induction entries with
  | nil => simp
  | cons entry entries ih =>
      obtain ⟨other, value⟩ := entry
      by_cases same : key = other
      · simp [same]
      · have different : (key == other) = false := by simpa using same
        simp [List.lookup_cons, different, ih, same]

theorem get_eq_getD (document : Json) (key : String) :
    document.get key = (document.member? key).getD null := by
  cases document <;> rfl

theorem member?_isSome_iff {document : Json} {key : String} :
    (document.member? key).isSome = true ↔ key.toList ∈ document.keys := by
  cases document with
  | object entries => exact lookup_isSome_iff
  | _ => simp [member?, keys]

end Lookup

section Numbers

variable {change : JsonNumber → JsonNumber}

theorem lookup_mapNumbersEntries (entries : List (Text × Json)) (key : Text) :
    (mapNumbersEntries change entries).lookup key =
      (entries.lookup key).map (mapNumbers change) := by
  induction entries with
  | nil => rfl
  | cons entry entries ih =>
      obtain ⟨other, value⟩ := entry
      change ((other, mapNumbers change value) :: mapNumbersEntries change entries).lookup key = _
      rw [List.lookup_cons, List.lookup_cons, ih]
      split <;> rfl

theorem map_fst_mapNumbersEntries (entries : List (Text × Json)) :
    (mapNumbersEntries change entries).map Prod.fst = entries.map Prod.fst := by
  induction entries with
  | nil => rfl
  | cons entry entries ih => exact congrArg (entry.1 :: ·) ih

@[simp]
theorem member?_mapNumbers (document : Json) (key : String) :
    (document.mapNumbers change).member? key =
      (document.member? key).map (mapNumbers change) := by
  cases document with
  | object entries =>
      exact lookup_mapNumbersEntries entries _
  | _ => rfl

@[simp]
theorem keys_mapNumbers (document : Json) :
    (document.mapNumbers change).keys = document.keys := by
  cases document with
  | object entries =>
      exact map_fst_mapNumbersEntries entries
  | _ => rfl

@[simp]
theorem asString_mapNumbers (document : Json) :
    (document.mapNumbers change).asString = document.asString := by
  cases document <;> rfl

@[simp]
theorem isObject_mapNumbers (document : Json) :
    (document.mapNumbers change).isObject = document.isObject := by
  cases document <;> rfl

@[simp]
theorem isNull_mapNumbers (document : Json) :
    (document.mapNumbers change).isNull = document.isNull := by
  cases document <;> rfl

@[simp]
theorem isString_mapNumbers (document : Json) :
    (document.mapNumbers change).isString = document.isString := by
  cases document <;> rfl

/-- A string holds no number. -/
theorem mapNumbers_of_isString {document : Json} (text : document.isString) :
    document.mapNumbers change = document := by
  cases document with
  | string value => rfl
  | _ => cases text

end Numbers

/-- A value as `serde_json` holds it. -/
abbrev serde (doubles : Doubles) (document : Json) : Json :=
  document.mapNumbers (JsonNumber.serde doubles)

/-- A value as Python holds it. -/
abbrev python (document : Json) : Json :=
  document.mapNumbers JsonNumber.python

section Finiteness

variable {doubles : Doubles}

theorem isFinite_pythonNumber (number : JsonNumber) :
    number.python.isFinite doubles = number.isFinite doubles := by
  cases number with
  | negative magnitude => cases magnitude <;> rfl
  | _ => rfl

mutual

/-- Python reads no number of a JSON value as one that JSON does not have. -/
theorem isFinite_python :
    (document : Json) → document.python.isFinite doubles = document.isFinite doubles
  | null | bool _ | string _ => by simp [python, mapNumbers, isFinite]
  | number value => by
      simp only [python, mapNumbers, isFinite]
      exact isFinite_pythonNumber value
  | array items => by
      simp only [python, mapNumbers, isFinite]
      exact isFiniteItems_python items
  | object entries => by
      simp only [python, mapNumbers, isFinite]
      exact isFiniteEntries_python entries

theorem isFiniteItems_python : (items : List Json) →
    isFiniteItems doubles (mapNumbersItems JsonNumber.python items) =
      isFiniteItems doubles items
  | [] => rfl
  | item :: items => by
      rw [mapNumbersItems, isFiniteItems, isFiniteItems, isFinite_python item,
        isFiniteItems_python items]

theorem isFiniteEntries_python : (entries : List (Text × Json)) →
    isFiniteEntries doubles (mapNumbersEntries JsonNumber.python entries) =
      isFiniteEntries doubles entries
  | [] => rfl
  | (_, value) :: entries => by
      rw [mapNumbersEntries, isFiniteEntries, isFiniteEntries, isFinite_python value,
        isFiniteEntries_python entries]

end

theorem isFinite_of_lookup {entries : List (Text × Json)} {key : Text} {value : Json}
    (finite : isFiniteEntries doubles entries = true) (found : entries.lookup key = some value) :
    value.isFinite doubles = true := by
  induction entries with
  | nil => cases found
  | cons entry entries ih =>
      obtain ⟨other, content⟩ := entry
      rw [isFiniteEntries, Bool.and_eq_true] at finite
      rw [List.lookup_cons] at found
      split at found
      · obtain rfl := Option.some.inj found
        exact finite.1
      · exact ih finite.2 found

theorem isFinite_of_member? {document member : Json} {key : String}
    (finite : document.isFinite doubles = true)
    (found : document.member? key = some member) : member.isFinite doubles = true := by
  cases document with
  | object entries =>
      rw [isFinite] at finite
      exact isFinite_of_lookup finite found
  | _ => cases found

end Finiteness

section Sameness

variable {doubles : Doubles} {first second : Json}

theorem Same.isObject (same : Same doubles first second) :
    first.isObject = second.isObject := by
  cases same <;> rfl

/-- The same member is present on both sides, or on none. -/
theorem Same.member? (same : Same doubles first second) (key : String) :
    Option.Rel (Same doubles) (first.member? key) (second.member? key) := by
  cases same with
  | object members => exact members key.toList
  | _ => exact .none

theorem Same.mem_keys_iff (same : Same doubles first second) (key : Text) :
    key ∈ first.keys ↔ key ∈ second.keys := by
  cases same with
  | @object first second members =>
      rw [keys, keys, ← lookup_isSome_iff, ← lookup_isSome_iff]
      have related : Option.Rel (Same doubles) (first.lookup key) (second.lookup key) :=
        members key
      have alike : (first.lookup key).isSome = (second.lookup key).isSome := by
        generalize first.lookup key = found at related ⊢
        generalize second.lookup key = other at related ⊢
        cases related <;> rfl
      rw [alike]
  | _ => rfl

end Sameness

end Json
