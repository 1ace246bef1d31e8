import Qrmi.KeyedStore
import Qrmi.QrmiError
import Qrmi.Json

/-!
# Derived deserialisers of structs

A derived deserialiser reads an object member by member, or an array position by
position.  Unknown members are skipped, a field must not occur twice, and what happens
to a field that does not occur is part of its declaration.
-/

namespace DerivedStruct

/-- An error of the derived code and of the deserialisers of the basic types. -/
inductive DeserializeError
  | invalidType (unexpected : Json) (expected : String)
  | invalidValue (unexpected : Json) (expected : String)
  | invalidLength (length : Nat) (expected : String)
  | missingField (field : String)
  | duplicateField (field : String)
  | custom (message : String)

/-- A value as an error names it. -/
def describe : Json → String
  | .null => "null"
  | .bool value => s!"boolean `{value}`"
  | .number (.unsigned value) => s!"integer `{value}`"
  | .number (.negative magnitude) => s!"integer `-{magnitude}`"
  | .number (.real literal) => s!"floating point `{String.ofList literal}`"
  | .string text => s!"string {Text.debug text}"
  | .array _ => "sequence"
  | .object _ => "map"

def DeserializeError.display : DeserializeError → String
  | invalidType unexpected expected =>
      s!"invalid type: {describe unexpected}, expected {expected}"
  | invalidValue unexpected expected =>
      s!"invalid value: {describe unexpected}, expected {expected}"
  | invalidLength length expected => s!"invalid length {length}, expected {expected}"
  | missingField field => s!"missing field `{field}`"
  | duplicateField field => s!"duplicate field `{field}`"
  | custom message => message

def readString : Json → Except DeserializeError Text
  | .string text => .ok text
  | value => .error (.invalidType value "a string")

def readBool : Json → Except DeserializeError Bool
  | .bool value => .ok value
  | value => .error (.invalidType value "a boolean")

/-- A signed integer type with the given number of bits below its sign. -/
def readSigned (bits : Nat) (expected : String) : Json → Except DeserializeError Int
  | .number (.unsigned value) =>
      if value < 2 ^ bits then .ok value
      else .error (.invalidValue (.number (.unsigned value)) expected)
  | .number (.negative magnitude) =>
      if magnitude ≤ 2 ^ bits then .ok (-magnitude)
      else .error (.invalidValue (.number (.negative magnitude)) expected)
  | value => .error (.invalidType value expected)

def readI32 : Json → Except DeserializeError Int :=
  readSigned 31 "i32"

def readI64 : Json → Except DeserializeError Int :=
  readSigned 63 "i64"

section Composite

variable {α : Type} (read : Json → Except DeserializeError α)

def readOption : Json → Except DeserializeError (Option α)
  | .null => .ok none
  | value => (read value).map some

def readVec : Json → Except DeserializeError (List α)
  | .array items => items.mapM read
  | value => .error (.invalidType value "a sequence")

end Composite

/-- What happens to a field that does not occur. -/
inductive Absence
  | refused
  | none
  | default
  deriving DecidableEq

structure Field where
  name : String
  aliases : List String
  absence : Absence
  check : Json → Except DeserializeError Unit

/-- A field of a type, without another name. -/
def field {α : Type} (name : String) (read : Json → Except DeserializeError α) : Field where
  name := name
  aliases := []
  absence := .refused
  check value := (read value).map fun _ => ()

/-- A field of an optional type. -/
def optionField {α : Type} (name : String) (read : Json → Except DeserializeError α) :
    Field :=
  { field name (readOption read) with absence := .none }

/-- The values of the fields that have been read. -/
abbrev Values : Type :=
  List (String × Json)

def Values.get (values : Values) (name : String) : Json :=
  (values.lookup name).getD .null

namespace Field

def names (field : Field) : List String :=
  field.name :: field.aliases

def isNamed (field : Field) (key : Text) : Bool :=
  field.names.any fun name => name.toList = key

/-- The field is left out where that is allowed, or its value is accepted. -/
def Fits (field : Field) (document : Json) : Prop :=
  match document.member? field.name with
  | some value => field.check value = .ok ()
  | none => field.absence ≠ .refused

end Field

/-- A field of a type must occur with a value of the type. -/
theorem field_fits_iff {α : Type} {name : String} {read : Json → Except DeserializeError α}
    {document : Json} : (field name read).Fits document ↔
      ∃ value content, document.member? name = some value ∧ read value = .ok content := by
  change (match document.member? name with
    | some value => (read value).map (fun _ => ()) = .ok ()
    | none => Absence.refused ≠ .refused) ↔ _
  cases document.member? name with
  | none => simp
  | some value =>
      cases outcome : read value with
      | error error => simp [outcome, Except.map]
      | ok content => simp [outcome, Except.map]

/-- Read the next member. -/
def visit (fields : List Field) (values : Values) (member : Text × Json) :
    Except DeserializeError Values :=
  match fields.find? (·.isNamed member.1) with
  | none => .ok values
  | some field =>
      if (values.lookup field.name).isSome then .error (.duplicateField field.name)
      else do
        field.check member.2
        return (field.name, member.2) :: values

/-- The fields that must occur have done so. -/
def finish (values : Values) : List Field → Except DeserializeError Unit
  | [] => .ok ()
  | field :: fields =>
      if field.absence = .refused ∧ values.lookup field.name = none then
        .error (.missingField field.name)
      else finish values fields

/-- Read the elements of an array from a position on. -/
def readElements (expected : String) :
    Nat → List Field → List Json → Except DeserializeError Values
  | _, [], [] => .ok []
  | position, [], elements => .error
      (.invalidLength (position + elements.length) "fewer elements in array")
  | position, field :: fields, [] =>
      if field.absence = .default then readElements expected (position + 1) fields []
      else .error (.invalidLength position expected)
  | position, field :: fields, element :: elements => do
      field.check element
      let values ← readElements expected (position + 1) fields elements
      return (field.name, element) :: values

/-- The derived deserialiser of a struct. -/
def readStruct (typeName : String) (fields : List Field) :
    Json → Except DeserializeError Values
  | .object members => do
      let values ← members.foldlM (visit fields) []
      finish values fields
      return values
  | .array elements =>
      readElements s!"struct {typeName} with {fields.length} elements" 0 fields elements
  | value => .error (.invalidType value s!"struct {typeName}")

section Objects

variable {fields : List Field} {members : List (Text × Json)} {values : Values}

/-- A declaration whose fields are told apart by their names. -/
def Distinguished (fields : List Field) : Prop :=
  (fields.flatMap fun field => field.names.map String.toList).Nodup

theorem Field.isNamed_iff {field : Field} {key : Text} :
    field.isNamed key = true ↔ key ∈ field.names.map String.toList := by
  rw [Field.isNamed, List.any_eq_true, List.mem_map]
  simp only [decide_eq_true_eq]

theorem find?_of_isNamed (distinguished : Distinguished fields) {field : Field}
    (declared : field ∈ fields) {key : Text} (named : field.isNamed key = true) :
    fields.find? (·.isNamed key) = some field := by
  induction fields with
  | nil => cases declared
  | cons first fields ih =>
      rw [Distinguished, List.flatMap_cons, List.nodup_append] at distinguished
      rcases List.mem_cons.mp declared with rfl | later
      · exact List.find?_cons_of_pos named
      · have other : ¬ first.isNamed key = true := by
          rw [Field.isNamed_iff] at named ⊢
          intro shared
          exact distinguished.2.2 key shared key
            (List.mem_flatMap.mpr ⟨field, later, named⟩) rfl
        rw [List.find?_cons, Bool.eq_false_iff.mpr other]
        exact ih distinguished.2.1 later

/-- A member is skipped, refused, or kept as the value of the field that it names. -/
theorem visit_cases {key : Text} (value : Json) (distinguished : Distinguished fields)
    (plain : ∀ field ∈ fields, field.isNamed key = true → key = field.name.toList)
    (unread : ∀ field ∈ fields, key = field.name.toList → values.lookup field.name = none) :
    (∃ field ∈ fields, key = field.name.toList ∧ field.check value ≠ .ok () ∧
        ∃ error, visit fields values (key, value) = .error error) ∨
      ((∀ field ∈ fields, key = field.name.toList → field.check value = .ok ()) ∧
        ∃ next, visit fields values (key, value) = .ok next ∧
          ∀ field ∈ fields, next.lookup field.name =
            if key = field.name.toList then some value else values.lookup field.name) := by
  have isNamed : ∀ field : Field, key = field.name.toList → field.isNamed key = true := by
    intro field same
    rw [Field.isNamed_iff, same]
    exact List.mem_map_of_mem (List.mem_cons_self ..)
  rw [visit]
  cases found : fields.find? (·.isNamed key) with
  | none =>
      have unnamed : ∀ field ∈ fields, key ≠ field.name.toList := fun field declared same =>
        List.find?_eq_none.mp found field declared (isNamed field same)
      refine .inr ⟨fun field declared same => absurd same (unnamed field declared), values, rfl,
        fun field declared => ?_⟩
      rw [if_neg (unnamed field declared)]
  | some field =>
      have declared := List.mem_of_find?_eq_some found
      have named : field.isNamed key = true := by
        have holds := List.find?_some found
        exact holds
      have same := plain field declared named
      have first := unread field declared same
      have onlyField : ∀ other ∈ fields, key = other.name.toList → other = field := by
        intro other otherDeclared otherSame
        have otherFound :=
          find?_of_isNamed distinguished otherDeclared (isNamed other otherSame)
        exact Option.some.inj (otherFound.symm.trans found)
      dsimp only
      rw [first]
      cases outcome : field.check value with
      | error error =>
          refine .inl ⟨field, declared, same, ?_, error, rfl⟩
          rw [outcome]
          exact fun equal => nomatch equal
      | ok checked =>
          refine .inr ⟨fun other otherDeclared otherSame => ?_, _, rfl,
            fun other otherDeclared => ?_⟩
          · rw [onlyField other otherDeclared otherSame]
            exact outcome
          · by_cases otherSame : key = other.name.toList
            · rw [if_pos otherSame, onlyField other otherDeclared otherSame]
              exact List.lookup_cons_self
            · have differs : (other.name == field.name) = false :=
                beq_false_of_ne fun equal => otherSame (equal ▸ same)
              rw [if_neg otherSame, List.lookup_cons, differs]

/-- Every member that names a field uses the field's own name. -/
def Plain (fields : List Field) (members : List (Text × Json)) : Prop :=
  ∀ member ∈ members, ∀ field ∈ fields, field.isNamed member.1 = true →
    member.1 = field.name.toList

theorem plain_of_aliases
    (unused : ∀ name ∈ fields.flatMap Field.aliases,
      (Json.object members).member? name = none) : Plain fields members := by
  intro member present field declared named
  obtain ⟨name, isName, same⟩ := List.mem_map.mp (Field.isNamed_iff.mp named)
  rcases List.mem_cons.mp isName with rfl | isAlias
  · exact same.symm
  · have absent := unused name (List.mem_flatMap.mpr ⟨field, declared, isAlias⟩)
    have differs := List.lookup_eq_none_iff.mp absent member present
    exact absurd same (bne_iff_ne.mp differs)

/-- Members with different names are read one after another, or one of them is
refused. -/
theorem foldlM_visit_cases (distinguished : Distinguished fields)
    (distinct : (members.map Prod.fst).Nodup) (plain : Plain fields members)
    (unread : ∀ member ∈ members, ∀ field ∈ fields, member.1 = field.name.toList →
      values.lookup field.name = none) :
    (∃ member ∈ members, ∃ field ∈ fields, member.1 = field.name.toList ∧
        field.check member.2 ≠ .ok () ∧
        ∃ error, members.foldlM (visit fields) values = .error error) ∨
      ((∀ member ∈ members, ∀ field ∈ fields, member.1 = field.name.toList →
        field.check member.2 = .ok ()) ∧
        ∃ result, members.foldlM (visit fields) values = .ok result ∧
          ∀ field ∈ fields, result.lookup field.name =
            (members.lookup field.name.toList).or (values.lookup field.name)) := by
  induction members generalizing values with
  | nil =>
      refine .inr ⟨List.forall_mem_nil _, values, rfl, fun field _ => ?_⟩
      rw [List.lookup_nil, Option.none_or]
  | cons member members ih =>
      obtain ⟨key, value⟩ := member
      rw [List.map_cons, List.nodup_cons] at distinct
      obtain ⟨plainFirst, plainRest⟩ := List.forall_mem_cons.mp plain
      obtain ⟨unreadFirst, unreadRest⟩ := List.forall_mem_cons.mp unread
      rw [List.foldlM_cons]
      rcases visit_cases value distinguished plainFirst unreadFirst with
        ⟨field, declared, same, refused, error, failed⟩ | ⟨acceptedFirst, next, read, looksUp⟩
      · rw [failed]
        exact .inl ⟨_, List.mem_cons_self .., field, declared, same, refused, error, rfl⟩
      rw [read]
      have unreadNext : ∀ member ∈ members, ∀ field ∈ fields, member.1 = field.name.toList →
          next.lookup field.name = none := by
        intro member inRest field declared same
        have other : key ≠ field.name.toList := by
          intro sameKey
          exact distinct.1 (List.mem_map.mpr ⟨member, inRest, same.trans sameKey.symm⟩)
        rw [looksUp field declared, if_neg other]
        exact unreadRest member inRest field declared same
      rcases ih distinct.2 plainRest unreadNext with
        ⟨other, inRest, refusal⟩ | ⟨accepted, result, reads, looksUpAll⟩
      · exact .inl ⟨other, List.mem_cons_of_mem _ inRest, refusal⟩
      · refine .inr ⟨List.forall_mem_cons.mpr ⟨acceptedFirst, accepted⟩, result, reads,
          fun field declared => ?_⟩
        rw [looksUpAll field declared, looksUp field declared, List.lookup_cons]
        by_cases same : key = field.name.toList
        · have absent : members.lookup field.name.toList = none := by
            rw [List.lookup_eq_none_iff]
            intro member inRest
            refine bne_iff_ne.mpr fun equal => distinct.1 ?_
            exact List.mem_map.mpr ⟨member, inRest, equal.symm.trans same.symm⟩
          rw [if_pos same, absent, same, beq_self_eq_true]
          rfl
        · have differs : (field.name.toList == key) = false := beq_false_of_ne (Ne.symm same)
          rw [if_neg same, differs]

theorem finish_eq_ok_iff : finish values fields = .ok () ↔
    ∀ field ∈ fields, field.absence = .refused → values.lookup field.name ≠ none := by
  induction fields with
  | nil => simp [finish]
  | cons field fields ih =>
      rw [finish, List.forall_mem_cons, ← ih]
      split
      case isTrue missing =>
        exact ⟨fun equal => (nomatch equal), fun ⟨present, _⟩ =>
          absurd missing.2 (present missing.1)⟩
      case isFalse present =>
        exact ⟨fun finished => ⟨fun refused absent => present ⟨refused, absent⟩, finished⟩,
          And.right⟩

/-- An object with different keys is read if and only if all fields fit, and the values
of the fields are then those of its members. -/
theorem readStruct_object_cases (typeName : String) (distinguished : Distinguished fields)
    (distinct : (members.map Prod.fst).Nodup) (plain : Plain fields members) :
    ((¬ ∀ field ∈ fields, field.Fits (.object members)) ∧
        ∃ error, readStruct typeName fields (.object members) = .error error) ∨
      ((∀ field ∈ fields, field.Fits (.object members)) ∧
        ∃ values, readStruct typeName fields (.object members) = .ok values ∧
          ∀ name ∈ fields.map Field.name,
            values.lookup name = (Json.object members).member? name) := by
  have held : ∀ {key : Text} {value : Json}, (key, value) ∈ members ↔
      members.lookup key = some value := fun {_ _} => KeyedStore.mem_iff_get_ofEntries distinct
  rcases foldlM_visit_cases distinguished distinct plain (fun _ _ _ _ _ => List.lookup_nil)
    with ⟨member, present, field, declared, same, refused, error, failed⟩ |
      ⟨accepted, values, read, lookups⟩
  · refine .inl ⟨fun fits => refused ?_, error, ?_⟩
    · have stored : (Json.object members).member? field.name = some member.2 := by
        rw [Json.member?, ← same]
        exact held.mp present
      have fit := fits field declared
      rw [Field.Fits, stored] at fit
      exact fit
    · rw [readStruct, failed]
      rfl
  simp only [List.lookup_nil, Option.or_none] at lookups
  have complete_iff : finish values fields = .ok () ↔
      ∀ field ∈ fields, field.Fits (.object members) := by
    rw [finish_eq_ok_iff]
    refine forall₂_congr fun field declared => ?_
    rw [lookups field declared, Field.Fits, Json.member?]
    cases stored : members.lookup field.name.toList with
    | none => simp
    | some value => simp [accepted _ (held.mpr stored) field declared rfl]
  cases finished : finish values fields with
  | error error =>
      refine .inl ⟨fun fits => ?_, error, ?_⟩
      · rw [complete_iff.mpr fits] at finished
        cases finished
      · rw [readStruct, read]
        change (finish values fields >>= fun _ => pure values) = _
        rw [finished]
        rfl
  | ok checked =>
      refine .inr ⟨complete_iff.mp finished, values, ?_, List.forall_mem_map.mpr lookups⟩
      rw [readStruct, read]
      change (finish values fields >>= fun _ => pure values) = _
      rw [finished]
      rfl

end Objects

end DerivedStruct
