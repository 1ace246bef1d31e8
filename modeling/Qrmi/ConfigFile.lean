import Qrmi.CInterface
import Qrmi.Json

/-!
# The configuration file

A configuration file is a JSON text with a list of resource definitions.  The
definitions are collected by name, and a later definition replaces an earlier one of
its name.
-/

/-- A resource definition, whatever the order of its environment. -/
structure ResourceDefinition where
  name : Text
  resourceType : ResourceType
  isDynamic : Bool
  environment : KeyedStore Text Text

namespace ConfigFile

/-- An error of the derived deserialisers, without its position in the text. -/
inductive DeserializeError
  | invalidType (expected : String)
  | missingField (field : String)
  | duplicateField (field : String)
  | unknownVariant (variant : Text)
  | invalidLength (length : Nat)
  | trailingElements

section Fields

variable {α : Type}

def deserializeString : Json → Except DeserializeError Text
  | .string content => .ok content
  | _ => .error (.invalidType "a string")

def deserializeBool : Json → Except DeserializeError Bool
  | .bool value => .ok value
  | _ => .error (.invalidType "a boolean")

/-- `impl Deserialize for ResourceType`. -/
def deserializeResourceType (value : Json) : Except DeserializeError ResourceType := do
  let text ← deserializeString value
  match ResourceType.fromQpuTypeStr text with
  | some resourceType => .ok resourceType
  | none => .error (.unknownVariant text)

/-- A map of strings.  A later entry replaces an earlier one of its key. -/
def deserializeEnvironment : Json → Except DeserializeError (KeyedStore Text Text)
  | .object members =>
      members.foldlM (fun map member => do
        let content ← deserializeString member.2
        return map.insert member.1 content) .empty
  | _ => .error (.invalidType "a map")

/-- A field must not occur again. -/
def once (field : String) (present : Option α) (read : Except DeserializeError α) :
    Except DeserializeError (Option α) :=
  match present with
  | some _ => .error (.duplicateField field)
  | none => read.map some

def required (field : String) : Option α → Except DeserializeError α
  | some content => .ok content
  | none => .error (.missingField field)

/-- The element of an array at the position of a field. -/
def elementAt (elements : List Json) (position : Nat)
    (read : Json → Except DeserializeError α) : Except DeserializeError α :=
  match elements[position]? with
  | some element => read element
  | none => .error (.invalidLength position)

end Fields

/-- The fields of a definition that have been read. -/
structure DefinitionFields where
  name : Option Text
  resourceType : Option ResourceType
  isDynamic : Option Bool
  environment : Option (KeyedStore Text Text)

namespace DefinitionFields

def unread : DefinitionFields where
  name := none
  resourceType := none
  isDynamic := none
  environment := none

/-- Read the next member.  Unknown ones are skipped. -/
def visit (fields : DefinitionFields) (member : Text × Json) :
    Except DeserializeError DefinitionFields :=
  if member.1 = "name".toList then do
    let name ← once "name" fields.name (deserializeString member.2)
    return { fields with name := name }
  else if member.1 = "type".toList then do
    let resourceType ← once "type" fields.resourceType (deserializeResourceType member.2)
    return { fields with resourceType := resourceType }
  else if member.1 = "is_dynamic".toList then do
    let isDynamic ← once "is_dynamic" fields.isDynamic (deserializeBool member.2)
    return { fields with isDynamic := isDynamic }
  else if member.1 = "environment".toList then do
    let environment ←
      once "environment" fields.environment (deserializeEnvironment member.2)
    return { fields with environment := environment }
  else .ok fields

def finish (fields : DefinitionFields) : Except DeserializeError ResourceDefinition := do
  let name ← required "name" fields.name
  let resourceType ← required "type" fields.resourceType
  let environment ← required "environment" fields.environment
  return {
    name := name
    resourceType := resourceType
    isDynamic := fields.isDynamic.getD false
    environment := environment }

end DefinitionFields

/-- The derived deserialiser of `ResourceDef`. -/
def deserializeDefinition : Json → Except DeserializeError ResourceDefinition
  | .object members => do
      let fields ← members.foldlM DefinitionFields.visit .unread
      fields.finish
  | .array elements => do
      let name ← elementAt elements 0 deserializeString
      let resourceType ← elementAt elements 1 deserializeResourceType
      let isDynamic ←
        if elements.length ≤ 2 then .ok false else elementAt elements 2 deserializeBool
      let environment ← elementAt elements 3 deserializeEnvironment
      if 4 < elements.length then .error .trailingElements
      else return {
        name := name
        resourceType := resourceType
        isDynamic := isDynamic
        environment := environment }
  | _ => .error (.invalidType "struct ResourceDef")

def deserializeDefinitions : Json → Except DeserializeError (List ResourceDefinition)
  | .array elements => elements.mapM deserializeDefinition
  | _ => .error (.invalidType "a sequence")

/-- The derived deserialiser of `ResourceDefs`. -/
def deserializeResourceDefs : Json → Except DeserializeError (List ResourceDefinition)
  | .object members => do
      let resources ← members.foldlM (fun resources member =>
        if member.1 = "resources".toList then
          once "resources" resources (deserializeDefinitions member.2)
        else .ok resources) none
      required "resources" resources
  | .array elements => do
      let resources ← elementAt elements 0 deserializeDefinitions
      if 1 < elements.length then .error .trailingElements
      else return resources
  | _ => .error (.invalidType "struct ResourceDefs")

/-- What opening and reading a file yields. -/
inductive FileContent
  | notOpened (reason : String)
  | notRead (reason : String)
  | text (content : Text)

/-- An error of `Config::load`. -/
inductive LoadError
  | report (text : String)
  | notRead (reason : String)
  | malformed (message : String)
  | invalid (error : DeserializeError)

/-- The definitions by name: each one is inserted in turn. -/
def collect (items : List ResourceDefinition) : KeyedStore Text ResourceDefinition :=
  items.foldl (fun map item => map.insert item.name item) .empty

/-- `serde_json::from_str`, over the JSON syntax.  The members of an object are
visited in the order of the text. -/
def fromStr (parse : Text → Except String Json) (text : Text) :
    Except LoadError (List ResourceDefinition) := do
  let document ← (parse text).mapError .malformed
  (deserializeResourceDefs document).mapError .invalid

/-- `Config::load`. -/
def load (parse : Text → Except String Json) (files : Text → FileContent)
    (filename : Text) : Except LoadError (KeyedStore Text ResourceDefinition) :=
  match files filename with
  | .notOpened reason => .error (.report
      s!"Failed to open {String.ofList filename}. reason = {reason}")
  | .notRead reason => .error (.notRead reason)
  | .text content => do
      let items ← fromStr parse content
      return collect items

/-- Every definition is found under its own name. -/
theorem name_of_collect {items : List ResourceDefinition} {name : Text}
    {definition : ResourceDefinition}
    (found : (collect items).get name = some definition) : definition.name = name := by
  have named : ∀ map : KeyedStore Text ResourceDefinition,
      (∀ key held, map.get key = some held → held.name = key) →
        (items.foldl (fun map item => map.insert item.name item) map).get name =
          some definition → definition.name = name := by
    clear found
    induction items with
    | nil =>
        intro map held found
        exact held name definition found
    | cons item items ih =>
        intro map held found
        refine ih (map.insert item.name item) ?_ found
        intro key other inserted
        rw [KeyedStore.get_insert] at inserted
        split at inserted
        · rename_i same
          rw [← Option.some.inj inserted, same]
        · exact held key other inserted
  refine named .empty ?_ found
  intro key held impossible
  cases impossible

theorem name_of_load {parse : Text → Except String Json} {files : Text → FileContent}
    {filename name : Text} {map : KeyedStore Text ResourceDefinition}
    {definition : ResourceDefinition} (loaded : load parse files filename = .ok map)
    (found : map.get name = some definition) : definition.name = name := by
  unfold load at loaded
  cases content : files filename with
  | notOpened reason =>
      rw [content] at loaded
      cases loaded
  | notRead reason =>
      rw [content] at loaded
      cases loaded
  | text text =>
      rw [content] at loaded
      dsimp only at loaded
      cases read : fromStr parse text with
      | error error =>
          rw [read] at loaded
          cases loaded
      | ok items =>
          rw [read] at loaded
          cases loaded
          exact name_of_collect found

end ConfigFile
