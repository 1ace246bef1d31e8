import Qrmi.CFunctions
import Qrmi.ConfigFile
import Qrmi.RustPanic
import Qrmi.Utf8

/-!
# Resource definitions across the C boundary

A resource definition is handed out to C as a struct of freshly allocated strings,
and it is read back from such a struct.  A text that holds a nul cannot be
allocated: the conversion panics, and no function of the interface survives a panic.
-/

open Interaction

/-- `CString::new(text).unwrap()`. -/
def cstringNew (text : Text) : MayPanic CStr :=
  if noNul : 0 ∉ Text.utf8 text then .returned ⟨Text.utf8 text, noNul⟩ else .panicked

theorem zero_mem_utf8_iff {text : Text} : 0 ∈ Text.utf8 text ↔ '\x00' ∈ text :=
  Text.mem_utf8_iff (by decide : '\x00'.toNat < 128)

/-- Decoding recovers exactly the text that was encoded. -/
theorem decodeUtf8_eq_some_iff {bytes : List UInt8} {text : Text} :
    decodeUtf8 bytes = some text ↔ Text.utf8 text = bytes := by
  constructor
  · intro decoded
    rw [decodeUtf8, String.fromUTF8?] at decoded
    split at decoded
    · rename_i valid
      have inside : (String.fromUTF8 bytes.toByteArray valid).toList = text :=
        Option.some.inj decoded
      have encoded : text.utf8Encode = bytes.toByteArray := by
        rw [← inside, String.utf8Encode_toList]
        rfl
      exact List.toByteArray_inj.mp ((Text.utf8Encode_eq text).symm.trans encoded)
    · cases decoded
  · rintro rfl
    have valid : (Text.utf8 text).toByteArray.IsValidUTF8 := ⟨text, rfl⟩
    rw [decodeUtf8, String.fromUTF8?, dif_pos valid, Option.map_some]
    have string : String.fromUTF8 (Text.utf8 text).toByteArray valid = String.ofList text := rfl
    rw [string, String.toList_ofList]

/-- A text is converted to the C string that it is decoded from. -/
theorem cstringNew_eq_returned_iff {text : Text} {string : CStr} :
    cstringNew text = .returned string ↔ string.toStr = some text := by
  rw [CStr.toStr, decodeUtf8_eq_some_iff, cstringNew]
  obtain ⟨bytes, noNul⟩ := string
  constructor
  · intro returned
    split at returned
    · cases returned
      rfl
    · cases returned
  · rintro rfl
    exact dif_pos noNul

theorem exists_cstringNew_iff {text : Text} :
    (∃ string, cstringNew text = .returned string) ↔ '\x00' ∉ text := by
  rw [← zero_mem_utf8_iff, cstringNew]
  constructor
  · rintro ⟨string, returned⟩
    split at returned
    · assumption
    · cases returned
  · intro noNul
    exact ⟨⟨Text.utf8 text, noNul⟩, dif_pos noNul⟩

/-- The C struct of a resource definition.  Its map is an array of key-value
pairs with a length. -/
structure CResourceDef where
  name : Option CStr
  resourceType : ResourceType
  isDynamic : Bool
  environments : EnvironmentVariables

namespace ConfigBoundary

/-- The pair of one entry. -/
def keyValue (entry : Text × Text) : MayPanic (Option CStr × Option CStr) := do
  let key ← cstringNew entry.1
  let value ← cstringNew entry.2
  return (some key, some value)

/-- The struct of a definition, whose environment is taken in the order of its
iteration. -/
def cResourceDef (resource : ResourceDef) : MayPanic CResourceDef := do
  let environments ← resource.environment.mapM keyValue
  let name ← cstringNew resource.name
  return {
    name := some name
    resourceType := resource.resourceType
    isDynamic := resource.isDynamic
    environments := environments }

/-- `qrmi_config_resource_def_get`, for a configuration and an identifier that are
given. -/
def resourceDefGet (config : Config) (resourceId : CStr) : MayPanic (Option CResourceDef) :=
  match resourceId.toStr with
  | none => return none
  | some id =>
      match config.resourceMap.lookup id with
      | none => return none
      | some resource => do
          let handed ← cResourceDef resource
          return some handed

/-- `qrmi_config_resource_names_get`, for a configuration that is given. -/
def resourceNamesGet (config : Config) : MayPanic (List CStr) :=
  config.resourceMap.mapM fun entry => cstringNew entry.1

/-- `rebuild_resource_def`. -/
def rebuildResourceDef (definition : CResourceDef) : Except String ResourceDefinition := do
  let name ←
    match definition.name with
    | none => .ok []
    | some string =>
        match string.toStr with
        | some text => .ok text
        | none => .error s!"Invalid UTF-8 in resource name: {string.utf8Error}"
  let environment ← CFunction.envvarsToHashmap definition.environments .empty
  return {
    name := name
    resourceType := definition.resourceType
    isDynamic := definition.isDynamic
    environment := environment }

/-- What a definition in memory says. -/
def definition (resource : ResourceDef) : ResourceDefinition where
  name := resource.name
  resourceType := resource.resourceType
  isDynamic := resource.isDynamic
  environment := .ofEntries resource.environment

/-- A configuration in memory holds a map of definitions, each hash map in some order
of its iteration. -/
structure Holds (config : Config) (map : KeyedStore Text ResourceDefinition) : Prop where
  names : (config.resourceMap.map Prod.fst).Nodup
  keys : ∀ entry ∈ config.resourceMap, (entry.2.environment.map Prod.fst).Nodup
  found : ∀ name, (config.resourceMap.lookup name).map definition = map.get name

/-- No text of a definition contains a nul. -/
structure NulFree (definition : ResourceDefinition) : Prop where
  name : '\x00' ∉ definition.name
  environment : ∀ key value, definition.environment.get key = some value →
    '\x00' ∉ key ∧ '\x00' ∉ value

/-- What the interface promises for a loaded configuration: it lists the names of all
definitions, and the struct of each listed name is read back as its definition.  The
exported functions count the names and hand out the definitions. -/
def Survives (config : Config) (map : KeyedStore Text ResourceDefinition) : Prop :=
  ∃ names, resourceNamesGet config = .returned names ∧
    CFunction.qrmiConfigResourceNamesGet (some config) true = (do
      Method.modify (CThread.store (.count names.length))
      CFunction.succeedWith (.texts (config.resourceMap.map Prod.fst))) ∧
    (∀ name, (map.get name).isSome = true ↔ ∃ id ∈ names, id.toStr = some name) ∧
    ∀ id ∈ names, ∃ name resource handed, id.toStr = some name ∧
      map.get name = some (definition resource) ∧ resource.name = name ∧
      CFunction.qrmiConfigResourceDefGet (some config) (some id) =
        pure (.handle (some (.resourceDef resource))) ∧
      resourceDefGet config id = .returned (some handed) ∧
      rebuildResourceDef handed = .ok (definition resource)

section Allocation

variable {resource : ResourceDef} {handed : CResourceDef}

theorem keyValue_eq_returned_iff {entry : Text × Text} {pair : Option CStr × Option CStr} :
    keyValue entry = .returned pair ↔
      ∃ key value, key.toStr = some entry.1 ∧ value.toStr = some entry.2 ∧
        pair = (some key, some value) := by
  rw [keyValue, MayPanic.bind_eq_returned_iff]
  refine exists_congr fun key => ?_
  rw [MayPanic.bind_eq_returned_iff, cstringNew_eq_returned_iff]
  constructor
  · rintro ⟨decoded, value, returned, equal⟩
    exact ⟨value, decoded, cstringNew_eq_returned_iff.mp returned,
      (MayPanic.returned.inj equal).symm⟩
  · rintro ⟨value, decoded, returned, rfl⟩
    exact ⟨decoded, value, cstringNew_eq_returned_iff.mpr returned, rfl⟩

theorem exists_keyValue_iff {entry : Text × Text} :
    (∃ pair, keyValue entry = .returned pair) ↔
      '\x00' ∉ entry.1 ∧ '\x00' ∉ entry.2 := by
  rw [← exists_cstringNew_iff, ← exists_cstringNew_iff]
  constructor
  · rintro ⟨pair, returned⟩
    obtain ⟨key, value, first, second, -⟩ := keyValue_eq_returned_iff.mp returned
    exact ⟨⟨key, cstringNew_eq_returned_iff.mpr first⟩,
      ⟨value, cstringNew_eq_returned_iff.mpr second⟩⟩
  · rintro ⟨⟨key, first⟩, ⟨value, second⟩⟩
    exact ⟨(some key, some value), keyValue_eq_returned_iff.mpr
      ⟨key, value, cstringNew_eq_returned_iff.mp first,
        cstringNew_eq_returned_iff.mp second, rfl⟩⟩

theorem cResourceDef_eq_returned_iff :
    cResourceDef resource = .returned handed ↔
      ∃ environments name, resource.environment.mapM keyValue = .returned environments ∧
        name.toStr = some resource.name ∧
        handed = ⟨some name, resource.resourceType, resource.isDynamic, environments⟩ := by
  rw [cResourceDef, MayPanic.bind_eq_returned_iff]
  refine exists_congr fun environments => ?_
  rw [MayPanic.bind_eq_returned_iff]
  constructor
  · rintro ⟨looped, name, returned, equal⟩
    exact ⟨name, looped, cstringNew_eq_returned_iff.mp returned,
      (MayPanic.returned.inj equal).symm⟩
  · rintro ⟨name, looped, decoded, rfl⟩
    exact ⟨looped, name, cstringNew_eq_returned_iff.mpr decoded, rfl⟩

/-- A struct is allocated when no text contains a nul. -/
theorem exists_cResourceDef_iff :
    (∃ handed, cResourceDef resource = .returned handed) ↔
      '\x00' ∉ resource.name ∧
        ∀ entry ∈ resource.environment, '\x00' ∉ entry.1 ∧ '\x00' ∉ entry.2 := by
  constructor
  · rintro ⟨handed, returned⟩
    obtain ⟨environments, name, looped, decoded, -⟩ := cResourceDef_eq_returned_iff.mp returned
    refine ⟨exists_cstringNew_iff.mp ⟨name, cstringNew_eq_returned_iff.mpr decoded⟩, ?_⟩
    intro entry member
    exact exists_keyValue_iff.mp
      (MayPanic.exists_mapM_eq_returned_iff.mp ⟨environments, looped⟩ entry member)
  · rintro ⟨nameFree, entriesFree⟩
    obtain ⟨name, allocated⟩ := exists_cstringNew_iff.mpr nameFree
    obtain ⟨environments, looped⟩ := MayPanic.exists_mapM_eq_returned_iff.mpr
      fun entry member => exists_keyValue_iff.mpr (entriesFree entry member)
    exact ⟨_, cResourceDef_eq_returned_iff.mpr
      ⟨environments, name, looped, cstringNew_eq_returned_iff.mp allocated, rfl⟩⟩

theorem nulFree_iff (distinct : (resource.environment.map Prod.fst).Nodup) :
    NulFree (definition resource) ↔ ∃ handed, cResourceDef resource = .returned handed := by
  rw [exists_cResourceDef_iff]
  constructor
  · intro free
    refine ⟨free.name, ?_⟩
    intro entry member
    exact free.environment entry.1 entry.2
      ((KeyedStore.mem_iff_get_ofEntries distinct).mp member)
  · rintro ⟨name, entries⟩
    refine ⟨name, ?_⟩
    intro key value found
    exact entries (key, value) ((KeyedStore.mem_iff_get_ofEntries distinct).mpr found)

end Allocation

section Reading

variable {resource : ResourceDef} {handed : CResourceDef}

/-- The pairs are inserted in their order. -/
theorem envvarsToHashmap_of_keyValue {entries : List (Text × Text)}
    {pairs : EnvironmentVariables} {map : KeyedStore Text Text}
    (converted : List.Forall₂ (fun entry pair => keyValue entry = .returned pair)
      entries pairs) :
    CFunction.envvarsToHashmap pairs map =
      .ok (entries.foldl (fun map entry => map.insert entry.1 entry.2) map) := by
  induction converted generalizing map with
  | nil => rfl
  | cons returned _ ih =>
      obtain ⟨key, value, first, second, rfl⟩ := keyValue_eq_returned_iff.mp returned
      rw [CFunction.envvarsToHashmap, first]
      dsimp only
      rw [second]
      exact ih

/-- The struct of a definition is read back as the definition. -/
theorem rebuildResourceDef_cResourceDef
    (distinct : (resource.environment.map Prod.fst).Nodup)
    (returned : cResourceDef resource = .returned handed) :
    rebuildResourceDef handed = .ok (definition resource) := by
  obtain ⟨environments, name, looped, decoded, rfl⟩ :=
    cResourceDef_eq_returned_iff.mp returned
  have collected : CFunction.envvarsToHashmap environments .empty =
      .ok (.ofEntries resource.environment) := by
    rw [envvarsToHashmap_of_keyValue (MayPanic.mapM_eq_returned_iff.mp looped),
      KeyedStore.foldl_insert distinct]
  rw [rebuildResourceDef]
  dsimp only
  rw [decoded, collected]
  rfl

end Reading

section Exported

variable {config : Config} {id : CStr}

theorem isConvertible_iff {resource : ResourceDef} :
    CFunction.ResourceDef.isConvertible resource = true ↔
      ∃ handed, cResourceDef resource = .returned handed := by
  rw [exists_cResourceDef_iff]
  simp [CFunction.ResourceDef.isConvertible]

/-- A definition is handed out, unless its struct cannot be made: that panics, and the
process ends. -/
theorem qrmiConfigResourceDefGet_of_lookup {name : Text} {resource : ResourceDef}
    (decoded : id.toStr = some name) (found : config.resourceMap.lookup name = some resource) :
    CFunction.qrmiConfigResourceDefGet (some config) (some id) =
      if CFunction.ResourceDef.isConvertible resource then
        pure (.handle (some (.resourceDef resource)))
      else CFunction.abort := by
  unfold CFunction.qrmiConfigResourceDefGet
  dsimp only
  rw [decoded]
  dsimp only
  rw [found]

/-- The names are counted and handed out. -/
theorem qrmiConfigResourceNamesGet_of_returned {names : List CStr}
    (listed : resourceNamesGet config = .returned names) :
    CFunction.qrmiConfigResourceNamesGet (some config) true = (do
      Method.modify (CThread.store (.count names.length))
      CFunction.succeedWith (.texts (config.resourceMap.map Prod.fst))) := by
  have free : ∀ key ∈ config.resourceMap.map Prod.fst, '\x00' ∉ key := by
    intro key inKeys
    obtain ⟨entry, member, rfl⟩ := List.mem_map.mp inKeys
    exact exists_cstringNew_iff.mp
      (MayPanic.exists_mapM_eq_returned_iff.mp ⟨names, listed⟩ entry member)
  have counted : names.length = (config.resourceMap.map Prod.fst).length := by
    rw [List.length_map]
    exact (MayPanic.mapM_eq_returned_iff.mp listed).length_eq.symm
  rw [counted]
  exact if_pos (by simpa using free)

end Exported

section Loaded

variable {parse : Text → Except String Json} {files : Text → ConfigFile.FileContent}
variable {filename name : Text} {map : KeyedStore Text ResourceDefinition} {config : Config}
variable {stored : ResourceDefinition}

theorem Holds.get_eq_some_iff (holds : Holds config map) :
    map.get name = some stored ↔
      ∃ resource, (name, resource) ∈ config.resourceMap ∧ definition resource = stored := by
  rw [← holds.found name, Option.map_eq_some_iff]
  exact exists_congr fun resource => and_congr_left fun _ =>
    (KeyedStore.mem_iff_get_ofEntries holds.names).symm

theorem Holds.lookup_of_mem (holds : Holds config map) {resource : ResourceDef}
    (member : (name, resource) ∈ config.resourceMap) :
    config.resourceMap.lookup name = some resource :=
  (KeyedStore.mem_iff_get_ofEntries holds.names).mp member

theorem resourceDefGet_of_mem (holds : Holds config map) {id : CStr} {resource : ResourceDef}
    (decoded : id.toStr = some name) (member : (name, resource) ∈ config.resourceMap) :
    resourceDefGet config id = (do
      let handed ← cResourceDef resource
      return some handed) := by
  simp only [resourceDefGet, decoded, holds.lookup_of_mem member]

/-- The listed names are those of the map. -/
theorem mem_names_iff (holds : Holds config map) {names : List CStr}
    (listed : resourceNamesGet config = .returned names) :
    (map.get name).isSome = true ↔ ∃ id ∈ names, id.toStr = some name := by
  rw [Option.isSome_iff_exists]
  constructor
  · rintro ⟨stored, found⟩
    obtain ⟨resource, member, -⟩ := holds.get_eq_some_iff.mp found
    obtain ⟨id, allocated⟩ :=
      MayPanic.exists_mapM_eq_returned_iff.mp ⟨names, listed⟩ _ member
    exact ⟨id, (MayPanic.mem_iff_of_mapM listed).mpr ⟨_, member, allocated⟩,
      cstringNew_eq_returned_iff.mp allocated⟩
  · rintro ⟨id, inNames, decoded⟩
    obtain ⟨⟨other, resource⟩, member, allocated⟩ :=
      (MayPanic.mem_iff_of_mapM listed).mp inNames
    obtain rfl : other = name :=
      Option.some.inj ((cstringNew_eq_returned_iff.mp allocated).symm.trans decoded)
    exact ⟨definition resource, holds.get_eq_some_iff.mpr ⟨resource, member, rfl⟩⟩

/-- A configuration survives the boundary exactly when no text of its definitions
contains a nul. -/
theorem survives_iff (loaded : ConfigFile.load parse files filename = .ok map)
    (holds : Holds config map) :
    Survives config map ↔ ∀ name stored, map.get name = some stored → NulFree stored := by
  constructor
  · rintro ⟨names, listed, -, all, chain⟩ name stored found
    obtain ⟨id, inNames, decoded⟩ := (all name).mp (by rw [found]; rfl)
    obtain ⟨other, -, handed, same, -, -, -, returned, -⟩ := chain id inNames
    obtain rfl : name = other := Option.some.inj (decoded.symm.trans same)
    obtain ⟨resource, member, rfl⟩ := holds.get_eq_some_iff.mp found
    rw [resourceDefGet_of_mem holds decoded member] at returned
    obtain ⟨struct, allocated, -⟩ := MayPanic.bind_eq_returned_iff.mp returned
    exact (nulFree_iff (holds.keys _ member)).mpr ⟨struct, allocated⟩
  · intro free
    have named {name : Text} {resource : ResourceDef}
        (member : (name, resource) ∈ config.resourceMap) : resource.name = name :=
      ConfigFile.name_of_load loaded (holds.get_eq_some_iff.mpr ⟨resource, member, rfl⟩)
    have allFree {name : Text} {resource : ResourceDef}
        (member : (name, resource) ∈ config.resourceMap) : NulFree (definition resource) :=
      free name _ (holds.get_eq_some_iff.mpr ⟨resource, member, rfl⟩)
    obtain ⟨names, listed⟩ : ∃ names, resourceNamesGet config = .returned names := by
      apply MayPanic.exists_mapM_eq_returned_iff.mpr
      rintro ⟨name, resource⟩ member
      have nameFree := (allFree member).name
      rw [definition, named member] at nameFree
      exact exists_cstringNew_iff.mpr nameFree
    refine ⟨names, listed, qrmiConfigResourceNamesGet_of_returned listed,
      fun name => mem_names_iff holds listed, ?_⟩
    intro id inNames
    obtain ⟨⟨name, resource⟩, member, allocated⟩ :=
      (MayPanic.mem_iff_of_mapM listed).mp inNames
    have decoded : id.toStr = some name := cstringNew_eq_returned_iff.mp allocated
    have distinct : (resource.environment.map Prod.fst).Nodup := holds.keys _ member
    obtain ⟨handed, returned⟩ := (nulFree_iff distinct).mp (allFree member)
    refine ⟨name, resource, handed, decoded,
      holds.get_eq_some_iff.mpr ⟨resource, member, rfl⟩, named member, ?_, ?_,
      rebuildResourceDef_cResourceDef distinct returned⟩
    · rw [qrmiConfigResourceDefGet_of_lookup decoded (holds.lookup_of_mem member)]
      exact if_pos (isConvertible_iff.mpr ⟨handed, returned⟩)
    · rw [resourceDefGet_of_mem holds decoded member, returned]
      rfl

end Loaded

namespace EscapedValue

/-- A configuration file with one variable, whose value is written as given. -/
def source (escaped : String) : Text :=
  ("\x7b\"resources\":[\x7b\"name\":\"q\",\"type\":\"maestro-local\"," ++
    "\"environment\":\x7b\"K\":\"" ++ escaped ++ "\"\x7d\x7d]\x7d").toList

def document (value : Text) : Json :=
  .object [("resources".toList, .array [.object [
    ("name".toList, .string "q".toList),
    ("type".toList, .string "maestro-local".toList),
    ("environment".toList, .object [("K".toList, .string value)])]])]

/-- The JSON syntax, as far as that file. -/
def parse (escaped : String) (value : Text) (text : Text) : Except String Json :=
  if text = source escaped then .ok (document value) else .error "expected value"

def files (escaped : String) (_ : Text) : ConfigFile.FileContent :=
  .text (source escaped)

def resource (value : Text) : ResourceDef where
  name := "q".toList
  resourceType := .maestroLocal
  isDynamic := false
  environment := [("K".toList, value)]

def config (value : Text) : Config where
  resourceMap := [("q".toList, resource value)]

/-- The definition that is read from the file. -/
def item (value : Text) : ResourceDefinition where
  name := "q".toList
  resourceType := .maestroLocal
  isDynamic := false
  environment := KeyedStore.empty.insert "K".toList value

def map (value : Text) : KeyedStore Text ResourceDefinition :=
  KeyedStore.empty.insert "q".toList (item value)

theorem definition_resource (value : Text) : definition (resource value) = item value := by
  have distinct : ([("K".toList, value)].map Prod.fst).Nodup := by simp
  have environment : KeyedStore.empty.insert "K".toList value =
      KeyedStore.ofEntries [("K".toList, value)] := KeyedStore.foldl_insert distinct
  rw [item, environment]
  rfl

theorem deserialized (value : Text) :
    ConfigFile.deserializeResourceDefs (document value) = .ok [item value] := by
  rfl

theorem loaded (escaped : String) (value : Text) :
    ConfigFile.load (parse escaped value) (files escaped) "qrmi.json".toList =
      .ok (map value) := by
  have read : parse escaped value (source escaped) = .ok (document value) := if_pos rfl
  have items : ConfigFile.fromStr (parse escaped value) (source escaped) =
      .ok [item value] := by
    rw [ConfigFile.fromStr, read]
    change (ConfigFile.deserializeResourceDefs (document value)).mapError
      ConfigFile.LoadError.invalid = .ok [item value]
    rw [deserialized]
    rfl
  simp only [ConfigFile.load, files, items]
  rfl

theorem holds (value : Text) : Holds (config value) (map value) where
  names := by simp [config]
  keys := by
    intro entry member
    obtain rfl := List.mem_singleton.mp member
    simp [resource]
  found := by
    intro name
    rw [map, KeyedStore.get_insert, KeyedStore.get_empty, config]
    by_cases same : name = "q".toList
    · simp [same, definition_resource]
    · have different : (name == "q".toList) = false := beq_false_of_ne same
      rw [List.lookup_cons, different, if_neg same]
      rfl

theorem nulFree_item_iff (value : Text) : NulFree (item value) ↔ '\x00' ∉ value := by
  have distinct : ((resource value).environment.map Prod.fst).Nodup := by simp [resource]
  rw [← definition_resource, nulFree_iff distinct, exists_cResourceDef_iff]
  simp [resource]

end EscapedValue

/-- A file whose definition survives the boundary. -/
theorem survives_iff_plain :
    Survives (EscapedValue.config "v".toList) (EscapedValue.map "v".toList) := by
  apply (survives_iff (EscapedValue.loaded "v" "v".toList) (EscapedValue.holds _)).mpr
  intro name stored found
  rw [EscapedValue.map, KeyedStore.get_insert] at found
  split at found
  · rw [← Option.some.inj found, EscapedValue.nulFree_item_iff]
    decide
  · cases found

/-- A file that loads, with a definition whose retrieval panics: the escape of a nul
is a valid part of a JSON string. -/
theorem exists_nul_panic :
    ∃ config map, Holds config map ∧
      ConfigFile.load (EscapedValue.parse "\\u0000" ['\x00'])
        (EscapedValue.files "\\u0000") "qrmi.json".toList = .ok map ∧
      (∃ names id, resourceNamesGet config = .returned names ∧ id ∈ names ∧
        resourceDefGet config id = .panicked ∧
          CFunction.qrmiConfigResourceDefGet (some config) (some id) = CFunction.abort) ∧
      ¬ Survives config map := by
  have loaded := EscapedValue.loaded "\\u0000" ['\x00']
  have holds := EscapedValue.holds ['\x00']
  have held : (EscapedValue.map ['\x00']).get "q".toList =
      some (EscapedValue.item ['\x00']) := KeyedStore.get_insert_self ..
  have notFree : ¬ NulFree (EscapedValue.item ['\x00']) := by
    rw [EscapedValue.nulFree_item_iff]
    decide
  obtain ⟨id, allocated⟩ : ∃ id, cstringNew "q".toList = .returned id :=
    exists_cstringNew_iff.mpr (by decide)
  have decoded : id.toStr = some "q".toList := cstringNew_eq_returned_iff.mp allocated
  have listed : resourceNamesGet (EscapedValue.config ['\x00']) = .returned [id] := by
    apply MayPanic.mapM_eq_returned_iff.mpr
    exact .cons allocated .nil
  have member := List.mem_singleton_self ("q".toList, EscapedValue.resource ['\x00'])
  have unmade : ¬ ∃ handed, cResourceDef (EscapedValue.resource ['\x00']) = .returned handed := by
    rw [← EscapedValue.definition_resource, nulFree_iff (holds.keys _ member)] at notFree
    exact notFree
  refine ⟨_, _, holds, loaded, ⟨[id], id, listed, List.mem_singleton_self id, ?_, ?_⟩, ?_⟩
  · rw [resourceDefGet_of_mem holds decoded member]
    cases outcome : cResourceDef (EscapedValue.resource ['\x00']) with
    | panicked => rfl
    | returned handed => exact absurd ⟨handed, outcome⟩ unmade
  · rw [qrmiConfigResourceDefGet_of_lookup decoded (holds.lookup_of_mem member)]
    exact if_neg fun convertible => unmade (isConvertible_iff.mp convertible)
  · rw [survives_iff loaded holds]
    intro free
    exact notFree (free _ _ held)

end ConfigBoundary
