import Qrmi.OqtopusBridge
import Qrmi.ResourceSettings

/-!
# The configuration of the OQTOPUS client

The settings of a device come from the variables of the process or from a map.  They are
handed to the client as one JSON object.
-/

namespace Json

/-- `Map::insert`, for entries that are ordered by key. -/
def insertEntry (key : Text) (value : Json) : List (Text × Json) → List (Text × Json)
  | [] => [(key, value)]
  | (other, present) :: entries =>
      if key < other then (key, value) :: (other, present) :: entries
      else if key = other then (key, value) :: entries
      else (other, present) :: insertEntry key value entries

end Json

namespace OqtopusConfig

/-- What the configuration needs of other libraries.  `readF64` parses a floating point
number and gives its JSON value. -/
structure Libraries where
  json : JsonLibrary
  readF64 : Text → Except String Json
  toUppercase : Text → Text

section Members

variable (source : SettingsSource) (deviceId : Text) (suffix : String)

/-- The name of a setting.  A map belongs to one device. -/
def keyName : Text :=
  match source with
  | .config _ => "QRMI_OQTOPUS_".toList ++ suffix.toList
  | .environment _ => deviceId ++ "_QRMI_OQTOPUS_".toList ++ suffix.toList

def lookup : Option Text :=
  match source with
  | .config get => get (keyName source deviceId suffix)
  | .environment read => read (keyName source deviceId suffix)

/-- A setting that is copied. -/
def textMember : Except QrmiError (Option Json) :=
  .ok ((lookup source deviceId suffix).map Json.string)

/-- `parse_value`. -/
def valueMember (parse : Text → Except String Json) : Except QrmiError (Option Json) :=
  match lookup source deviceId suffix with
  | none => .ok none
  | some raw =>
      match parse raw.trim with
      | .ok value => .ok (some value)
      | .error error => .error (.other
          s!"invalid value for {String.ofList (keyName source deviceId suffix)}: {error}")

/-- `parse_value_list`. -/
def listItems (raw : Text) : List Text :=
  ((Text.split [','] raw).map Text.trim).filter (· ≠ [])

example : listItems "429,500, 502 ,503".toList =
    ["429".toList, "500".toList, "502".toList, "503".toList] := by
  decide

/-- A setting that is a list of integers.  The first item that is none is reported. -/
def codesMember : Except QrmiError (Option Json) :=
  match lookup source deviceId suffix with
  | none => .ok none
  | some raw =>
      match (listItems raw).mapM Text.readI64 with
      | .ok codes => .ok (some (.array (codes.map fun code =>
          .number (if 0 ≤ code then .unsigned code.toNat else .negative (-code).toNat))))
      | .error error => .error (.other
          s!"invalid value in {String.ofList (keyName source deviceId suffix)}: {error}")

/-- A setting that is a list of names. -/
def namesMember (toUppercase : Text → Text) : Except QrmiError (Option Json) :=
  .ok ((lookup source deviceId suffix).map fun raw =>
    .array ((listItems raw).map fun name => .string (toUppercase name)))

end Members

/-- The members in the order in which they are read. -/
def members (libraries : Libraries) (source : SettingsSource) (deviceId : Text) :
    List (String × Except QrmiError (Option Json)) :=
  let readU32 := fun text => (Text.readU32 text).map fun value =>
    Json.number (.unsigned value)
  [("url", textMember source deviceId "URL"),
    ("api_token", textMember source deviceId "API_TOKEN"),
    ("proxy", textMember source deviceId "PROXY"),
    ("timeout", valueMember source deviceId "TIMEOUT" libraries.readF64),
    ("retry_max_attempts", valueMember source deviceId "RETRY_MAX_ATTEMPTS" readU32),
    ("retry_backoff_seconds",
      valueMember source deviceId "RETRY_BACKOFF_SECONDS" libraries.readF64),
    ("retry_status_codes", codesMember source deviceId "RETRY_STATUS_CODES"),
    ("retry_methods", namesMember source deviceId "RETRY_METHODS" libraries.toUppercase)]

/-- Insert the members that are set.  The first failure is reported. -/
def collect : List (String × Except QrmiError (Option Json)) → List (Text × Json) →
    Except QrmiError (List (Text × Json))
  | [], config => .ok config
  | (_, .error error) :: _, _ => .error error
  | (_, .ok none) :: rest, config => collect rest config
  | (key, .ok (some value)) :: rest, config =>
      collect rest (Json.insertEntry key.toList value config)

end OqtopusConfig

/-- `CString::new`, with the context of its error. -/
def newCString (context : String) (text : Text) : Except QrmiError CStr :=
  if noNul : 0 ∉ Text.utf8 text then .ok ⟨Text.utf8 text, noNul⟩
  else .error (.other
    s!"{context}: nul byte found in provided data at position: {(Text.utf8 text).idxOf 0}")

theorem newCString_eq_ok_iff {context : String} {text : Text} {string : CStr} :
    newCString context text = .ok string ↔ string.bytes = Text.utf8 text := by
  obtain ⟨bytes, noNul⟩ := string
  rw [newCString]
  constructor
  · intro made
    split at made
    · cases made
      rfl
    · cases made
  · rintro rfl
    exact dif_pos noNul

namespace OqtopusConfig

/-- `build_config_json`. -/
def buildConfigJson (libraries : Libraries) (source : SettingsSource) (deviceId : Text) :
    Except QrmiError CStr := do
  let config ← collect (members libraries source deviceId) []
  newCString "invalid config json" (libraries.json.dump (.object config))

section Configuration

variable {libraries : Libraries} {source : SettingsSource} {deviceId : Text}

namespace RetryingDevice

def settings : List (Text × Text) :=
  [("QRMI_OQTOPUS_URL".toList, "https://q".toList),
    ("QRMI_OQTOPUS_RETRY_STATUS_CODES".toList, "429,500, 502 ,503".toList),
    ("QRMI_OQTOPUS_RETRY_METHODS".toList, "get, post".toList)]

def settingsMap : Text → Option Text :=
  fun name => settings.lookup name

/-- The variables that say of the device what the map says. -/
def environment : Text → Option Text :=
  fun name => settingsMap (name.drop 4)

def crates : Libraries where
  json := JsonLibrary.ofTable []
  readF64 _ := .error "invalid float literal"
  toUppercase := List.map Char.toUpper

def entries : List (Text × Json) :=
  [("retry_methods".toList, .array [.string "GET".toList, .string "POST".toList]),
    ("retry_status_codes".toList, .array [.number (.unsigned 429), .number (.unsigned 500),
      .number (.unsigned 502), .number (.unsigned 503)]),
    ("url".toList, .string "https://q".toList)]

theorem noNul : 0 ∉ Text.utf8 (crates.json.dump (.object entries)) := by
  decide

theorem built : buildConfigJson crates (.config settingsMap) "qpu".toList =
    .ok ⟨Text.utf8 (crates.json.dump (.object entries)), noNul⟩ := by
  have collected : collect (members crates (.config settingsMap) "qpu".toList) [] =
      .ok entries := rfl
  rw [buildConfigJson, collected]
  change newCString "invalid config json" (crates.json.dump (.object entries)) = _
  exact newCString_eq_ok_iff.mpr rfl

end RetryingDevice

/-- What is collected depends on the values that were read only. -/
theorem collect_toOption {first second : List (String × Except QrmiError (Option Json))}
    (same : first.map (fun entry => (entry.1, entry.2.toOption)) =
      second.map fun entry => (entry.1, entry.2.toOption)) (config : List (Text × Json)) :
    (collect first config).toOption = (collect second config).toOption := by
  induction first generalizing second config with
  | nil =>
      obtain rfl : second = [] := List.map_eq_nil_iff.mp same.symm
      rfl
  | cons entry rest ih =>
      cases second with
      | nil => cases same
      | cons other others =>
          obtain ⟨key, outcome⟩ := entry
          obtain ⟨otherKey, otherOutcome⟩ := other
          obtain ⟨sameEntry, sameRest⟩ := List.cons.inj same
          obtain ⟨rfl, sameOutcome⟩ := Prod.mk.inj sameEntry
          cases outcome with
          | error error =>
              cases otherOutcome with
              | error other => rfl
              | ok value => cases sameOutcome
          | ok value =>
              cases otherOutcome with
              | error other => cases sameOutcome
              | ok other =>
                  cases sameOutcome
                  cases value with
                  | none => exact ih sameRest config
                  | some value => exact ih sameRest _

/-- A device is configured alike from its variables and from a map with the same
settings. -/
theorem buildConfigJson_toOption {read get : Text → Option Text}
    (agree : ∀ suffix : String, read (keyName (.environment read) deviceId suffix) =
      get (keyName (.config get) deviceId suffix)) :
    (buildConfigJson libraries (.environment read) deviceId).toOption =
      (buildConfigJson libraries (.config get) deviceId).toOption := by
  have sameLookup (suffix : String) : lookup (.environment read) deviceId suffix =
      lookup (.config get) deviceId suffix := agree suffix
  have sameText (suffix : String) : textMember (.environment read) deviceId suffix =
      textMember (.config get) deviceId suffix := by
    rw [textMember, textMember, sameLookup]
  have sameNames (suffix : String) :
      namesMember (.environment read) deviceId suffix libraries.toUppercase =
        namesMember (.config get) deviceId suffix libraries.toUppercase := by
    rw [namesMember, namesMember, sameLookup]
  have sameValue (suffix : String) (parse : Text → Except String Json) :
      (valueMember (.environment read) deviceId suffix parse).toOption =
        (valueMember (.config get) deviceId suffix parse).toOption := by
    rw [valueMember, valueMember, sameLookup]
    split
    · rfl
    · split <;> rfl
  have sameCodes (suffix : String) : (codesMember (.environment read) deviceId suffix).toOption =
      (codesMember (.config get) deviceId suffix).toOption := by
    rw [codesMember, codesMember, sameLookup]
    split
    · rfl
    · split <;> rfl
  have sameRead : (members libraries (.environment read) deviceId).map
      (fun entry => (entry.1, entry.2.toOption)) =
        (members libraries (.config get) deviceId).map
          fun entry => (entry.1, entry.2.toOption) := by
    simp only [members, List.map_cons, List.map_nil, sameText, sameNames, sameValue, sameCodes]
  have sameMembers := collect_toOption sameRead []
  rw [buildConfigJson, buildConfigJson]
  generalize collect (members libraries (.environment read) deviceId) [] = first at sameMembers ⊢
  generalize collect (members libraries (.config get) deviceId) [] = second at sameMembers ⊢
  cases first <;> cases second <;> cases sameMembers <;> rfl

theorem retryingDevice_toOption :
    (buildConfigJson RetryingDevice.crates (.environment RetryingDevice.environment)
        "qpu".toList).toOption =
      (buildConfigJson RetryingDevice.crates (.config RetryingDevice.settingsMap)
        "qpu".toList).toOption :=
  buildConfigJson_toOption fun _ => rfl

end Configuration

end OqtopusConfig
