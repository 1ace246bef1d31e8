import Mathlib.Data.List.ReduceOption
import Qrmi.OqtopusConfig
import Qrmi.PasqalConfigPath

/-!
# Loading the OQTOPUS bridge

The bridge leaves the symbols of Python open.  A device loads the Python library first, so
that its symbols are there for everybody, and then the bridge.
-/

open Interaction

/-- A loaded bridge: what looking a symbol up in it gives. -/
structure BridgeLibrary where
  get : String → Except String Unit

/-- A device of OQTOPUS. -/
structure Oqtopus where
  deviceId : Text
  pyBridge : BridgeLibrary
  configJson : CStr

namespace OqtopusLoader

/-- What the loader asks the system for.  An entry of a directory may fail to be read, and
its name need not be UTF-8. -/
inductive LoaderAction
  | readDir (path : Text)
  | openGlobal (path : Text)
  | openBridge (path : Text)

abbrev LoaderAction.Answer : LoaderAction → Type
  | readDir _ => Option (List (Option (Option Text)))
  | openGlobal _ => Except String Unit
  | openBridge _ => Except String BridgeLibrary

abbrev LoaderMethod (α : Type) : Type :=
  Method LoaderAction LoaderAction.Answer Unit QrmiError α

abbrev LoaderEvent : Type :=
  Event LoaderAction.Answer

def isLibpython (name : Text) : Bool :=
  "libpython".toList.isPrefixOf name && name.contains ".so".toList

def isVersioned (name : Text) : Bool :=
  name.contains ".so.".toList

/-- The loop of `find_libpython_in`.  A name that is not UTF-8 ends the search. -/
def chooseLibpython : Option Text → List (Option Text) → Option Text
  | best, [] => best
  | _, none :: _ => none
  | best, some name :: rest =>
      if isLibpython name && (best.isNone || isVersioned name) then
        chooseLibpython (some name) rest
      else chooseLibpython best rest

/-- The last name with a version is chosen, or else the first name without one; if all names
are UTF-8. -/
theorem chooseLibpython_eq (best : Option Text) (entries : List (Option Text)) :
    chooseLibpython best entries =
      if none ∈ entries then none
      else
        let candidates := entries.reduceOption.filter isLibpython
        (candidates.filter isVersioned).getLast?.or (best.or candidates.head?) := by
  induction entries generalizing best with
  | nil => simp [chooseLibpython, List.reduceOption]
  | cons entry rest ih =>
      cases entry with
      | none => rw [chooseLibpython, if_pos List.mem_cons_self]
      | some name =>
          have sameRest : none ∈ some name :: rest ↔ none ∈ rest := by simp
          rw [chooseLibpython, ih, ih]
          simp only [sameRest, List.reduceOption_cons_of_some]
          by_cases library : isLibpython name = true
          · by_cases versioned : isVersioned name = true
            · cases best <;> simp [library, versioned, List.getLast?_cons]
            · cases best <;> simp [library, versioned]
          · simp [library]

/-- `find_libpython_in`, from what reading the directory gives. -/
def findLibpythonIn (libDir : Text) (entries : Option (List (Option (Option Text)))) :
    Option Text :=
  entries.bind fun entries =>
    (chooseLibpython none entries.reduceOption).map (PasqalConfigPath.push libDir)

/-- A directory that cannot be read gives no library, and neither does one with a readable entry
whose name is not UTF-8.  Any other gives the last library with a version in its order, or else
the first one without, by its path. -/
theorem findLibpythonIn_eq (libDir : Text) (entries : Option (List (Option (Option Text)))) :
    findLibpythonIn libDir entries =
      match entries with
      | none => none
      | some entries =>
          if some none ∈ entries then none
          else
            let candidates := entries.reduceOption.reduceOption.filter isLibpython
            ((candidates.filter isVersioned).getLast?.or candidates.head?).map
              (PasqalConfigPath.push libDir) := by
  cases entries with
  | none => rfl
  | some entries =>
      have unreadable : none ∈ entries.reduceOption ↔ some none ∈ entries :=
        List.reduceOption_mem_iff
      change (chooseLibpython none entries.reduceOption).map _ = _
      simp only [chooseLibpython_eq, unreadable, Option.none_or]
      split
      · rfl
      · rfl

/-- `pythonhome_lib_candidate`. -/
def pythonhomeLibCandidate (home : Text) : List Text → LoaderMethod (Option Text)
  | [] => return none
  | subdir :: subdirs => do
      let libDir := PasqalConfigPath.push home subdir
      let entries ← Method.lift (Program.question (LoaderAction.readDir libDir))
      match findLibpythonIn libDir entries with
      | some found => return some found
      | none => pythonhomeLibCandidate home subdirs

def libSubdirs : List Text :=
  ["lib64".toList, "lib".toList]

def fallbackSonameCandidates : List Text :=
  ["libpython3.13.so.1.0".toList, "libpython3.12.so.1.0".toList,
    "libpython3.11.so.1.0".toList, "libpython3.10.so.1.0".toList, "libpython3.so".toList]

/-- Load the first library that can be. -/
def loadFallback : List Text → LoaderMethod Bool
  | [] => return false
  | name :: names => do
      let opened ← Method.lift (Program.question (LoaderAction.openGlobal name))
      match opened with
      | .ok _ => return true
      | .error _ => loadFallback names

/-- Load a library or fail. -/
def loadExplicit (path : Text) (context : String) : LoaderMethod Unit := do
  let opened ← Method.lift (Program.question (LoaderAction.openGlobal path))
  Method.ofExcept (opened.mapError fun _ => .other context)

/-- The part of `from_opt` that loads the Python library. -/
def loadPython (read : Text → Option Text) : LoaderMethod Unit :=
  match read "PYTHON_LIBRARY".toList with
  | some explicitPath =>
      loadExplicit explicitPath
        s!"failed to load PYTHON_LIBRARY={String.ofList explicitPath}"
  | none =>
      match read "PYTHONHOME".toList with
      | some home => do
          let candidate ← pythonhomeLibCandidate home libSubdirs
          match candidate with
          | some homePath => loadExplicit homePath s!"failed to load {String.ofList homePath}"
          | none => Method.throw (.other
              s!"PYTHONHOME={String.ofList home} is set, but no libpython was found under it")
      | none => do
          let loaded ← loadFallback fallbackSonameCandidates
          if loaded then return ()
          else Method.throw (.other
            "libpython not found (set PYTHON_LIBRARY or PYTHONHOME to an explicit path)")

def bridgePath (read : Text → Option Text) : Text :=
  (read "PY_BRIDGE_PATH".toList).getD "liboqtopus_py_bridge.so".toList

/-- Where the settings of a device come from. -/
def settingsOf (read : Text → Option Text) (config : Option (Text → Option Text)) :
    SettingsSource :=
  match config with
  | some get => .config get
  | none => .environment read

/-- The part of `from_opt` that loads the bridge. -/
def loadBridge (path deviceId : Text) (configJson : CStr) : LoaderMethod Oqtopus := do
  let opened ← Method.lift (Program.question (LoaderAction.openBridge path))
  let lib ← Method.ofExcept (opened.mapError fun error =>
    .other s!"failed to load {String.ofList path}: {error}")
  return { deviceId := deviceId, pyBridge := lib, configJson := configJson }

/-- `from_opt`. -/
def fromOpt (libraries : OqtopusConfig.Libraries) (read : Text → Option Text)
    (deviceId : Text) (config : Option (Text → Option Text)) : LoaderMethod Oqtopus := do
  let configJson ← Method.ofExcept
    (OqtopusConfig.buildConfigJson libraries (settingsOf read config) deviceId)
  loadPython read
  loadBridge (bridgePath read) deviceId configJson

/-- Looking through the directories of an installation. -/
inductive Searches (home : Text) : List Text → List LoaderEvent → Option Text → Prop
  | exhausted : Searches home [] [] none
  | found {subdir path : Text} {subdirs : List Text}
      {entries : Option (List (Option (Option Text)))}
      (here : findLibpythonIn (PasqalConfigPath.push home subdir) entries = some path) :
      Searches home (subdir :: subdirs)
        [⟨.readDir (PasqalConfigPath.push home subdir), entries⟩] (some path)
  | missed {subdir : Text} {subdirs : List Text} {entries : Option (List (Option (Option Text)))}
      {trace : List LoaderEvent} {found : Option Text}
      (absent : findLibpythonIn (PasqalConfigPath.push home subdir) entries = none)
      (rest : Searches home subdirs trace found) :
      Searches home (subdir :: subdirs)
        (⟨.readDir (PasqalConfigPath.push home subdir), entries⟩ :: trace) found

/-- The libraries in front of the first one that can be loaded. -/
inductive Tries : List Text → List LoaderEvent → Option Text → Prop
  | exhausted : Tries [] [] none
  | opened (name : Text) (names : List Text) : Tries (name :: names) [] (some name)
  | failed {name : Text} {names : List Text} {message : String} {trace : List LoaderEvent}
      {found : Option Text} (rest : Tries names trace found) :
      Tries (name :: names) (⟨.openGlobal name, .error message⟩ :: trace) found

/-- The library that the variables lead to, and what is asked for on the way. -/
inductive Leads (read : Text → Option Text) : List LoaderEvent → Text → Prop
  | explicit {path : Text} (set : read "PYTHON_LIBRARY".toList = some path) : Leads read [] path
  | home {home path : Text} {searching : List LoaderEvent}
      (unset : read "PYTHON_LIBRARY".toList = none)
      (set : read "PYTHONHOME".toList = some home)
      (found : Searches home libSubdirs searching (some path)) : Leads read searching path
  | fallback {path : Text} {searching : List LoaderEvent}
      (unset : read "PYTHON_LIBRARY".toList = none)
      (unsetHome : read "PYTHONHOME".toList = none)
      (found : Tries fallbackSonameCandidates searching (some path)) : Leads read searching path

section Executions

open Method

variable {read : Text → Option Text} {trace : List LoaderEvent}

theorem executes_pythonhomeLibCandidate_iff {home : Text} {subdirs : List Text}
    {result : Except QrmiError (Option Text)} :
    (pythonhomeLibCandidate home subdirs).Executes () trace result () ↔
      ∃ found, result = .ok found ∧ Searches home subdirs trace found := by
  induction subdirs generalizing trace with
  | nil =>
      rw [pythonhomeLibCandidate, executes_pure_iff]
      constructor
      · rintro ⟨rfl, rfl, -⟩
        exact ⟨none, rfl, .exhausted⟩
      · rintro ⟨_, rfl, searches⟩
        cases searches
        exact ⟨rfl, rfl, rfl⟩
  | cons subdir subdirs ih =>
      rw [pythonhomeLibCandidate, executes_question_bind_iff]
      constructor
      · rintro ⟨entries, rest, rfl, continued⟩
        cases here : findLibpythonIn (PasqalConfigPath.push home subdir) entries with
        | some path =>
            rw [here] at continued
            obtain ⟨rfl, rfl, -⟩ := executes_pure_iff.mp continued
            exact ⟨some path, rfl, .found here⟩
        | none =>
            rw [here] at continued
            obtain ⟨found, rfl, searches⟩ := ih.mp continued
            exact ⟨found, rfl, .missed here searches⟩
      · rintro ⟨found, rfl, searches⟩
        cases searches with
        | found here =>
            refine ⟨_, [], rfl, ?_⟩
            rw [here]
            exact executes_pure_iff.mpr ⟨rfl, rfl, rfl⟩
        | missed absent searches =>
            refine ⟨_, _, rfl, ?_⟩
            rw [absent]
            exact ih.mpr ⟨found, rfl, searches⟩

theorem executes_loadExplicit_iff {path : Text} {context : String}
    {result : Except QrmiError Unit} :
    (loadExplicit path context).Executes () trace result () ↔
      ∃ opened : Except String Unit, trace = [⟨.openGlobal path, opened⟩] ∧
        result = opened.mapError fun _ => .other context := by
  rw [loadExplicit, executes_question_bind_iff]
  constructor
  · rintro ⟨opened, rest, rfl, continued⟩
    obtain ⟨rfl, rfl, -⟩ := executes_ofExcept_iff.mp continued
    exact ⟨opened, rfl, rfl⟩
  · rintro ⟨opened, rfl, rfl⟩
    exact ⟨opened, [], rfl, executes_ofExcept_iff.mpr ⟨rfl, rfl, rfl⟩⟩

theorem executes_loadFallback_iff {names : List Text} {result : Except QrmiError Bool} :
    (loadFallback names).Executes () trace result () ↔
      (Tries names trace none ∧ result = .ok false) ∨
        ∃ searching path, Tries names searching (some path) ∧
          trace = searching ++ [⟨.openGlobal path, .ok ()⟩] ∧ result = .ok true := by
  induction names generalizing trace with
  | nil =>
      rw [loadFallback, executes_pure_iff]
      constructor
      · rintro ⟨rfl, rfl, -⟩
        exact .inl ⟨.exhausted, rfl⟩
      · rintro (⟨tries, rfl⟩ | ⟨_, _, tries, -⟩)
        · cases tries
          exact ⟨rfl, rfl, rfl⟩
        · cases tries
  | cons name names ih =>
      rw [loadFallback, executes_question_bind_iff]
      constructor
      · rintro ⟨opened, rest, rfl, continued⟩
        cases opened with
        | ok done =>
            obtain ⟨rfl, rfl, -⟩ := executes_pure_iff.mp continued
            exact .inr ⟨[], name, .opened name names, rfl, rfl⟩
        | error message =>
            rcases ih.mp continued with ⟨tries, rfl⟩ | ⟨searching, path, tries, rfl, rfl⟩
            · exact .inl ⟨.failed tries, rfl⟩
            · exact .inr ⟨_, path, .failed tries, rfl, rfl⟩
      · rintro (⟨tries, rfl⟩ | ⟨_, path, tries, rfl, rfl⟩)
        · cases tries with
          | failed rest => exact ⟨_, _, rfl, ih.mpr (.inl ⟨rest, rfl⟩)⟩
        · cases tries with
          | opened => exact ⟨.ok (), [], rfl, executes_pure_iff.mpr ⟨rfl, rfl, rfl⟩⟩
          | failed rest => exact ⟨_, _, rfl, ih.mpr (.inr ⟨_, path, rest, rfl, rfl⟩)⟩

/-- The Python library is loaded where the variables lead to. -/
theorem executes_loadPython_iff :
    (loadPython read).Executes () trace (.ok ()) () ↔
      ∃ searching path, Leads read searching path ∧
        trace = searching ++ [⟨.openGlobal path, .ok ()⟩] := by
  unfold loadPython
  constructor
  · intro executes
    split at executes
    · rename_i path set
      obtain ⟨opened, rfl, equal⟩ := executes_loadExplicit_iff.mp executes
      cases opened with
      | ok done => exact ⟨[], path, .explicit set, rfl⟩
      | error message => cases equal
    rename_i unset
    split at executes
    · rename_i home set
      rcases executes_bind_iff.mp executes with ⟨_, equal, -⟩ |
        ⟨searching, opening, candidate, _, rfl, searched, continued⟩
      · cases equal
      obtain ⟨found, same, searches⟩ := executes_pythonhomeLibCandidate_iff.mp searched
      cases same
      cases candidate with
      | some path =>
          obtain ⟨opened, rfl, equal⟩ := executes_loadExplicit_iff.mp continued
          cases opened with
          | ok done => exact ⟨searching, path, .home unset set searches, rfl⟩
          | error message => cases equal
      | none =>
          obtain ⟨-, equal, -⟩ := executes_throw_iff.mp continued
          cases equal
    · rename_i unsetHome
      rcases executes_bind_iff.mp executes with ⟨_, equal, -⟩ |
        ⟨loading, rest, loaded, _, rfl, ran, continued⟩
      · cases equal
      rcases executes_loadFallback_iff.mp ran with ⟨-, equal⟩ |
        ⟨searching, path, tries, rfl, equal⟩
      · cases equal
        obtain ⟨-, equal, -⟩ := executes_throw_iff.mp continued
        cases equal
      · cases equal
        obtain ⟨rfl, -, -⟩ := executes_pure_iff.mp continued
        exact ⟨searching, path, .fallback unset unsetHome tries, List.append_nil _⟩
  · rintro ⟨searching, path, leads, rfl⟩
    cases leads with
    | explicit set =>
        rw [set]
        exact executes_loadExplicit_iff.mpr ⟨.ok (), rfl, rfl⟩
    | home unset set found =>
        rw [unset, set]
        refine executes_bind_iff.mpr (.inr ⟨searching, _, some path, (), rfl,
          executes_pythonhomeLibCandidate_iff.mpr ⟨_, rfl, found⟩, ?_⟩)
        exact executes_loadExplicit_iff.mpr ⟨.ok (), rfl, rfl⟩
    | fallback unset unsetHome found =>
        rw [unset, unsetHome]
        refine executes_bind_iff.mpr (.inr ⟨_, [], true, (), (List.append_nil _).symm,
          executes_loadFallback_iff.mpr (.inr ⟨searching, path, found, rfl, rfl⟩), ?_⟩)
        exact executes_pure_iff.mpr ⟨rfl, rfl, rfl⟩

/-- An event that is not about the bridge. -/
def IsPython : LoaderEvent → Prop
  | ⟨.openBridge _, _⟩ => False
  | _ => True

theorem emits_loadPython : (loadPython read).Emits IsPython := by
  have explicit (path : Text) (context : String) : (loadExplicit path context).Emits IsPython :=
    (emits_lift (Program.emits_question fun _ => trivial)).bind fun _ => emits_ofExcept _
  have searches (home : Text) (subdirs : List Text) :
      (pythonhomeLibCandidate home subdirs).Emits IsPython := by
    induction subdirs with
    | nil => exact emits_pure _
    | cons subdir subdirs ih =>
        refine (emits_lift (Program.emits_question fun _ => trivial)).bind fun entries => ?_
        split
        · exact emits_pure _
        · exact ih
  have falls (names : List Text) : (loadFallback names).Emits IsPython := by
    induction names with
    | nil => exact emits_pure _
    | cons name names ih =>
        refine (emits_lift (Program.emits_question fun _ => trivial)).bind fun opened => ?_
        split
        · exact emits_pure _
        · exact ih
  unfold loadPython
  split
  · exact explicit _ _
  split
  · refine (searches _ _).bind fun candidate => ?_
    split
    · exact explicit _ _
    · exact emits_throw _
  · refine (falls _).bind fun loaded => ?_
    split
    · exact emits_pure _
    · exact emits_throw _

theorem executes_loadBridge_iff {path deviceId : Text} {configJson : CStr}
    {result : Except QrmiError Oqtopus} :
    (loadBridge path deviceId configJson).Executes () trace result () ↔
      ∃ opened : Except String BridgeLibrary, trace = [⟨.openBridge path, opened⟩] ∧
        result = (opened.mapError fun error => QrmiError.other
          s!"failed to load {String.ofList path}: {error}").map fun library =>
            ⟨deviceId, library, configJson⟩ := by
  rw [loadBridge, executes_question_bind_iff]
  constructor
  · rintro ⟨opened, rest, rfl, continued⟩
    cases opened with
    | ok library =>
        obtain ⟨rfl, rfl, -⟩ := executes_pure_iff.mp (executes_ofExcept_bind_ok_iff.mp continued)
        exact ⟨.ok library, rfl, rfl⟩
    | error message =>
        obtain ⟨rfl, rfl, -⟩ := executes_ofExcept_bind_error_iff.mp continued
        exact ⟨.error message, rfl, rfl⟩
  · rintro ⟨opened, rfl, rfl⟩
    refine ⟨opened, [], rfl, ?_⟩
    cases opened with
    | ok library =>
        exact executes_ofExcept_bind_ok_iff.mpr (executes_pure_iff.mpr ⟨rfl, rfl, rfl⟩)
    | error message => exact executes_ofExcept_bind_error_iff.mpr ⟨rfl, rfl, rfl⟩

/-- An event about the bridge that follows events about Python is the one behind them. -/
theorem append_bridge_eq_iff {earlier later loading : List LoaderEvent} {path other : Text}
    {answer opened : Except String BridgeLibrary} (quiet : ∀ event ∈ loading, IsPython event) :
    earlier ++ ⟨.openBridge path, answer⟩ :: later =
        loading ++ [(⟨.openBridge other, opened⟩ : LoaderEvent)] ↔
      earlier = loading ∧ path = other ∧ answer = opened ∧ later = [] := by
  constructor
  · intro equal
    rcases List.append_eq_append_iff.mp equal with ⟨between, same, sameTail⟩ |
      ⟨between, same, sameTail⟩
    · cases between with
      | nil =>
          obtain ⟨sameEvent, rfl⟩ := List.cons.inj sameTail
          cases sameEvent
          exact ⟨(same.trans (List.append_nil _)).symm, rfl, rfl, rfl⟩
      | cons event between =>
          obtain ⟨rfl, -⟩ := List.cons.inj sameTail
          have member : (⟨.openBridge path, answer⟩ : LoaderEvent) ∈ loading := by
            rw [same]
            exact List.mem_append_right _ List.mem_cons_self
          exact False.elim (quiet _ member)
    · cases between with
      | nil =>
          obtain ⟨sameEvent, rfl⟩ := List.cons.inj sameTail
          cases sameEvent
          exact ⟨same.trans (List.append_nil _), rfl, rfl, rfl⟩
      | cons event between =>
          obtain ⟨-, empty⟩ := List.cons.inj sameTail
          exact absurd empty (by simp)
  · rintro ⟨rfl, rfl, rfl, rfl⟩
    rfl

/-- The bridge is loaded once, as the last step, and right after the Python library that the
variables lead to; and what comes of it is the device. -/
theorem opens_bridge_iff {libraries : OqtopusConfig.Libraries} {deviceId path : Text}
    {config : Option (Text → Option Text)} {earlier later : List LoaderEvent}
    {answer : Except String BridgeLibrary} {result : Except QrmiError Oqtopus} :
    (fromOpt libraries read deviceId config).Executes ()
        (earlier ++ ⟨.openBridge path, answer⟩ :: later) result () ↔
      later = [] ∧ path = bridgePath read ∧
        (∃ configJson, OqtopusConfig.buildConfigJson libraries (settingsOf read config)
            deviceId = .ok configJson ∧
          result = (answer.mapError fun error => QrmiError.other
            s!"failed to load {String.ofList path}: {error}").map fun library =>
              ⟨deviceId, library, configJson⟩) ∧
          ∃ searching library, Leads read searching library ∧
            earlier = searching ++ [⟨.openGlobal library, .ok ()⟩] := by
  cases built : OqtopusConfig.buildConfigJson libraries (settingsOf read config) deviceId with
  | error error =>
      rw [fromOpt, built, executes_ofExcept_bind_error_iff]
      constructor
      · rintro ⟨empty, -⟩
        exact absurd empty (by simp)
      · rintro ⟨-, -, ⟨_, equal, -⟩, -⟩
        cases equal
  | ok configJson =>
  rw [fromOpt, built, executes_ofExcept_bind_ok_iff]
  constructor
  · intro executes
    rcases executes_bind_iff.mp executes with ⟨_, rfl, failed⟩ |
      ⟨loading, rest, _, _, equal, loaded, continued⟩
    · have member : (⟨.openBridge path, answer⟩ : LoaderEvent) ∈
          earlier ++ ⟨.openBridge path, answer⟩ :: later :=
        List.mem_append_right _ List.mem_cons_self
      exact False.elim (emits_loadPython.event_of_executes failed _ member)
    obtain ⟨opened, rfl, rfl⟩ := executes_loadBridge_iff.mp continued
    obtain ⟨rfl, rfl, rfl, rfl⟩ := (append_bridge_eq_iff
      (emits_loadPython.event_of_executes loaded)).mp equal
    exact ⟨rfl, rfl, ⟨configJson, rfl, rfl⟩, executes_loadPython_iff.mp loaded⟩
  · rintro ⟨rfl, rfl, ⟨own, isOwn, rfl⟩, leads⟩
    cases isOwn
    exact executes_bind_iff.mpr (.inr ⟨_, _, (), (), rfl,
      executes_loadPython_iff.mpr leads, executes_loadBridge_iff.mpr ⟨answer, rfl, rfl⟩⟩)

end Executions

end OqtopusLoader
