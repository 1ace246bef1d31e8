import Mathlib.Logic.Function.Basic
import Qrmi.InteractionHistory
import Qrmi.InteractionMethod
import Qrmi.KeyedStore
import Qrmi.ResourceSettings

/-!
# The environment variables of the process

A provider hands its settings to the resources that it constructs through the
variables of the process: it writes one variable for each of its settings, named
after the backend, and the constructor reads them back.  The variables are shared
by all providers and nothing removes them.
-/

open Interaction

/-- The variables of the process. -/
abbrev Environment : Type :=
  Text → Option Text

/-- How a call that touches the environment can end early. -/
inductive Fault
  | raised (error : QrmiError)
  | panicked

/-- A settings map of a provider in the order of its iteration. -/
structure SettingsMap where
  entries : List (Text × Text)
  distinct : (entries.map Prod.fst).Nodup

namespace SettingsMap

def get (settings : SettingsMap) (key : Text) : Option Text :=
  settings.entries.lookup key

theorem get_eq_some_iff (settings : SettingsMap) {key value : Text} :
    settings.get key = some value ↔ (key, value) ∈ settings.entries :=
  (KeyedStore.mem_iff_get_ofEntries settings.distinct).symm

end SettingsMap

/-- The variable of a setting of a backend. -/
def settingVariable (backendName key : Text) : Text :=
  backendName ++ ['_'] ++ key

theorem settingVariable_injective (backendName : Text) :
    Function.Injective (settingVariable backendName) :=
  fun _ _ equal => List.append_cancel_left equal

/-- The variables as they are if only the given map is ever injected for the
backend. -/
def SettingsMap.alone (settings : SettingsMap) (backendName : Text) : Environment :=
  fun name => (Text.stripPrefix (backendName ++ ['_']) name).bind settings.get

@[simp]
theorem SettingsMap.alone_settingVariable (settings : SettingsMap)
    (backendName key : Text) :
    settings.alone backendName (settingVariable backendName key) =
      settings.get key := by
  have starts : (backendName ++ ['_']).isPrefixOf
      (settingVariable backendName key) = true := by
    rw [List.isPrefixOf_iff_prefix]
    exact List.prefix_append _ _
  rw [alone, Text.stripPrefix, if_pos starts, settingVariable, List.drop_left]
  rfl

section Methods

variable {Query : Type} {Answer : Query → Type}

/-- The names and values that `env::set_var` does not panic on. -/
def IsVariable (name value : Text) : Prop :=
  name ≠ [] ∧ '=' ∉ name ∧ '\x00' ∉ name ∧ '\x00' ∉ value

instance (name value : Text) : Decidable (IsVariable name value) :=
  inferInstanceAs (Decidable (_ ∧ _))

open Method

/-- `env::set_var`. -/
def setVar (name value : Text) : Method Query Answer Environment Fault Unit :=
  if IsVariable name value then
    modify fun environment => Function.update environment name (some value)
  else throw .panicked

/-- The loop of `inject_backend_env`. -/
def injectEntries (backendName : Text) :
    List (Text × Text) → Method Query Answer Environment Fault Unit
  | [] => return ()
  | (key, value) :: entries => do
      setVar (settingVariable backendName key) value
      injectEntries backendName entries

/-- `inject_backend_env` of both providers. -/
def injectBackendEnv (providerEnv : SettingsMap) (backendName : Text) :
    Method Query Answer Environment Fault Unit :=
  injectEntries backendName providerEnv.entries

variable {Resource : Type}

/-- Inject the settings of a backend and construct it.  A failed construction is
logged and skipped. -/
def admitBackend (construct : Text → SettingsSource → Except QrmiError Resource)
    (providerEnv : SettingsMap) (backendName : Text) :
    Method Query Answer Environment Fault (Option Resource) := do
  injectBackendEnv providerEnv backendName
  let environment ← self
  return (construct backendName (.environment environment)).toOption

/-- The end of `resources`: take up the selected backends in order. -/
def admitAll (construct : Text → SettingsSource → Except QrmiError Resource)
    (providerEnv : SettingsMap) :
    List Text → Method Query Answer Environment Fault (List Resource)
  | [] => return []
  | backendName :: backendNames => do
      let resource ← admitBackend construct providerEnv backendName
      let resources ← admitAll construct providerEnv backendNames
      return resource.toList ++ resources

/-- Injecting the entries for a backend writes a value to a variable. -/
def WritesEntry (backendName : Text) (entries : List (Text × Text))
    (name value : Text) : Prop :=
  ∃ key, (key, value) ∈ entries ∧ settingVariable backendName key = name

section Executions

variable {construct : Text → SettingsSource → Except QrmiError Resource}
variable {providerEnv : SettingsMap} {backendName : Text}
variable {before after : Environment} {trace : List (Event Answer)}

theorem setVar_cases {name value : Text} {result : Except Fault Unit}
    (executes : (setVar name value : Method Query Answer Environment Fault Unit).Executes
      before trace result after) :
    trace = [] ∧
      ((result = .ok () ∧ after = Function.update before name (some value)) ∨
        (result = .error .panicked ∧ after = before)) := by
  rw [setVar] at executes
  split at executes
  · obtain ⟨rfl, rfl, rfl⟩ := executes_modify_iff.mp executes
    exact ⟨rfl, .inl ⟨rfl, rfl⟩⟩
  · obtain ⟨rfl, rfl, rfl⟩ := executes_throw_iff.mp executes
    exact ⟨rfl, .inr ⟨rfl, rfl⟩⟩

/-- Injection changes only the variables that it writes, panicking or not. -/
theorem injectEntries_value {entries : List (Text × Text)} {result : Except Fault Unit}
    (executes : (injectEntries backendName entries :
      Method Query Answer Environment Fault Unit).Executes before trace result after)
    (name : Text) :
    after name = before name ∨
      ∃ value, WritesEntry backendName entries name value ∧
        after name = some value := by
  induction entries generalizing before trace with
  | nil =>
      obtain ⟨-, -, rfl⟩ := executes_pure_iff.mp executes
      exact .inl rfl
  | cons entry entries ih =>
      obtain ⟨key, value⟩ := entry
      rcases executes_bind_iff.mp executes with ⟨error, -, failed⟩ |
        ⟨_, _, _, middle, -, stored, continued⟩
      · obtain ⟨-, ⟨equal, -⟩ | ⟨-, rfl⟩⟩ := setVar_cases failed
        · cases equal
        · exact .inl rfl
      obtain ⟨-, ⟨-, rfl⟩ | ⟨equal, -⟩⟩ := setVar_cases stored
      · rcases ih continued with kept | ⟨later, ⟨other, member, named⟩, written⟩
        · by_cases same : settingVariable backendName key = name
          · refine .inr ⟨value, ⟨key, List.mem_cons_self .., same⟩, ?_⟩
            rw [kept, ← same, Function.update_self]
          · rw [Function.update_of_ne (Ne.symm same)] at kept
            exact .inl kept
        · exact .inr ⟨later, ⟨other, List.mem_cons_of_mem _ member, named⟩, written⟩
      · cases equal

/-- Injection that runs to its end writes every entry. -/
theorem injectBackendEnv_written
    (executes : (injectBackendEnv providerEnv backendName :
      Method Query Answer Environment Fault Unit).Executes before trace (.ok ()) after)
    {name value : Text} (writes : WritesEntry backendName providerEnv.entries name value) :
    after name = some value := by
  obtain ⟨entries, distinct⟩ := providerEnv
  obtain ⟨key, member, rfl⟩ := writes
  dsimp only [injectBackendEnv] at executes member
  induction entries generalizing before trace with
  | nil => cases member
  | cons entry entries ih =>
      obtain ⟨first, stored⟩ := entry
      rw [List.map_cons, List.nodup_cons] at distinct
      rcases executes_bind_iff.mp executes with ⟨error, equal, -⟩ |
        ⟨_, _, _, middle, -, stores, continued⟩
      · cases equal
      rcases List.mem_cons.mp member with same | inRest
      · cases same
        obtain ⟨-, ⟨-, rfl⟩ | ⟨equal, -⟩⟩ := setVar_cases stores
        · rcases injectEntries_value continued (settingVariable backendName key) with
            kept | ⟨later, ⟨other, otherMember, named⟩, -⟩
          · rw [kept, Function.update_self]
          · rw [settingVariable_injective backendName named] at otherMember
            exact absurd (List.mem_map.mpr ⟨_, otherMember, rfl⟩) distinct.1
        · cases equal
      · exact ih distinct.2 continued inRest

/-- The variables after the entries were written. -/
def writeEntries (backendName : Text) (entries : List (Text × Text))
    (environment : Environment) : Environment :=
  entries.foldl (fun environment entry =>
    Function.update environment (settingVariable backendName entry.1) (some entry.2))
    environment

/-- Entries that make valid variables are injected. -/
theorem injectEntries_executes {entries : List (Text × Text)}
    (valid : ∀ entry ∈ entries,
      IsVariable (settingVariable backendName entry.1) entry.2) :
    (injectEntries backendName entries :
      Method Query Answer Environment Fault Unit).Executes before [] (.ok ())
      (writeEntries backendName entries before) := by
  induction entries generalizing before with
  | nil => exact executes_pure_iff.mpr ⟨rfl, rfl, rfl⟩
  | cons entry entries ih =>
      obtain ⟨validFirst, validRest⟩ := List.forall_mem_cons.mp valid
      refine executes_bind_iff.mpr (.inr ⟨[], [], (), _, rfl, ?_, ih validRest⟩)
      rw [setVar, if_pos validFirst]
      exact executes_modify_iff.mpr ⟨rfl, rfl, rfl⟩

theorem injectEntries_silent {entries : List (Text × Text)} {result : Except Fault Unit}
    (executes : (injectEntries backendName entries :
      Method Query Answer Environment Fault Unit).Executes before trace result after) :
    trace = [] := by
  induction entries generalizing before trace with
  | nil => exact (executes_pure_iff.mp executes).1
  | cons entry entries ih =>
      rcases executes_bind_iff.mp executes with ⟨error, -, failed⟩ |
        ⟨first, second, _, _, rfl, stored, continued⟩
      · exact (setVar_cases failed).1
      · rw [(setVar_cases stored).1, ih continued]
        rfl

/-- An admission injects the settings.  If that does not panic, it constructs the
resource from the variables as they are then. -/
theorem admit_cases {outcome : Except Fault (Option Resource)}
    (executes : (admitBackend construct providerEnv backendName :
      Method Query Answer Environment Fault (Option Resource)).Executes
      before trace outcome after) :
    trace = [] ∧ ∃ injected, (injectBackendEnv providerEnv backendName :
        Method Query Answer Environment Fault Unit).Executes
        before [] injected after ∧
      ((∃ error, injected = .error error ∧ outcome = .error error) ∨
        (injected = .ok () ∧ outcome =
          .ok (construct backendName (.environment after)).toOption)) := by
  rcases executes_bind_iff.mp executes with ⟨error, rfl, failed⟩ |
    ⟨first, second, _, middle, rfl, injected, continued⟩
  · have silent := injectEntries_silent failed
    subst silent
    exact ⟨rfl, _, failed, .inl ⟨error, rfl, rfl⟩⟩
  · have silent := injectEntries_silent injected
    subst silent
    rw [executes_self_bind_iff] at continued
    obtain ⟨rfl, rfl, rfl⟩ := executes_pure_iff.mp continued
    exact ⟨rfl, _, injected, .inr ⟨rfl, rfl⟩⟩

end Executions

end Methods
