import Qrmi.QrmiError

/-!
# Settings of a resource

A vendor reads its settings either from the process environment, with the
resource name as a prefix, or from an explicit map.
-/

namespace Except

variable {ε α β γ : Type}

theorem bind_eq_ok_iff {first : Except ε α} {next : α → Except ε β} {value : β} :
    (first >>= next) = .ok value ↔
      ∃ middle, first = .ok middle ∧ next middle = .ok value := by
  cases first with
  | error error => exact ⟨nofun, fun ⟨_, equal, _⟩ => nomatch equal⟩
  | ok middle => exact ⟨fun equal => ⟨middle, rfl, equal⟩, by rintro ⟨_, ⟨⟩, equal⟩; exact equal⟩

theorem map_bind (change : β → γ) (first : Except ε α) (next : α → Except ε β) :
    (first >>= next).map change = first >>= fun value => (next value).map change := by
  cases first with
  | error error => rfl
  | ok value => rfl

end Except

/-- Where settings are looked up: `resolve_opt` with and without a map. -/
inductive SettingsSource
  | environment (read : Text → Option Text)
  | config (get : Text → Option Text)

namespace SettingsSource

/-- `resolve_opt`.  The keys looked up in a map are ASCII constants, so their
lowercased form is the ASCII one. -/
def resolveOpt (source : SettingsSource) (key : Text) : Option Text :=
  match source with
  | environment read => read key
  | config get => (get key).or (get (key.map Char.toLower))

def notFoundError (source : SettingsSource) (name : Text) : QrmiError :=
  match source with
  | environment _ => .envVarNotSet (String.ofList name)
  | config _ => .missingConfigKey (String.ofList name)

/-- `resolve_opt_required`. -/
def resolveOptRequired (source : SettingsSource) (key : Text) :
    Except QrmiError Text :=
  match source.resolveOpt key with
  | some value => .ok value
  | none => .error (source.notFoundError key)

/-- `Vec::dedup`: a name that follows an equal one is dropped. -/
def dedup : List Text → List Text
  | first :: second :: keys =>
      if first = second then dedup (second :: keys) else first :: dedup (second :: keys)
  | keys => keys

/-- `resolve_opt_required_any`. -/
def resolveOptRequiredAny (source : SettingsSource) (keys : List Text) :
    Except QrmiError Text :=
  match (dedup keys).findSome? source.resolveOpt with
  | some value => .ok value
  | none => .error (source.notFoundError (" or ".toList.intercalate (dedup keys)))

/-- The prefix of the environment variables of a resource; maps belong to one
resource and have none. -/
def prefixOf (source : SettingsSource) (resourceId : Text) : Text :=
  match source with
  | environment _ => resourceId ++ ['_']
  | config _ => []

end SettingsSource
