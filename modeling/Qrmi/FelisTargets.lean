import Qrmi.AliceBobFelis
import Qrmi.ResourceSettings
import Qrmi.UnicodeCase
import Qrmi.Utf8

/-!
# The targets of Felis and their device names

Felis names its targets in upper case with colons, and the resource names its devices in
lower case with underscores.  A device name is read back with two colons.
-/

open Interaction

/-- A target as Felis lists it: its name, and the document that the resource shows. -/
structure FelisTarget where
  name : Text
  document : Json

/-- What the resource leaves to libraries: the base64 decoder, the deserialiser of the
list of targets, the JSON serialiser and the case tables. -/
structure FelisTargetCodec where
  decodeBase64 : Text → Except String (List UInt8)
  readTargets : Text → Except String (List FelisTarget)
  dump : Json → Text
  case : UnicodeCase

namespace FelisBackend

open Method

def isSeparator (char : Char) : Bool :=
  char = ':' || char = '_'

section Names

variable (case : UnicodeCase)

/-- `target_to_device`. -/
def targetToDevice (target : Text) : Text :=
  "ab_".toList ++
    case.lowercase (target.map fun char => if char = ':' then '_' else char)

/-- `device_to_target`. -/
def deviceToTarget (device : Text) : Text :=
  case.uppercase
    (Text.replacen '_' ':' 2 ((Text.stripPrefix "ab_".toList device).getD device))

end Names

section Operations

variable (codec : FelisTargetCodec)

/-- `decode_api_key`. -/
def decodeApiKey (encoded : Text) : Except String (Option (Text × Option Text)) := do
  let bytes ← codec.decodeBase64 encoded
  let decoded ← match Text.ofUtf8 bytes with
    | some decoded => Except.ok decoded
    | none => .error "invalid utf-8 sequence"
  match Text.splitOnce ':' decoded with
  | some (username, password) => .ok (some (username, some password))
  | none => .error "missing password part"

def invalidApiKey (message : String) : QrmiError :=
  .invalidConfig ("QRMI_AB_FELIS_API_KEY is not a base64-encoded 'user:password' " ++
    s!"API key: {message}")

/-- `from_opt`. -/
def fromOpt (backendName : Text) (settings : SettingsSource) :
    Except QrmiError FelisBackend := do
  let prefixed := settings.prefixOf backendName
  let apiKey ← settings.resolveOptRequiredAny
    [prefixed ++ "QRMI_AB_FELIS_API_KEY".toList, "QRMI_AB_FELIS_API_KEY".toList]
  let endpoint ← settings.resolveOptRequiredAny
    [prefixed ++ "QRMI_AB_FELIS_BASE_ENDPOINT".toList,
      "QRMI_AB_FELIS_BASE_ENDPOINT".toList]
  let basicAuth ← (decodeApiKey codec apiKey).mapError invalidApiKey
  return {
    config := {
      basePath := endpoint
      userAgent := some "OpenAPI-Generator/0.1.0/rust".toList
      basicAuth := basicAuth }
    felisTarget := deviceToTarget codec.case backendName }

/-- `list_targets`. -/
def listTargets (config : FelisConfiguration) :
    WebProgram (Except ApiError (List FelisTarget)) :=
  fetch (AliceBobFelis.authorized config .get (config.basePath ++ "/v1/targets/".toList))
    (HttpReply.readJson "application/octet-stream" "Vec<models::TargetConfiguration>"
      codec.readTargets)

/-- `list_backends`. -/
def listBackends : Method WebAction WebAction.Answer FelisBackend QrmiError (List Text) := do
  let targets ← request fun felis : FelisBackend =>
    classified (AliceBobFelis.classify .backend) (listTargets codec felis.config)
  return targets.map fun target => targetToDevice codec.case target.name

/-- The first target with the name that the resource sends its jobs to. -/
def findTarget (felis : FelisBackend) (targets : List FelisTarget) : Option FelisTarget :=
  targets.find? fun target => target.name = felis.felisTarget

/-- `target`.  A target that is not listed is a panic, which never returns. -/
def target : Method WebAction WebAction.Answer FelisBackend QrmiError Text := do
  let felis ← self
  let targets ← request fun felis : FelisBackend =>
    classified (AliceBobFelis.classify .backend) (listTargets codec felis.config)
  match findTarget felis targets with
  | some target => return codec.dump target.document
  | none => fun _ => .pending

end Operations

section Names

variable {case : UnicodeCase} {name : Text}

/-- A target name in the form that device names stand for: it is in upper case, its first
two separators are colons, and the others are underscores. -/
structure HasDeviceName (case : UnicodeCase) (name : Text) : Prop where
  upper : ∀ char ∈ name, case.uppercase (case.toLower char) = [char]
  colons : ∀ separator ∈ (name.filter isSeparator).take 2, separator = ':'
  underscores : ∀ separator ∈ (name.filter isSeparator).drop 2, separator = '_'

/-- What a name is read back as, with a number of colons left to be put in. -/
def readBack (case : UnicodeCase) : Nat → Text → Text
  | _, [] => []
  | count, char :: name =>
      if isSeparator char then
        (if count = 0 then '_' else ':') :: readBack case (count - 1) name
      else case.uppercase (case.toLower char) ++ readBack case count name

theorem isCaseless_of_isSeparator {char : Char} (separates : isSeparator char = true) :
    IsCaseless char := by
  simp only [isSeparator, Bool.or_eq_true, decide_eq_true_eq] at separates
  rcases separates with rfl | rfl <;> decide

theorem uppercase_underscore : case.uppercase ['_'] = ['_'] := by
  rw [UnicodeCase.uppercase, List.flatMap_singleton, case.toUpper_caseless '_' (by decide)]

theorem uppercase_colon : case.uppercase [':'] = [':'] := by
  rw [UnicodeCase.uppercase, List.flatMap_singleton, case.toUpper_caseless ':' (by decide)]

/-- Behind the prefix, a device name is read back character by character. -/
theorem uppercase_replacen_lowercase (count : Nat) (before name : Text) :
    case.uppercase (Text.replacen '_' ':' count (case.lowercaseFrom before
        (name.map fun char => if char = ':' then '_' else char))) =
      readBack case count name := by
  induction name generalizing count before with
  | nil =>
      cases count <;> rfl
  | cons char name ih =>
      rw [List.map_cons, UnicodeCase.lowercaseFrom, readBack]
      cases separates : isSeparator char with
      | true =>
          have written : (if char = ':' then '_' else char) = '_' := by
            simp only [isSeparator, Bool.or_eq_true, decide_eq_true_eq] at separates
            rcases separates with rfl | rfl <;> rfl
          rw [written, UnicodeCase.lowerBetween_caseless (by decide), List.singleton_append,
            if_pos rfl]
          cases count with
          | zero =>
              have rest := ih 0 ('_' :: before)
              simp only [Text.replacen] at rest ⊢
              rw [← List.singleton_append, UnicodeCase.uppercase_append,
                uppercase_underscore, rest]
              rfl
          | succ count =>
              rw [Text.replacen, if_pos rfl, ← List.singleton_append,
                UnicodeCase.uppercase_append, uppercase_colon, ih]
              rfl
      | false =>
          simp only [isSeparator, Bool.or_eq_false_iff, decide_eq_false_iff_not] at separates
          rw [if_neg separates.1, if_neg Bool.false_ne_true]
          have absent : '_' ∉ case.lowerBetween before char
              (name.map fun char => if char = ':' then '_' else char) := by
            intro member
            by_cases caseless : IsCaseless char
            · rw [UnicodeCase.lowerBetween_caseless caseless, List.mem_singleton] at member
              exact separates.2 member.symm
            · exact UnicodeCase.not_caseless_lowerBetween caseless '_' member (by decide)
          rw [Text.replacen_append absent, UnicodeCase.uppercase_append,
            UnicodeCase.uppercase_lowerBetween, ih]

theorem deviceToTarget_targetToDevice (name : Text) :
    deviceToTarget case (targetToDevice case name) = readBack case 2 name := by
  rw [deviceToTarget, targetToDevice, Text.stripPrefix_append, Option.getD_some]
  exact uppercase_replacen_lowercase 2 [] name

theorem length_le_readBack (count : Nat) (name : Text) :
    name.length ≤ (readBack case count name).length := by
  induction name generalizing count with
  | nil => exact Nat.zero_le _
  | cons char name ih =>
      rw [readBack]
      split
      · exact Nat.succ_le_succ (ih _)
      · have nonempty : case.uppercase (case.toLower char) ≠ [] :=
          UnicodeCase.uppercase_ne_nil (case.toLower_ne_nil char)
        have positive := List.length_pos_iff.mpr nonempty
        have rest := ih count
        rw [List.length_append, List.length_cons]
        omega

/-- Reading back gives the name itself when every piece of it is kept. -/
theorem readBack_eq_self_iff (count : Nat) (name : Text) :
    readBack case count name = name ↔
      (∀ char ∈ name, case.uppercase (case.toLower char) = [char]) ∧
        (∀ separator ∈ (name.filter isSeparator).take count, separator = ':') ∧
        ∀ separator ∈ (name.filter isSeparator).drop count, separator = '_' := by
  induction name generalizing count with
  | nil => simp [readBack]
  | cons char name ih =>
      rw [readBack, List.forall_mem_cons]
      cases separates : isSeparator char with
      | true =>
          have caseless := isCaseless_of_isSeparator separates
          have upper : case.uppercase (case.toLower char) = [char] := by
            rw [case.toLower_caseless char caseless, UnicodeCase.uppercase,
              List.flatMap_singleton, case.toUpper_caseless char caseless]
          rw [if_pos rfl, List.filter_cons_of_pos separates]
          cases count with
          | zero =>
              have rest := ih 0
              simp only [List.take_zero, List.drop_zero, List.not_mem_nil, false_implies,
                implies_true, true_and, List.cons.injEq, List.forall_mem_cons] at rest ⊢
              rw [rest, eq_comm]
              constructor
              · rintro ⟨same, kept, others⟩
                exact ⟨⟨upper, kept⟩, same, others⟩
              · rintro ⟨⟨-, kept⟩, same, others⟩
                exact ⟨same, kept, others⟩
          | succ count =>
              simp only [List.take_succ_cons, List.drop_succ_cons, List.cons.injEq,
                List.forall_mem_cons, Nat.add_one_ne_zero, if_false, Nat.add_sub_cancel]
              rw [ih count, eq_comm]
              constructor
              · rintro ⟨same, kept, colons, others⟩
                exact ⟨⟨upper, kept⟩, ⟨same, colons⟩, others⟩
              · rintro ⟨⟨-, kept⟩, ⟨same, colons⟩, others⟩
                exact ⟨same, kept, colons, others⟩
      | false =>
          rw [if_neg Bool.false_ne_true,
            List.filter_cons_of_neg (by rw [separates]; exact Bool.false_ne_true)]
          have nonempty : case.uppercase (case.toLower char) ≠ [] :=
            UnicodeCase.uppercase_ne_nil (case.toLower_ne_nil char)
          have positive := List.length_pos_iff.mpr nonempty
          have longer : name.length ≤ (readBack case count name).length :=
            length_le_readBack count name
          constructor
          · intro same
            have lengths := congrArg List.length same
            rw [List.length_append, List.length_cons] at lengths
            have one : (case.uppercase (case.toLower char)).length = [char].length := by
              rw [List.length_singleton]
              omega
            obtain ⟨first, rest⟩ := List.append_inj (same.trans List.singleton_append.symm) one
            obtain ⟨kept, separators⟩ := (ih count).mp rest
            exact ⟨⟨first, kept⟩, separators⟩
          · rintro ⟨⟨first, kept⟩, separators⟩
            rw [first, (ih count).mpr ⟨kept, separators⟩]
            rfl

theorem deviceToTarget_targetToDevice_iff :
    deviceToTarget case (targetToDevice case name) = name ↔ HasDeviceName case name := by
  rw [deviceToTarget_targetToDevice, readBack_eq_self_iff]
  exact ⟨fun ⟨upper, colons, underscores⟩ => ⟨upper, colons, underscores⟩,
    fun ⟨upper, colons, underscores⟩ => ⟨upper, colons, underscores⟩⟩

end Names

section Devices

variable {codec : FelisTargetCodec} {targets : List FelisTarget}

/-- What a resource constructed for a device sends its jobs to. -/
theorem felisTarget_of_fromOpt {backendName : Text} {settings : SettingsSource}
    {felis : FelisBackend} (constructed : fromOpt codec backendName settings = .ok felis) :
    felis.felisTarget = deviceToTarget codec.case backendName := by
  obtain ⟨apiKey, -, rest⟩ := Except.bind_eq_ok_iff.mp constructed
  obtain ⟨endpoint, -, rest⟩ := Except.bind_eq_ok_iff.mp rest
  obtain ⟨basicAuth, -, rest⟩ := Except.bind_eq_ok_iff.mp rest
  cases rest
  rfl

/-- A list of targets is listed as the devices of its names. -/
theorem names_of_listBackends {before after : FelisBackend} {trace : List WebEvent}
    {names : List Text}
    (executes : (listBackends codec).Executes before trace (.ok names) after) :
    ∃ targets reply, trace = [⟨.send (AliceBobFelis.authorized before.config .get
          (before.config.basePath ++ "/v1/targets/".toList)), reply⟩] ∧
      HttpReply.readJson "application/octet-stream" "Vec<models::TargetConfiguration>"
        codec.readTargets reply = .ok targets ∧
      names = targets.map fun target => targetToDevice codec.case target.name := by
  rcases executes_bind_iff.mp executes with ⟨error, equal, -⟩ |
    ⟨_, _, targets, middle, rfl, listed, returned⟩
  · cases equal
  obtain ⟨rfl, equal, rfl⟩ := executes_pure_iff.mp returned
  cases equal
  obtain ⟨⟨reply, rfl, read⟩, rfl⟩ := executes_request_fetch_iff.mp listed
  refine ⟨targets, reply, rfl, ?_, rfl⟩
  cases answer : HttpReply.readJson "application/octet-stream"
      "Vec<models::TargetConfiguration>" codec.readTargets reply with
  | error error =>
      rw [answer] at read
      cases read
  | ok others =>
      rw [answer] at read
      cases read
      rfl

/-- A listing whose reply these targets were read from. -/
def Lists (codec : FelisTargetCodec) (targets : List FelisTarget) (names : List Text) : Prop :=
  ∃ felis after sent reply,
    (listBackends codec).Executes felis [⟨.send sent, reply⟩] (.ok names) after ∧
      HttpReply.readJson "application/octet-stream" "Vec<models::TargetConfiguration>"
        codec.readTargets reply = .ok targets

/-- Listings give one device for each target, in their order. -/
theorem Lists.names {names : List Text} (lists : Lists codec targets names) :
    names = targets.map fun target => targetToDevice codec.case target.name := by
  obtain ⟨felis, after, sent, reply, executes, read⟩ := lists
  obtain ⟨others, answer, same, found, rfl⟩ := names_of_listBackends executes
  cases same
  cases read.symm.trans found
  rfl

/-- Every device that is listed stands for the target that it was listed for, also in a
resource that is constructed for it, and for no other one. -/
structure NamesTargets (codec : FelisTargetCodec) (targets : List FelisTarget) : Prop where
  listed : ∀ names, Lists codec targets names →
    names.map (deviceToTarget codec.case) = targets.map FelisTarget.name
  inverse : ∀ target ∈ targets,
    deviceToTarget codec.case (targetToDevice codec.case target.name) = target.name
  constructed : ∀ target ∈ targets, ∀ settings felis,
    fromOpt codec (targetToDevice codec.case target.name) settings = .ok felis →
      felis.felisTarget = target.name ∧
        ∃ found, findTarget felis targets = some found ∧ found.name = target.name
  distinct : ∀ first ∈ targets, ∀ second ∈ targets,
    targetToDevice codec.case first.name = targetToDevice codec.case second.name →
      first.name = second.name

/-- The devices of a list of targets stand for their targets exactly when every name of
the list has the form that device names are read back in. -/
theorem namesTargets_iff (codec : FelisTargetCodec) (targets : List FelisTarget) :
    NamesTargets codec targets ↔
      ∀ target ∈ targets, HasDeviceName codec.case target.name := by
  constructor
  · intro faithful target member
    exact deviceToTarget_targetToDevice_iff.mp (faithful.inverse target member)
  · intro named
    have inverse : ∀ target ∈ targets,
        deviceToTarget codec.case (targetToDevice codec.case target.name) = target.name :=
      fun target member => deviceToTarget_targetToDevice_iff.mpr (named target member)
    refine ⟨fun names lists => ?_, inverse, fun target member settings felis constructed => ?_,
      fun first inFirst second inSecond same => ?_⟩
    · rw [lists.names, List.map_map]
      exact List.map_congr_left inverse
    · have same : felis.felisTarget = target.name := by
        rw [felisTarget_of_fromOpt constructed, inverse target member]
      have listed : (findTarget felis targets).isSome :=
        List.find?_isSome.mpr ⟨target, member, decide_eq_true same.symm⟩
      obtain ⟨found, isFound⟩ := Option.isSome_iff_exists.mp listed
      have chosen : targets.find? (fun other => other.name = felis.felisTarget) =
          some found := isFound
      have named := List.find?_some chosen
      exact ⟨same, found, isFound, (of_decide_eq_true named).trans same⟩
    · rw [← inverse first inFirst, same, inverse second inSecond]

end Devices

namespace TwoTargets

/-- Two targets that differ in a separator. -/
def targets : List FelisTarget :=
  [⟨"EMU:1Q:LESCANNE:2020".toList, .null⟩, ⟨"EMU:1Q:LESCANNE_2020".toList, .null⟩]

def document : Text :=
  ("[\x7b\"name\":\"EMU:1Q:LESCANNE:2020\"\x7d," ++
    "\x7b\"name\":\"EMU:1Q:LESCANNE_2020\"\x7d]").toList

def codec : FelisTargetCodec where
  decodeBase64 _ := .error "invalid symbol"
  readTargets text := if text = document then .ok targets else .error "expected value"
  dump := Json.render
  case := .ascii

def felis : FelisBackend where
  config := ⟨"https://felis".toList, none, none⟩
  felisTarget := "EMU:1Q:LESCANNE:2020".toList

def listing : HttpReply :=
  .ok ⟨⟨200, "OK"⟩, some "application/json".toList, .ok document⟩

theorem lists : Lists codec targets
    ["ab_emu_1q_lescanne_2020".toList, "ab_emu_1q_lescanne_2020".toList] := by
  refine ⟨felis, felis, AliceBobFelis.authorized felis.config .get
    (felis.config.basePath ++ "/v1/targets/".toList), listing, ?_, rfl⟩
  exact .ask (.done _)

end TwoTargets

/-- Two targets are listed as one device, which stands for the second one. -/
theorem exists_shared_device :
    ∃ codec targets, ¬ NamesTargets codec targets ∧
      Lists codec targets
        ["ab_emu_1q_lescanne_2020".toList, "ab_emu_1q_lescanne_2020".toList] ∧
      deviceToTarget codec.case "ab_emu_1q_lescanne_2020".toList =
        "EMU:1Q:LESCANNE_2020".toList := by
  refine ⟨TwoTargets.codec, TwoTargets.targets, fun faithful => ?_, TwoTargets.lists, by decide⟩
  have same := faithful.inverse _ List.mem_cons_self
  exact absurd same (by decide)

end FelisBackend
