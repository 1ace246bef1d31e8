import Qrmi.KeyedStore
import Qrmi.RustPanic
import Qrmi.RustText

/-!
# The Pasqal configuration file

The file is a text of `key = value` lines.  The parser takes the lines in their
order, and a value may stand in quotation marks.
-/

/-- The settings of a Pasqal Cloud instance that do not come from the environment. -/
structure PasqalCloudConfig where
  config : Option (KeyedStore Text Text)
  username : Option Text
  password : Option Text
  clientId : Option Text
  clientSecret : Option Text
  token : Option Text
  projectId : Option Text
  authEndpoint : Option Text

namespace PasqalCloudConfig

def default : PasqalCloudConfig where
  config := none
  username := none
  password := none
  clientId := none
  clientSecret := none
  token := none
  projectId := none
  authEndpoint := none

end PasqalCloudConfig

namespace PasqalConfigFile

open Text

/-- The recognised keys. -/
inductive Key
  | username
  | password
  | clientId
  | clientSecret
  | token
  | projectId
  | authEndpoint
  deriving DecidableEq

namespace Key

def all : List Key :=
  [username, password, clientId, clientSecret, token, projectId, authEndpoint]

def name : Key → Text
  | username => "username".toList
  | password => "password".toList
  | clientId => "client_id".toList
  | clientSecret => "client_secret".toList
  | token => "token".toList
  | projectId => "project_id".toList
  | authEndpoint => "auth_endpoint".toList

def read (config : PasqalCloudConfig) : Key → Option Text
  | username => config.username
  | password => config.password
  | clientId => config.clientId
  | clientSecret => config.clientSecret
  | token => config.token
  | projectId => config.projectId
  | authEndpoint => config.authEndpoint

def write (config : PasqalCloudConfig) (value : Text) : Key → PasqalCloudConfig
  | username => { config with username := some value }
  | password => { config with password := some value }
  | clientId => { config with clientId := some value }
  | clientSecret => { config with clientSecret := some value }
  | token => { config with token := some value }
  | projectId => { config with projectId := some value }
  | authEndpoint => { config with authEndpoint := some value }

/-- The key that is matched, if there is one. -/
def ofName (text : Text) : Option Key :=
  all.find? fun key => key.name = text

theorem read_write (config : PasqalCloudConfig) (value : Text) (key other : Key) :
    key.read (other.write config value) =
      if other = key then some value else key.read config := by
  cases key <;> cases other <;> rfl

@[simp]
theorem read_default (key : Key) : key.read .default = none := by
  cases key <;> rfl

theorem ofName_eq_some_iff {text : Text} {key : Key} :
    ofName text = some key ↔ text = key.name := by
  constructor
  · intro found
    unfold ofName at found
    have named := List.find?_some found
    exact (of_decide_eq_true named).symm
  · rintro rfl
    cases key <;> decide

theorem map_toLower_name (key : Key) : key.name.map Char.toLower = key.name := by
  cases key <;> decide

end Key

/-- `&text[start..stop]`, for positions in front of which every character is one byte
long. -/
def slice (text : Text) (start stop : Nat) : MayPanic Text :=
  if start ≤ stop ∧ stop ≤ text.length then .returned ((text.take stop).drop start)
  else .panicked

/-- `strip_quotes`.  Quotation marks are one byte long, so that the positions of the
slice count characters as well. -/
def stripQuotes (text : Text) : MayPanic Text :=
  let text := trim text
  if (text.head? = some '"' ∧ text.getLast? = some '"') ∨
      (text.head? = some '\'' ∧ text.getLast? = some '\'') then
    slice text 1 (text.length - 1)
  else return text

/-- Lines without a setting: empty ones and comments. -/
def isSkipped (line : Text) : Bool :=
  line = [] || line.head? = some '#' || line.head? = some ';'

/-- One turn of the loop over the lines. -/
def parseLine (config : PasqalCloudConfig) (line : Text) : MayPanic PasqalCloudConfig :=
  let line := trim line
  if isSkipped line then return config
  else
    match splitOnce '=' line with
    | none => return config
    | some (left, right) => do
        let unquoted ← stripQuotes right
        if trim left = [] then return config
        else
          match Key.ofName ((trim left).map Char.toLower) with
          | some key => return key.write config (trim unquoted)
          | none => return config

/-- `parse_pasqal_config_content`. -/
def parsePasqalConfigContent (content : Text) : MayPanic PasqalCloudConfig :=
  (lines content).foldlM parseLine .default

def isQuote (char : Char) : Bool :=
  char = '"' || char = '\''

/-- A value without the pair of quotation marks around it. -/
def unquoted : Text → Text
  | [] => []
  | first :: rest =>
      if isQuote first ∧ rest.getLast? = some first then rest.dropLast else first :: rest

/-- The value that a line assigns to a name. -/
def assignment (name line : Text) : Option Text :=
  if isSkipped (trim line) then none
  else
    match splitOnce '=' (trim line) with
    | none => none
    | some (left, right) =>
        if eqIgnoreAsciiCase (trim left) name then some (trim (unquoted (trim right)))
        else none

/-- The value of the last line that assigns one to a name. -/
def lastAssignment (name content : Text) : Option Text :=
  (lines content).reverse.findSome? (assignment name)

/-- The parser returns, and every recognised key has the value that the file says. -/
def ParsesCorrectly (content : Text) : Prop :=
  ∃ config, parsePasqalConfigContent content = .returned config ∧
    ∀ key : Key, key.read config = lastAssignment key.name content

/-- A line whose value is one quotation mark, whatever its key. -/
def IsLoneQuote (line : Text) : Prop :=
  isSkipped (trim line) = false ∧ ∃ left right quote,
    splitOnce '=' (trim line) = some (left, right) ∧ isQuote quote = true ∧
      trim right = [quote]

section Line

variable {text line : Text} {config : PasqalCloudConfig}

theorem isQuote_iff {char : Char} : isQuote char = true ↔ char = '"' ∨ char = '\'' := by
  simp [isQuote]

theorem quotes_iff {first : Char} {rest : Text} :
    ((first :: rest).head? = some '"' ∧ (first :: rest).getLast? = some '"') ∨
        ((first :: rest).head? = some '\'' ∧ (first :: rest).getLast? = some '\'') ↔
      isQuote first = true ∧ (first :: rest).getLast? = some first := by
  rw [isQuote_iff, List.head?_cons, Option.some_inj, Option.some_inj]
  constructor
  · rintro (⟨rfl, ends⟩ | ⟨rfl, ends⟩)
    · exact ⟨.inl rfl, ends⟩
    · exact ⟨.inr rfl, ends⟩
  · rintro ⟨rfl | rfl, ends⟩
    · exact .inl ⟨rfl, ends⟩
    · exact .inr ⟨rfl, ends⟩

/-- The slice of a lone quotation mark ends in front of its start. -/
theorem stripQuotes_of_lone {quote : Char} (isMark : isQuote quote = true)
    (lone : trim text = [quote]) : stripQuotes text = .panicked := by
  have marks : isQuote quote = true ∧ [quote].getLast? = some quote := ⟨isMark, rfl⟩
  have marked := quotes_iff.mpr marks
  rw [stripQuotes, lone]
  exact if_pos marked

theorem stripQuotes_of_not_lone
    (several : ∀ quote, isQuote quote = true → trim text ≠ [quote]) :
    stripQuotes text = .returned (unquoted (trim text)) := by
  unfold stripQuotes
  generalize trim text = value at several ⊢
  cases value with
  | nil => rfl
  | cons first rest =>
      dsimp only
      rw [if_congr quotes_iff rfl rfl, unquoted]
      cases rest with
      | nil =>
          have unmarked : ¬ isQuote first = true := fun isMark => several first isMark rfl
          rw [if_neg (fun marks => unmarked marks.1), if_neg (fun marks => unmarked marks.1)]
          rfl
      | cons second rest =>
          rw [List.getLast?_cons_cons]
          split
          · rw [slice, if_pos (by simp)]
            simp [List.dropLast_eq_take]
          · rfl

theorem parseLine_of_lone (lone : IsLoneQuote line) : parseLine config line = .panicked := by
  obtain ⟨kept, left, right, quote, divided, isMark, single⟩ := lone
  simp only [parseLine, kept, Bool.false_eq_true, if_false, divided,
    stripQuotes_of_lone isMark single, MayPanic.panicked_bind]

theorem eqIgnoreAsciiCase_name_iff {text : Text} {key : Key} :
    eqIgnoreAsciiCase text key.name = true ↔ Key.ofName (text.map Char.toLower) = some key := by
  rw [eqIgnoreAsciiCase, key.map_toLower_name, beq_iff_eq, Key.ofName_eq_some_iff]

/-- A key of no characters is not recognised. -/
theorem ofName_nil : Key.ofName (List.map Char.toLower []) = none := by
  decide

/-- What a divided line does to the settings. -/
theorem read_assign {left value : Text} (key : Key) :
    (key.read (match Key.ofName (left.map Char.toLower) with
      | some other => other.write config value
      | none => config)) =
      (if eqIgnoreAsciiCase left key.name then some value else none).or (key.read config) := by
  cases matched : Key.ofName (left.map Char.toLower) with
  | none =>
      have different : ¬ eqIgnoreAsciiCase left key.name = true := by
        rw [eqIgnoreAsciiCase_name_iff, matched]
        nofun
      rw [if_neg different]
      rfl
  | some other =>
      dsimp only
      rw [Key.read_write]
      have same : eqIgnoreAsciiCase left key.name = true ↔ other = key := by
        rw [eqIgnoreAsciiCase_name_iff, matched, Option.some_inj]
      by_cases assigned : other = key
      · rw [if_pos assigned, if_pos (same.mpr assigned)]
        rfl
      · rw [if_neg assigned, if_neg (fun equal => assigned (same.mp equal))]
        rfl

/-- Every other line is read, and it overrides the keys that it assigns. -/
theorem parseLine_of_not_lone (config : PasqalCloudConfig) (notLone : ¬ IsLoneQuote line) :
    ∃ next, parseLine config line = .returned next ∧
      ∀ key : Key, key.read next = (assignment key.name line).or (key.read config) := by
  unfold parseLine assignment
  dsimp only
  cases skipped : isSkipped (trim line) with
  | true => exact ⟨config, rfl, fun key => rfl⟩
  | false =>
      simp only [Bool.false_eq_true, if_false]
      cases divided : splitOnce '=' (trim line) with
      | none => exact ⟨config, rfl, fun key => rfl⟩
      | some parts =>
          obtain ⟨left, right⟩ := parts
          have several : ∀ quote, isQuote quote = true → trim right ≠ [quote] :=
            fun quote isMark single =>
              notLone ⟨skipped, left, right, quote, divided, isMark, single⟩
          dsimp only
          rw [stripQuotes_of_not_lone several, MayPanic.returned_bind]
          refine ⟨_, ?_, fun key => read_assign key⟩
          by_cases unnamed : trim left = []
          · rw [if_pos unnamed, unnamed, ofName_nil]
            rfl
          · rw [if_neg unnamed]
            cases Key.ofName ((trim left).map Char.toLower) <;> rfl

end Line

section Lines

variable {content : Text}

theorem foldlM_of_lone {lines : List Text} {config : PasqalCloudConfig}
    (lone : ∃ line ∈ lines, IsLoneQuote line) :
    lines.foldlM parseLine config = .panicked := by
  induction lines generalizing config with
  | nil =>
      obtain ⟨line, member, -⟩ := lone
      cases member
  | cons line lines ih =>
      rw [List.foldlM_cons]
      by_cases first : IsLoneQuote line
      · rw [parseLine_of_lone first]
        rfl
      · obtain ⟨next, read, -⟩ := parseLine_of_not_lone config first
        rw [read, MayPanic.returned_bind]
        apply ih
        obtain ⟨other, member, otherLone⟩ := lone
        rcases List.mem_cons.mp member with rfl | later
        · exact absurd otherLone first
        · exact ⟨other, later, otherLone⟩

/-- The later lines override the earlier ones. -/
theorem foldlM_of_not_lone {lines : List Text} (config : PasqalCloudConfig)
    (notLone : ∀ line ∈ lines, ¬ IsLoneQuote line) :
    ∃ result, lines.foldlM parseLine config = .returned result ∧
      ∀ key : Key, key.read result =
        (lines.reverse.findSome? (assignment key.name)).or (key.read config) := by
  induction lines generalizing config with
  | nil => exact ⟨config, rfl, fun key => rfl⟩
  | cons line lines ih =>
      obtain ⟨next, read, assigned⟩ :=
        parseLine_of_not_lone config (notLone line List.mem_cons_self)
      obtain ⟨result, parsed, values⟩ :=
        ih next fun other later => notLone other (List.mem_cons_of_mem _ later)
      refine ⟨result, ?_, ?_⟩
      · rw [List.foldlM_cons, read, MayPanic.returned_bind, parsed]
      · intro key
        rw [values key, assigned key, List.reverse_cons, List.findSome?_append,
          List.findSome?_singleton, Option.or_assoc]

/-- The parser is total and correct exactly on the files in which no value is a lone
quotation mark. -/
theorem parsesCorrectly_iff (content : Text) :
    ParsesCorrectly content ↔ ∀ line ∈ lines content, ¬ IsLoneQuote line := by
  constructor
  · rintro ⟨config, parsed, -⟩ line member lone
    have panicked : parsePasqalConfigContent content = .panicked :=
      foldlM_of_lone ⟨line, member, lone⟩
    rw [parsed] at panicked
    cases panicked
  · intro notLone
    obtain ⟨config, parsed, values⟩ := foldlM_of_not_lone .default notLone
    refine ⟨config, parsed, ?_⟩
    intro key
    rw [values key, Key.read_default, Option.or_none]
    rfl

/-- A file of one line that stops the process. -/
theorem exists_lone_quote :
    parsePasqalConfigContent "token = \"".toList = .panicked ∧
      ¬ ParsesCorrectly "token = \"".toList := by
  have lone : IsLoneQuote "token = \"".toList :=
    ⟨by decide, "token ".toList, " \"".toList, '"', by decide, by decide, by decide⟩
  have single : lines "token = \"".toList = ["token = \"".toList] := by decide
  have panicked : parsePasqalConfigContent "token = \"".toList = .panicked := by
    apply foldlM_of_lone
    rw [single]
    exact ⟨_, List.mem_singleton_self _, lone⟩
  refine ⟨panicked, ?_⟩
  rintro ⟨config, parsed, -⟩
  rw [panicked] at parsed
  cases parsed

end Lines

end PasqalConfigFile
