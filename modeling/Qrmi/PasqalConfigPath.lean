import Qrmi.PasqalConfigFile
import Qrmi.ResourceSettings

/-!
# Where the Pasqal configuration file is looked for

The file lies below a configured root or below the home directory.  A root may begin
with a tilde and may refer to environment variables.
-/

namespace PasqalConfigPath

open Text

/-- `PathBuf::push`. -/
def push (path component : Text) : Text :=
  if component.head? = some '/' then component
  else if path = [] ∨ path.getLast? = some '/' then path ++ component
  else path ++ '/' :: component

/-- The file below a directory. -/
def configPath (directory : Text) : Text :=
  push (push directory ".pasqal".toList) "config".toList

/-- The characters of a variable name. -/
def isNameChar (char : Char) : Bool :=
  char = '_' || char.isAlphanum

def missingBrace (key : Text) : QrmiError :=
  .invalidInput ("malformed environment variable in path: missing closing brace after " ++
    s!"$\x7b{String.ofList key}\x7d")

def malformedName (key : Text) : QrmiError :=
  .invalidInput s!"malformed environment variable in path: $\x7b{String.ofList key}\x7d"

section Environment

/- The process environment: `env::var(name).ok()`. -/
variable (env : Text → Option Text)

/-- `expand_env_vars`. -/
def expandEnvVars : Text → Except QrmiError Text
  | [] => .ok []
  | char :: chars =>
      if char ≠ '$' then do
        let expanded ← expandEnvVars chars
        return char :: expanded
      else if chars.head? = some '$' then do
        let expanded ← expandEnvVars (chars.drop 1)
        return '$' :: expanded
      else if chars.head? = some '{' then
        let key := (chars.drop 1).takeWhile (· ≠ '}')
        let closing := (chars.drop 1).dropWhile (· ≠ '}')
        if closing = [] then .error (missingBrace key)
        else if key = [] ∨ !key.all isNameChar then .error (malformedName key)
        else do
          let expanded ← expandEnvVars (closing.drop 1)
          return (env key).getD [] ++ expanded
      else
        let key := chars.takeWhile isNameChar
        if key = [] then do
          let expanded ← expandEnvVars chars
          return '$' :: expanded
        else do
          let expanded ← expandEnvVars (chars.dropWhile isNameChar)
          return (env key).getD [] ++ expanded
termination_by text => text.length
decreasing_by
  · exact Nat.lt_succ_self _
  · exact Nat.lt_succ_of_le (List.drop_suffix 1 chars).length_le
  · have shorter : (closing.drop 1).length ≤ chars.length :=
      (((List.drop_suffix 1 closing).trans (List.dropWhile_suffix _)).trans
        (List.drop_suffix 1 chars)).length_le
    exact Nat.lt_succ_of_le shorter
  · exact Nat.lt_succ_self _
  · have shorter : (chars.dropWhile isNameChar).length ≤ chars.length :=
      (List.dropWhile_suffix isNameChar).length_le
    exact Nat.lt_succ_of_le shorter

/-- `expand_config_root`. -/
def expandConfigRoot (configRoot : Text) : Except QrmiError Text :=
  let homeExpanded :=
    if configRoot = "~".toList then (env "HOME".toList).getD configRoot
    else if "~/".toList.isPrefixOf configRoot then
      match env "HOME".toList with
      | some home => home ++ configRoot.drop 1
      | none => configRoot
    else configRoot
  expandEnvVars env homeExpanded

/-- `pasqal_config_path_from_root`. -/
def pasqalConfigPathFromRoot (configRoot : Text) : Except QrmiError (Option Text) :=
  let configRoot := trim configRoot
  if configRoot = [] then .ok none
  else do
    let directory ← expandConfigRoot env configRoot
    return some (configPath directory)

/-- The path below a setting that may be absent. -/
def pathFromSetting (setting : Option Text) : Except QrmiError (Option Text) :=
  match setting with
  | some root => pasqalConfigPathFromRoot env root
  | none => .ok none

variable (backendName : Text) (hashmapConfig : Option (KeyedStore Text Text))

/-- Where `resolve_opt` looks. -/
def settings : SettingsSource :=
  match hashmapConfig with
  | some map => .config map.get
  | none => .environment env

/-- `config_root_path`: without a map, the variable of the backend is tried when the
global one gives no path. -/
def configRootPath : Except QrmiError (Option Text) := do
  let path ← pathFromSetting env
    ((settings env hashmapConfig).resolveOpt "PASQAL_CONFIG_ROOT".toList)
  if path.isNone ∧ hashmapConfig.isNone then
    pathFromSetting env (env (backendName ++ "_PASQAL_CONFIG_ROOT".toList))
  else return path

def homeConfigPath : Except QrmiError (Option Text) :=
  pathFromSetting env ((settings env hashmapConfig).resolveOpt "HOME".toList)

/-- The candidates in the order in which they are tried. -/
def configPathCandidates : Except QrmiError (List Text) := do
  let configRootPath ← configRootPath env backendName hashmapConfig
  let homeConfigPath ← homeConfigPath env hashmapConfig
  return configRootPath.toList ++ homeConfigPath.toList

/-- `resolve_pasqal_config`: the first file that can be read, parsed. -/
def resolvePasqalConfig (readToString : Text → Option Text) (candidates : List Text) :
    MayPanic PasqalCloudConfig :=
  match candidates.findSome? readToString with
  | some content => PasqalConfigFile.parsePasqalConfigContent content
  | none => return .default

/-- `read_pasqal_config`. -/
def readPasqalConfig (readToString : Text → Option Text) :
    Except QrmiError (MayPanic PasqalCloudConfig) := do
  let candidates ← configPathCandidates env backendName hashmapConfig
  return do
    let config ← resolvePasqalConfig readToString candidates
    return { config with config := hashmapConfig }

end Environment

/-- The text behind a dollar sign refers to something: to a dollar sign or to a
variable. -/
def startsReference : Text → Bool
  | [] => false
  | char :: _ => char = '$' || char = '{' || isNameChar char

/-- A variable name that an expansion accepts. -/
def IsName (key : Text) : Prop :=
  key ≠ [] ∧ ∀ char ∈ key, isNameChar char = true

/-- The expansions of a text, piece by piece.  What a variable stands for is not looked
at again. -/
inductive Expands (env : Text → Option Text) : Text → Text → Prop
  | nil : Expands env [] []
  | plain {char : Char} {text expanded : Text} (ordinary : char ≠ '$')
      (rest : Expands env text expanded) : Expands env (char :: text) (char :: expanded)
  | escaped {text expanded : Text} (rest : Expands env text expanded) :
      Expands env ('$' :: '$' :: text) ('$' :: expanded)
  | lone {text expanded : Text} (bare : startsReference text = false)
      (rest : Expands env text expanded) : Expands env ('$' :: text) ('$' :: expanded)
  | braced {key text expanded : Text} (name : IsName key)
      (rest : Expands env text expanded) :
      Expands env ('$' :: '{' :: (key ++ '}' :: text)) ((env key).getD [] ++ expanded)
  | named {key text expanded : Text} (name : IsName key)
      (ended : ∀ char ∈ text.head?, isNameChar char = false)
      (rest : Expands env text expanded) :
      Expands env ('$' :: (key ++ text)) ((env key).getD [] ++ expanded)

/-- The scan of a text from the left meets a braced reference that is not closed or has
no proper name. -/
inductive Malformed : Text → Prop
  | unclosed {text : Text} (unclosed : '}' ∉ text) : Malformed ('$' :: '{' :: text)
  | misnamed {key text : Text} (inside : '}' ∉ key) (misnamed : ¬ IsName key) :
      Malformed ('$' :: '{' :: (key ++ '}' :: text))
  | plain {char : Char} {text : Text} (ordinary : char ≠ '$') (rest : Malformed text) :
      Malformed (char :: text)
  | escaped {text : Text} (rest : Malformed text) : Malformed ('$' :: '$' :: text)
  | lone {text : Text} (bare : startsReference text = false) (rest : Malformed text) :
      Malformed ('$' :: text)
  | braced {key text : Text} (name : IsName key) (rest : Malformed text) :
      Malformed ('$' :: '{' :: (key ++ '}' :: text))
  | named {key text : Text} (name : IsName key)
      (ended : ∀ char ∈ text.head?, isNameChar char = false) (rest : Malformed text) :
      Malformed ('$' :: (key ++ text))

section Meaning

variable {env : Text → Option Text} {key text expanded : Text}

theorem takeWhile_append_of_ended {keep : Char → Bool} {key : Text}
    (kept : ∀ char ∈ key, keep char = true) (ended : ∀ char ∈ text.head?, keep char = false) :
    (key ++ text).takeWhile keep = key ∧ (key ++ text).dropWhile keep = text := by
  have stops : text.takeWhile keep = [] ∧ text.dropWhile keep = text := by
    cases text with
    | nil => exact ⟨rfl, rfl⟩
    | cons char rest =>
        have stop : ¬ keep char = true := by simp [ended char rfl]
        exact ⟨List.takeWhile_cons_of_neg stop, List.dropWhile_cons_of_neg stop⟩
  rw [List.takeWhile_append_of_pos kept, List.dropWhile_append_of_pos kept, stops.1, stops.2]
  exact ⟨List.append_nil key, rfl⟩

/-- The reserved characters of an expansion are in no name. -/
theorem IsName.ne {key : Text} (name : IsName key) {char : Char} (member : char ∈ key) :
    char ≠ '$' ∧ char ≠ '{' ∧ char ≠ '}' ∧ char ≠ '/' := by
  have allowed := name.2 char member
  refine ⟨?_, ?_, ?_, ?_⟩ <;>
    · rintro rfl
      exact absurd allowed (by decide)

theorem startsReference_eq_false_iff :
    startsReference text = false ↔
      text.head? ≠ some '$' ∧ text.head? ≠ some '{' ∧ text.takeWhile isNameChar = [] := by
  cases text with
  | nil => simp [startsReference]
  | cons char rest =>
      rw [List.takeWhile_cons]
      cases named : isNameChar char <;> simp [startsReference, named]

theorem expandEnvVars_plain {char : Char} (ordinary : char ≠ '$') :
    expandEnvVars env (char :: text) = (expandEnvVars env text).map (char :: ·) := by
  rw [expandEnvVars, if_pos ordinary]
  cases expandEnvVars env text <;> rfl

theorem expandEnvVars_escaped :
    expandEnvVars env ('$' :: '$' :: text) = (expandEnvVars env text).map ('$' :: ·) := by
  rw [expandEnvVars, if_neg (by decide), List.head?_cons, if_pos rfl, List.drop_one,
    List.tail_cons]
  cases expandEnvVars env text <;> rfl

theorem expandEnvVars_lone (bare : startsReference text = false) :
    expandEnvVars env ('$' :: text) = (expandEnvVars env text).map ('$' :: ·) := by
  obtain ⟨notDollar, notBrace, unnamed⟩ := startsReference_eq_false_iff.mp bare
  rw [expandEnvVars, if_neg (by decide), if_neg notDollar, if_neg notBrace]
  simp only [unnamed, if_true]
  cases expandEnvVars env text <;> rfl

/-- A braced reference ends at the first closing brace. -/
theorem expandEnvVars_closed (inside : '}' ∉ key) :
    expandEnvVars env ('$' :: '{' :: (key ++ '}' :: text)) =
      if key = [] ∨ !key.all isNameChar then .error (malformedName key)
      else (expandEnvVars env text).map ((env key).getD [] ++ ·) := by
  have outside : ∀ char ∈ key, decide (char ≠ '}') = true := by
    intro char member
    refine decide_eq_true ?_
    rintro rfl
    exact inside member
  have stops : ∀ char ∈ ('}' :: text).head?, decide (char ≠ '}') = false := by simp
  have parts := takeWhile_append_of_ended outside stops
  rw [expandEnvVars, if_neg (by decide), List.head?_cons, if_neg (by decide), if_pos rfl]
  simp only [List.drop_one, List.tail_cons, parts.1, parts.2, reduceCtorEq, if_false]
  cases expandEnvVars env text <;> rfl

theorem isName_iff : IsName key ↔ ¬ (key = [] ∨ (!key.all isNameChar) = true) := by
  simp [IsName]

theorem expandEnvVars_braced (name : IsName key) :
    expandEnvVars env ('$' :: '{' :: (key ++ '}' :: text)) =
      (expandEnvVars env text).map ((env key).getD [] ++ ·) := by
  have inside : '}' ∉ key := fun member => (name.ne member).2.2.1 rfl
  rw [expandEnvVars_closed inside, if_neg (isName_iff.mp name)]

theorem expandEnvVars_misnamed (inside : '}' ∉ key) (misnamed : ¬ IsName key) :
    expandEnvVars env ('$' :: '{' :: (key ++ '}' :: text)) =
      .error (malformedName key) := by
  rw [isName_iff, not_not] at misnamed
  rw [expandEnvVars_closed inside, if_pos misnamed]

theorem expandEnvVars_unclosed (unclosed : '}' ∉ text) :
    expandEnvVars env ('$' :: '{' :: text) = .error (missingBrace text) := by
  have outside : ∀ char ∈ text, decide (char ≠ '}') = true := by
    intro char member
    refine decide_eq_true ?_
    rintro rfl
    exact unclosed member
  have key : text.takeWhile (· ≠ '}') = text := List.takeWhile_eq_self_iff.mpr outside
  have closing : text.dropWhile (· ≠ '}') = [] := List.dropWhile_eq_nil_iff.mpr outside
  rw [expandEnvVars, if_neg (by decide), List.head?_cons, if_neg (by decide), if_pos rfl]
  simp only [List.drop_one, List.tail_cons, key, closing, if_true]

theorem expandEnvVars_named (name : IsName key)
    (ended : ∀ char ∈ text.head?, isNameChar char = false) :
    expandEnvVars env ('$' :: (key ++ text)) =
      (expandEnvVars env text).map ((env key).getD [] ++ ·) := by
  have parts := takeWhile_append_of_ended name.2 ended
  obtain ⟨first, letters, rfl⟩ := List.exists_cons_of_ne_nil name.1
  have ordinary := name.ne List.mem_cons_self
  rw [expandEnvVars, if_neg (by decide), List.cons_append, List.head?_cons,
    if_neg (by simpa using ordinary.1), if_neg (by simpa using ordinary.2.1),
    ← List.cons_append]
  simp only [parts.1, parts.2, reduceCtorEq, if_false]
  cases expandEnvVars env text <;> rfl

/-- An expansion is computed when it exists. -/
theorem expandEnvVars_of_expands (expands : Expands env text expanded) :
    expandEnvVars env text = .ok expanded := by
  induction expands with
  | nil => rw [expandEnvVars]
  | plain ordinary _ ih => rw [expandEnvVars_plain ordinary, ih, Except.map]
  | escaped _ ih => rw [expandEnvVars_escaped, ih, Except.map]
  | lone bare _ ih => rw [expandEnvVars_lone bare, ih, Except.map]
  | braced name _ ih => rw [expandEnvVars_braced name, ih, Except.map]
  | named name ended _ ih => rw [expandEnvVars_named name ended, ih, Except.map]

/-- A malformed text is refused in every environment. -/
theorem exists_error_of_malformed (env : Text → Option Text) (malformed : Malformed text) :
    ∃ error, expandEnvVars env text = .error error := by
  induction malformed with
  | unclosed unclosed => exact ⟨_, expandEnvVars_unclosed unclosed⟩
  | misnamed inside misnamed => exact ⟨_, expandEnvVars_misnamed inside misnamed⟩
  | plain ordinary _ ih =>
      obtain ⟨error, failed⟩ := ih
      exact ⟨error, by rw [expandEnvVars_plain ordinary, failed, Except.map]⟩
  | escaped _ ih =>
      obtain ⟨error, failed⟩ := ih
      exact ⟨error, by rw [expandEnvVars_escaped, failed, Except.map]⟩
  | lone bare _ ih =>
      obtain ⟨error, failed⟩ := ih
      exact ⟨error, by rw [expandEnvVars_lone bare, failed, Except.map]⟩
  | braced name _ ih =>
      obtain ⟨error, failed⟩ := ih
      exact ⟨error, by rw [expandEnvVars_braced name, failed, Except.map]⟩
  | named name ended _ ih =>
      obtain ⟨error, failed⟩ := ih
      exact ⟨error, by rw [expandEnvVars_named name ended, failed, Except.map]⟩

/-- The text from the first character that ends a run on. -/
theorem dropWhile_cases (keep : Char → Bool) (text : Text) :
    ∀ char ∈ (text.dropWhile keep).head?, keep char = false := by
  intro char starts
  have stops := List.head?_dropWhile_not keep text
  rw [Option.mem_def.mp starts] at stops
  exact stops

/-- Every text has an expansion or is malformed. -/
theorem expands_or_malformed (env : Text → Option Text) (text : Text) :
    (∃ expanded, Expands env text expanded) ∨ Malformed text := by
  -- The rest behind the first piece is shorter.
  induction length : text.length using Nat.strong_induction_on generalizing text with
  | _ size ih =>
      have shorter : ∀ rest : Text, rest.length < text.length →
          (∃ expanded, Expands env rest expanded) ∨ Malformed rest :=
        fun rest less => ih rest.length (length ▸ less) rest rfl
      cases text with
      | nil => exact .inl ⟨[], .nil⟩
      | cons char chars =>
          by_cases dollar : char = '$'
          case neg =>
            rcases shorter chars (Nat.lt_succ_self _) with ⟨expanded, expands⟩ | malformed
            · exact .inl ⟨_, .plain dollar expands⟩
            · exact .inr (.plain dollar malformed)
          subst dollar
          cases refers : startsReference chars with
          | false =>
              rcases shorter chars (Nat.lt_succ_self _) with ⟨expanded, expands⟩ | malformed
              · exact .inl ⟨_, .lone refers expands⟩
              · exact .inr (.lone refers malformed)
          | true =>
              obtain ⟨first, rest, rfl⟩ : ∃ first rest, chars = first :: rest := by
                cases chars with
                | nil => cases refers
                | cons first rest => exact ⟨first, rest, rfl⟩
              simp only [startsReference, Bool.or_eq_true, decide_eq_true_eq] at refers
              rcases refers with (rfl | rfl) | letter
              · rcases shorter rest (by simp only [List.length_cons]; omega) with
                  ⟨expanded, expands⟩ | malformed
                · exact .inl ⟨_, .escaped expands⟩
                · exact .inr (.escaped malformed)
              · by_cases closed : '}' ∈ rest
                case neg => exact .inr (.unclosed closed)
                obtain ⟨key, behind, rfl, inside⟩ := List.eq_append_cons_of_mem closed
                by_cases name : IsName key
                case neg => exact .inr (.misnamed inside name)
                have less : behind.length < ('$' :: '{' :: (key ++ '}' :: behind)).length := by
                  simp only [List.length_cons, List.length_append]
                  omega
                rcases shorter behind less with ⟨expanded, expands⟩ | malformed
                · exact .inl ⟨_, .braced name expands⟩
                · exact .inr (.braced name malformed)
              · have name : IsName ((first :: rest).takeWhile isNameChar) := by
                  refine ⟨?_, fun char member => List.mem_takeWhile_imp member⟩
                  rw [List.takeWhile_cons_of_pos letter]
                  exact List.cons_ne_nil _ _
                have ended := dropWhile_cases isNameChar (first :: rest)
                have less : ((first :: rest).dropWhile isNameChar).length <
                    ('$' :: first :: rest).length :=
                  Nat.lt_succ_of_le (List.dropWhile_suffix isNameChar).length_le
                rw [← List.takeWhile_append_dropWhile (p := isNameChar) (l := first :: rest)]
                rcases shorter _ less with ⟨expanded, expands⟩ | malformed
                · exact .inl ⟨_, .named name ended expands⟩
                · exact .inr (.named name ended malformed)

/-- Every result is an expansion. -/
theorem expands_of_expandEnvVars (computed : expandEnvVars env text = .ok expanded) :
    Expands env text expanded := by
  rcases expands_or_malformed env text with ⟨other, expands⟩ | malformed
  · have same := expandEnvVars_of_expands expands
    rw [computed] at same
    cases same
    exact expands
  · obtain ⟨error, failed⟩ := exists_error_of_malformed env malformed
    rw [computed] at failed
    cases failed

/-- Every refused text is malformed. -/
theorem malformed_of_expandEnvVars {error : QrmiError}
    (failed : expandEnvVars env text = .error error) : Malformed text := by
  rcases expands_or_malformed env text with ⟨expanded, expands⟩ | malformed
  · rw [expandEnvVars_of_expands expands] at failed
    cases failed
  · exact malformed

theorem expandEnvVars_eq_ok_iff :
    expandEnvVars env text = .ok expanded ↔ Expands env text expanded :=
  ⟨expands_of_expandEnvVars, expandEnvVars_of_expands⟩

/-- The scanner refuses exactly the malformed texts and expands every other one. -/
theorem expandEnvVars_exact (env : Text → Option Text) (text : Text) :
    ((∃ error, expandEnvVars env text = .error error) ↔ Malformed text) ∧
      ∀ expanded, expandEnvVars env text = .ok expanded ↔ Expands env text expanded := by
  refine ⟨⟨?_, exists_error_of_malformed env⟩, fun _ => expandEnvVars_eq_ok_iff⟩
  rintro ⟨error, failed⟩
  exact malformed_of_expandEnvVars failed

end Meaning

end PasqalConfigPath
