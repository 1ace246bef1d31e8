import Qrmi.PasqalConfigPath
import Mathlib.Data.List.Count

/-!
# The home directory in the configuration path

The home directory is put in front of a path before the references of the whole are
expanded, and on its own it is taken for a configured root.  It keeps its text exactly
when its references spell that text again, in both places.
-/

namespace PasqalConfigPath

open Text

/-! ## Candidates -/

/-- The roots that are tried, in their order. -/
def rootSettings (env : Text → Option Text) (backendName : Text)
    (hashmapConfig : Option (KeyedStore Text Text)) : List Text :=
  ((settings env hashmapConfig).resolveOpt "PASQAL_CONFIG_ROOT".toList).toList ++
    if hashmapConfig.isNone then (env (backendName ++ "_PASQAL_CONFIG_ROOT".toList)).toList
    else []

/-- The root that is configured: blank settings count as absent ones. -/
def configuredRoot (env : Text → Option Text) (backendName : Text)
    (hashmapConfig : Option (KeyedStore Text Text)) : Option Text :=
  ((rootSettings env backendName hashmapConfig).map trim).find? (· ≠ [])

/-- The home directory that is tried as a root of its own. -/
def resolvedHome (env : Text → Option Text) (hashmapConfig : Option (KeyedStore Text Text)) :
    Option Text :=
  (settings env hashmapConfig).resolveOpt "HOME".toList

/-- What may follow a tilde: nothing, or a separator. -/
def Anchored (rest : Text) : Prop :=
  rest = [] ∨ rest.head? = some '/'

/-- The paths that a configured root stands for when the home directory is used as it
is: none for an absent root, and the expanded rest below the home directory for a root
that begins with a tilde. -/
inductive RootPaths (env : Text → Option Text) : Option Text → List Text → Prop
  | absent : RootPaths env none []
  | below {home rest expanded : Text} (set : env "HOME".toList = some home)
      (anchored : Anchored rest) (expands : Expands env rest expanded) :
      RootPaths env (some ('~' :: rest)) [configPath (home ++ expanded)]

/-- The path of the home directory itself, unless it is blank. -/
def homePaths (home : Option Text) : List Text :=
  match home with
  | some home => if trim home = [] then [] else [configPath home]
  | none => []

/-- The candidates hold the home directory verbatim, and nothing about it makes the
construction fail. -/
def UsedVerbatim (env : Text → Option Text) (backendName : Text)
    (hashmapConfig : Option (KeyedStore Text Text)) (rootPaths : List Text) : Prop :=
  configPathCandidates env backendName hashmapConfig =
    .ok (rootPaths ++ homePaths (resolvedHome env hashmapConfig))

/-! ## Texts that spell a directory -/

/-- A directory behind which no separator is put. -/
def IsClosed (directory : Text) : Prop :=
  directory = [] ∨ directory.getLast? = some '/'

instance (directory : Text) : Decidable (IsClosed directory) :=
  inferInstanceAs (Decidable (_ ∨ _))

/-- Directories are the same up to a separator at the end. -/
def SameDirectory (first second : Text) : Prop :=
  first = second ∨ (first = second ++ ['/'] ∧ ¬ IsClosed second) ∨
    (second = first ++ ['/'] ∧ ¬ IsClosed first)

/-- With its references replaced, a text is that directory. -/
def Spells (env : Text → Option Text) (text directory : Text) : Prop :=
  ∃ expanded, Expands env text expanded ∧ SameDirectory expanded directory

/-- The home directory in front of a configured root is spelled by its own references. -/
inductive KeptInRoot (env : Text → Option Text) : Option Text → Prop
  | absent : KeptInRoot env none
  | alone {home : Text} (set : env "HOME".toList = some home) (spelled : Spells env home home) :
      KeptInRoot env (some ['~'])
  | below {home rest : Text} (set : env "HOME".toList = some home)
      (spelled : Expands env home home) : KeptInRoot env (some ('~' :: rest))

/-- A home directory that is tried as a root of its own is blank, or what is made of its
trimming spells it.  A tilde at its beginning stands for the home directory of the
environment. -/
inductive KeptAsRoot (env : Text → Option Text) (home : Text) : Prop
  | blank (blank : trim home = [])
  | plain (plain : ∀ rest, Anchored rest → trim home ≠ '~' :: rest)
      (spelled : Spells env (trim home) home)
  | homeless (unset : env "HOME".toList = none) (spelled : Spells env (trim home) home)
  | tilde (set : env "HOME".toList = some home) (trimmed : trim home = "~".toList)
  | below (set : env "HOME".toList = some home) (trimmed : trim home = "~/".toList)
      (opened : home.getLast? ≠ some '/')
  | other {outer rest : Text} (set : env "HOME".toList = some outer) (different : outer ≠ home)
      (anchored : Anchored rest) (trimmed : trim home = '~' :: rest)
      (spelled : Spells env (outer ++ rest) home)

/-- The home directory keeps its text wherever it is used. -/
structure KeepsHome (env : Text → Option Text) (backendName : Text)
    (hashmapConfig : Option (KeyedStore Text Text)) : Prop where
  inRoot : KeptInRoot env (configuredRoot env backendName hashmapConfig)
  asRoot : ∀ home ∈ resolvedHome env hashmapConfig, KeptAsRoot env home

section Paths

variable {first second : Text}

theorem configPath_eq (directory : Text) :
    configPath directory =
      (if IsClosed directory then directory else directory ++ ['/']) ++
        ".pasqal/config".toList := by
  have below : push directory ".pasqal".toList =
      (if IsClosed directory then directory else directory ++ ['/']) ++
        ".pasqal".toList := by
    rw [push, if_neg (by decide)]
    by_cases closed : IsClosed directory
    · rw [if_pos closed]
      exact if_pos closed
    · rw [if_neg closed, List.append_assoc]
      exact if_neg closed
  have opened : ¬ ((if IsClosed directory then directory else directory ++ ['/']) ++
        ".pasqal".toList = [] ∨
      ((if IsClosed directory then directory else directory ++ ['/']) ++
        ".pasqal".toList).getLast? = some '/') := by
    simp [List.getLast?_append]
  rw [configPath, below, push, if_neg (by decide), if_neg opened]
  simp

/-- Directories have the same file when they are the same up to a separator at the
end. -/
theorem configPath_eq_iff : configPath first = configPath second ↔ SameDirectory first second := by
  have closing (directory : Text) : IsClosed (directory ++ ['/']) := by
    right
    simp
  rw [configPath_eq, configPath_eq, List.append_left_inj, SameDirectory]
  by_cases firstClosed : IsClosed first
  · rw [if_pos firstClosed]
    by_cases secondClosed : IsClosed second
    · simp [secondClosed, firstClosed]
    · rw [if_neg secondClosed]
      constructor
      · intro same
        exact .inr (.inl ⟨same, secondClosed⟩)
      · rintro (rfl | ⟨same, -⟩ | ⟨-, opened⟩)
        · exact absurd firstClosed secondClosed
        · exact same
        · exact absurd firstClosed opened
  · rw [if_neg firstClosed]
    by_cases secondClosed : IsClosed second
    · rw [if_pos secondClosed]
      constructor
      · intro same
        exact .inr (.inr ⟨same.symm, firstClosed⟩)
      · rintro (rfl | ⟨-, opened⟩ | ⟨same, -⟩)
        · exact absurd secondClosed firstClosed
        · exact absurd secondClosed opened
        · exact same.symm
    · rw [if_neg secondClosed, List.append_left_inj]
      constructor
      · exact .inl
      · rintro (same | ⟨rfl, -⟩ | ⟨rfl, -⟩)
        · exact same
        · exact absurd (closing second) firstClosed
        · exact absurd (closing first) secondClosed

theorem SameDirectory.refl (directory : Text) : SameDirectory directory directory :=
  .inl rfl

/-- Behind the same path, directories are the same only when their fronts are. -/
theorem sameDirectory_append_iff {path : Text} (nonempty : path ≠ []) :
    SameDirectory (first ++ path) (second ++ path) ↔ first = second := by
  constructor
  · rintro (same | ⟨longer, opened⟩ | ⟨longer, opened⟩)
    · exact List.append_cancel_right same
    all_goals
      -- The separator at the end would be that of the path.
      exfalso
      apply opened
      right
      have ends := congrArg List.getLast? longer
      rw [List.getLast?_concat] at ends
      rwa [List.getLast?_append_of_ne_nil _ nonempty] at ends ⊢
  · rintro rfl
    exact .refl _

end Paths

section Expansion

variable {env : Text → Option Text} {char : Char} {text rest front expanded other : Text}

theorem Anchored.startsReference (anchored : Anchored rest) :
    startsReference rest = false := by
  cases rest with
  | nil => rfl
  | cons char rest =>
      rcases anchored with impossible | first
      · cases impossible
      · obtain rfl := Option.some.inj first
        rfl

/-- What is behind a text can only turn its last dollar sign into a reference. -/
theorem startsReference_append (bare : startsReference rest = false) :
    startsReference (text ++ rest) = startsReference text := by
  cases text with
  | nil => exact bare
  | cons char text => rfl

/-- A text that continues no name. -/
theorem not_isNameChar_of_append (bare : startsReference rest = false)
    (ended : ∀ char ∈ text.head?, isNameChar char = false) :
    ∀ char ∈ (text ++ rest).head?, isNameChar char = false := by
  cases text with
  | nil =>
      intro char first
      obtain ⟨behind, rfl⟩ := List.head?_eq_some_iff.mp first
      simp only [PasqalConfigPath.startsReference, Bool.or_eq_false_iff] at bare
      exact bare.2
  | cons _ _ => exact ended

theorem Expands.unique (expands : Expands env text expanded)
    (expandsToo : Expands env text other) : expanded = other :=
  Except.ok.inj ((expandEnvVars_of_expands expands).symm.trans
    (expandEnvVars_of_expands expandsToo))

theorem Expands.append (expands : Expands env text front)
    (bare : PasqalConfigPath.startsReference rest = false) (behind : Expands env rest expanded) :
    Expands env (text ++ rest) (front ++ expanded) := by
  induction expands with
  | nil => exact behind
  | plain ordinary _ ih => exact .plain ordinary ih
  | escaped _ ih => exact .escaped ih
  | lone bareText _ ih => exact .lone ((startsReference_append bare).trans bareText) ih
  | braced name _ ih =>
      simp only [List.cons_append, List.append_assoc]
      exact .braced name ih
  | named name ended _ ih =>
      simp only [List.cons_append, List.append_assoc]
      exact .named name (not_isNameChar_of_append bare ended) ih

/-- A separator belongs to no name, so a path repairs no reference in front of it. -/
theorem Malformed.append (malformed : Malformed text) (anchored : Anchored rest) :
    Malformed (text ++ rest) := by
  have bare := anchored.startsReference
  induction malformed with
  | @unclosed text unclosed =>
      by_cases closed : '}' ∈ rest
      · obtain ⟨key, behind, rfl, inside⟩ := List.eq_append_cons_of_mem closed
        have slash : '/' ∈ key := by
          rcases anchored with empty | first
          · simp at empty
          · cases key with
            | nil => cases first
            | cons char key =>
                obtain rfl := Option.some.inj first
                exact List.mem_cons_self
        have misnamed : ¬ IsName (text ++ key) := fun name =>
          (name.ne (List.mem_append_right text slash)).2.2.2 rfl
        have outside : '}' ∉ text ++ key := by
          rw [List.mem_append, not_or]
          exact ⟨unclosed, inside⟩
        have whole : Malformed ('$' :: '{' :: (text ++ key ++ '}' :: behind)) :=
          .misnamed outside misnamed
        rwa [List.append_assoc] at whole
      · have outside : '}' ∉ text ++ rest := by
          rw [List.mem_append, not_or]
          exact ⟨unclosed, closed⟩
        exact .unclosed outside
  | misnamed inside misnamed =>
      simp only [List.cons_append, List.append_assoc]
      exact .misnamed inside misnamed
  | plain ordinary _ ih => exact .plain ordinary ih
  | escaped _ ih => exact .escaped ih
  | lone bareText _ ih => exact .lone ((startsReference_append bare).trans bareText) ih
  | braced name _ ih =>
      simp only [List.cons_append, List.append_assoc]
      exact .braced name ih
  | named name ended _ ih =>
      simp only [List.cons_append, List.append_assoc]
      exact .named name (not_isNameChar_of_append bare ended) ih

/-- A reference that is malformed stays so behind other pieces. -/
theorem Malformed.prepend (malformed : Malformed rest)
    (bare : PasqalConfigPath.startsReference rest = false) (expands : Expands env text front) :
    Malformed (text ++ rest) := by
  induction expands with
  | nil => exact malformed
  | plain ordinary _ ih => exact .plain ordinary ih
  | escaped _ ih => exact .escaped ih
  | lone bareText _ ih => exact .lone ((startsReference_append bare).trans bareText) ih
  | braced name _ ih =>
      simp only [List.cons_append, List.append_assoc]
      exact .braced name ih
  | named name ended _ ih =>
      simp only [List.cons_append, List.append_assoc]
      exact .named name (not_isNameChar_of_append bare ended) ih

/-- A text and the path behind it are expanded one by one. -/
theorem expands_append_iff (anchored : Anchored rest) :
    Expands env (text ++ rest) expanded ↔
      ∃ front behind, Expands env text front ∧ Expands env rest behind ∧
        expanded = front ++ behind := by
  have bare := anchored.startsReference
  constructor
  · intro whole
    have wellFormed : ¬ Malformed (text ++ rest) := by
      intro malformed
      obtain ⟨error, failed⟩ := exists_error_of_malformed env malformed
      rw [expandEnvVars_of_expands whole] at failed
      cases failed
    rcases expands_or_malformed env text with ⟨front, expands⟩ | malformed
    · rcases expands_or_malformed env rest with ⟨behind, expandsRest⟩ | malformed
      · exact ⟨front, behind, expands, expandsRest,
          whole.unique (expands.append bare expandsRest)⟩
      · exact absurd (malformed.prepend bare expands) wellFormed
    · exact absurd (malformed.append anchored) wellFormed
  · rintro ⟨front, behind, expands, expandsRest, rfl⟩
    exact expands.append bare expandsRest

/-- References hold no separators. -/
theorem Expands.count_le (expands : Expands env text expanded) :
    text.count '/' ≤ expanded.count '/' := by
  induction expands with
  | nil => rfl
  | plain _ _ ih =>
      rw [List.count_cons, List.count_cons]
      omega
  | escaped _ ih => simpa using ih
  | lone _ _ ih => simpa using ih
  | @braced key text expanded name _ ih =>
      have none : key.count '/' = 0 :=
        List.count_eq_zero.mpr fun member => (name.ne member).2.2.2 rfl
      simp only [List.count_cons, List.count_append, none] at ih ⊢
      simpa using le_trans ih (Nat.le_add_left _ _)
  | @named key text expanded name _ _ ih =>
      have none : key.count '/' = 0 :=
        List.count_eq_zero.mpr fun member => (name.ne member).2.2.2 rfl
      simp only [List.count_cons, List.count_append, none] at ih ⊢
      simpa using le_trans ih (Nat.le_add_left _ _)

/-- A text without dollar signs stands for itself. -/
theorem expands_self (plain : '$' ∉ text) : Expands env text text := by
  induction text with
  | nil => exact .nil
  | cons char text ih =>
      rw [List.mem_cons, not_or] at plain
      exact .plain (Ne.symm plain.1) (ih plain.2)

end Expansion

section Roots

variable {env : Text → Option Text} {backendName home rest : Text} {root : Option Text}
variable {hashmapConfig : Option (KeyedStore Text Text)} {rootPaths : List Text}

/-- The path of a trimmed root, if there is one. -/
def rootPath (env : Text → Option Text) : Option Text → Except QrmiError (Option Text)
  | some root => (expandConfigRoot env root).map fun directory => some (configPath directory)
  | none => .ok none

theorem pathFromSetting_eq (setting : Option Text) :
    pathFromSetting env setting =
      rootPath env ((setting.toList.map trim).find? (· ≠ [])) := by
  cases setting with
  | none => rfl
  | some root =>
      rw [pathFromSetting, pasqalConfigPathFromRoot, Option.toList_some, List.map_singleton]
      by_cases blank : trim root = []
      · simp [blank, rootPath]
      · simp only [blank, if_false, ne_eq, not_false_eq_true, decide_true,
          List.find?_cons_of_pos, rootPath]
        cases expandConfigRoot env (trim root) <;> rfl

/-- The root of the candidates is the configured one. -/
theorem configRootPath_eq :
    configRootPath env backendName hashmapConfig =
      rootPath env (configuredRoot env backendName hashmapConfig) := by
  rw [configRootPath, configuredRoot, rootSettings, List.map_append, List.find?_append,
    pathFromSetting_eq]
  cases (((settings env hashmapConfig).resolveOpt "PASQAL_CONFIG_ROOT".toList).toList.map
      trim).find? (· ≠ []) with
  | some root =>
      rw [Option.some_or, rootPath]
      cases expandConfigRoot env root <;> rfl
  | none =>
      rw [Option.none_or]
      cases hashmapConfig with
      | none => exact pathFromSetting_eq _
      | some map => rfl

theorem expandConfigRoot_tilde (set : env "HOME".toList = some home)
    (anchored : Anchored rest) :
    expandConfigRoot env ('~' :: rest) = expandEnvVars env (home ++ rest) := by
  rcases anchored with rfl | slash
  · rw [expandConfigRoot, set, List.append_nil]
    rfl
  · obtain ⟨tail, rfl⟩ := List.head?_eq_some_iff.mp slash
    rw [expandConfigRoot, set, if_neg (by simp), if_pos (by rfl)]
    rfl

theorem expandConfigRoot_plain {root : Text}
    (plain : ∀ rest, Anchored rest → root ≠ '~' :: rest) :
    expandConfigRoot env root = expandEnvVars env root := by
  have notTilde : root ≠ "~".toList := plain [] (.inl rfl)
  have notBelow : "~/".toList.isPrefixOf root = false := by
    cases below : "~/".toList.isPrefixOf root with
    | false => rfl
    | true =>
        obtain ⟨path, rfl⟩ := List.isPrefixOf_iff_prefix.mp below
        exact absurd rfl (plain ('/' :: path) (.inr rfl))
  rw [expandConfigRoot, if_neg notTilde, notBelow]
  rfl

theorem expandConfigRoot_homeless (root : Text) (unset : env "HOME".toList = none) :
    expandConfigRoot env root = expandEnvVars env root := by
  rw [expandConfigRoot, unset]
  split
  · rfl
  · split <;> rfl

/-- A root gives the paths that it stands for exactly when the home directory is kept in
front of it. -/
theorem rootPath_iff (paths : RootPaths env root rootPaths) :
    (∃ path, rootPath env root = .ok path ∧ path.toList = rootPaths) ↔ KeptInRoot env root := by
  cases paths with
  | absent => exact ⟨fun _ => .absent, fun _ => ⟨none, rfl, rfl⟩⟩
  | @below home rest expanded set anchored expands =>
      rw [rootPath, expandConfigRoot_tilde set anchored]
      constructor
      · rintro ⟨path, computed, equal⟩
        cases whole : expandEnvVars env (home ++ rest) with
        | error error =>
            rw [whole] at computed
            cases computed
        | ok directory =>
            rw [whole] at computed
            cases computed
            obtain ⟨front, behind, expandsHome, expandsRest, rfl⟩ :=
              (expands_append_iff anchored).mp (expands_of_expandEnvVars whole)
            cases expandsRest.unique expands
            have same : SameDirectory (front ++ expanded) (home ++ expanded) :=
              configPath_eq_iff.mp (List.cons.inj equal).1
            rcases anchored with rfl | slash
            · cases expands
              rw [List.append_nil, List.append_nil] at same
              exact .alone set ⟨front, expandsHome, same⟩
            · have nonempty : expanded ≠ [] := by
                rintro rfl
                obtain ⟨path, rfl⟩ := List.head?_eq_some_iff.mp slash
                have separators := expands.count_le
                simp at separators
              rw [sameDirectory_append_iff nonempty] at same
              exact .below set (same ▸ expandsHome)
      · intro kept
        cases kept with
        | alone setToo spelled =>
            cases set.symm.trans setToo
            obtain ⟨front, expandsHome, same⟩ := spelled
            cases expands
            refine ⟨some (configPath front), ?_, ?_⟩
            · rw [List.append_nil, expandEnvVars_of_expands expandsHome]
              rfl
            · rw [List.append_nil, configPath_eq_iff.mpr same]
              rfl
        | below setToo spelled =>
            cases set.symm.trans setToo
            have whole := (expands_append_iff anchored).mpr
              ⟨home, expanded, spelled, expands, rfl⟩
            exact ⟨some (configPath (home ++ expanded)),
              by rw [expandEnvVars_of_expands whole]; rfl, rfl⟩

/-! ### The home directory as a root -/

theorem startsReference_of_white {text : Text}
    (white : ∀ char ∈ text, isWhitespace char = true) : startsReference text = false := by
  cases text with
  | nil => rfl
  | cons char text =>
      have ordinary : ∀ point ∈ whitespacePoints,
          startsReference [Char.ofNat point] = false := by
        decide
      have bare := ordinary char.toNat
        (toNat_mem_whitespacePoints (white char List.mem_cons_self))
      rwa [Char.ofNat_toNat] at bare

/-- A home directory that trims to a tilde and a path: with itself in place of the tilde it
is the same only if nothing but a separator follows. -/
theorem spells_home_append_iff (trimmed : trim home = '~' :: rest) (anchored : Anchored rest) :
    Spells env (home ++ rest) home ↔
      rest = [] ∨ rest = ['/'] ∧ home.getLast? ≠ some '/' := by
  obtain ⟨lead, tail, whiteLead, whiteTail, split⟩ := exists_padding home
  rw [trimmed] at split
  have nonempty : home ≠ [] := by
    rw [split]
    simp
  have plainLead : '$' ∉ lead := fun member => absurd (whiteLead _ member) (by decide)
  have plainTail : '$' ∉ tail := fun member => absurd (whiteTail _ member) (by decide)
  constructor
  · rintro ⟨directory, expands, same⟩
    rcases anchored with rfl | slash
    · exact .inl rfl
    right
    obtain ⟨path, rfl⟩ := List.head?_eq_some_iff.mp slash
    obtain ⟨front, behind, expandsHome, expandsRest, rfl⟩ :=
      (expands_append_iff (.inr rfl)).mp expands
    have homeCount := expandsHome.count_le
    have restCount := expandsRest.count_le
    rw [List.count_cons_self] at restCount
    rcases same with equal | ⟨longer, opened⟩ | ⟨longer, -⟩
    · -- There are more separators than in the home directory.
      have separators := congrArg (List.count '/') equal
      rw [List.count_append] at separators
      omega
    · have separators := congrArg (List.count '/') longer
      rw [List.count_append, List.count_append, List.count_singleton_self] at separators
      cases expandsRest with
      | @plain _ _ ending _ expandsPath =>
          -- The only separator of the path is also its end.
          have last : ending = [] := by
            by_contra more
            have ends := congrArg List.getLast? longer
            rw [List.getLast?_concat, List.getLast?_append_of_ne_nil _ (List.cons_ne_nil _ _),
              List.getLast?_cons_of_ne_nil more] at ends
            have again := List.count_pos_iff.mpr (List.mem_of_getLast? ends)
            rw [List.count_cons_self] at separators
            omega
          subst last
          have kept : front = home := List.append_cancel_right longer
          rw [kept] at expandsHome
          -- Inside the home directory, the path would be lost as well.
          have whole : lead ++ '~' :: '/' :: (path ++ tail) = home := by
            rw [split]
            simp
          have parts : Expands env (lead ++ '~' :: '/' :: (path ++ tail))
              (lead ++ '~' :: '/' :: ([] ++ tail)) :=
            (expands_self plainLead).append rfl
              (.plain (by decide) (.plain (by decide)
                (expandsPath.append (startsReference_of_white whiteTail)
                  (expands_self plainTail))))
          rw [whole] at parts
          have lost := whole.trans (expandsHome.unique parts)
          have empty : path = [] := by simpa using lost
          exact ⟨by rw [empty], fun ends => opened (.inr ends)⟩
    · have separators := congrArg (List.count '/') longer
      rw [List.count_append, List.count_append] at separators
      omega
  · rintro (rfl | ⟨rfl, opened⟩)
    · have plain : '$' ∉ home := by
        rw [split]
        simp [plainLead, plainTail]
      rw [List.append_nil]
      exact ⟨home, expands_self plain, .refl _⟩
    · have plain : '$' ∉ home := by
        rw [split]
        simp [plainLead, plainTail]
      refine ⟨home ++ ['/'], expands_self (by simp [plain]), .inr (.inl ⟨rfl, ?_⟩)⟩
      rintro (empty | closed)
      · exact nonempty empty
      · exact opened closed

theorem tilde_cases (root : Text) :
    (∃ rest, Anchored rest ∧ root = '~' :: rest) ∨
      ∀ rest, Anchored rest → root ≠ '~' :: rest := by
  by_cases tilde : ∃ rest, Anchored rest ∧ root = '~' :: rest
  · exact .inl tilde
  · exact .inr fun rest anchored same => tilde ⟨rest, anchored, same⟩

/-- A home directory is kept as a root exactly when it is blank or what is made of its
trimming is the same directory. -/
theorem keptAsRoot_iff :
    KeptAsRoot env home ↔ trim home = [] ∨
      ∃ directory, expandConfigRoot env (trim home) = .ok directory ∧
        SameDirectory directory home := by
  have computed {text : Text} (same : expandConfigRoot env (trim home) = expandEnvVars env text) :
      (∃ directory, expandConfigRoot env (trim home) = .ok directory ∧
        SameDirectory directory home) ↔ Spells env text home := by
    simp only [same, expandEnvVars_eq_ok_iff, Spells]
  constructor
  · intro kept
    cases kept with
    | blank blank => exact .inl blank
    | plain plain spelled =>
        exact .inr ((computed (expandConfigRoot_plain plain)).mpr spelled)
    | homeless unset spelled =>
        exact .inr ((computed (expandConfigRoot_homeless _ unset)).mpr spelled)
    | tilde set trimmed =>
        have spelled : Spells env (home ++ []) home :=
          (spells_home_append_iff trimmed (.inl rfl)).mpr (.inl rfl)
        refine .inr ((computed ?_).mpr spelled)
        rw [trimmed]
        exact expandConfigRoot_tilde set (.inl rfl)
    | below set trimmed opened =>
        have spelled : Spells env (home ++ ['/']) home :=
          (spells_home_append_iff trimmed (.inr rfl)).mpr (.inr ⟨rfl, opened⟩)
        refine .inr ((computed ?_).mpr spelled)
        rw [trimmed]
        exact expandConfigRoot_tilde set (.inr rfl)
    | other set _ anchored trimmed spelled =>
        refine .inr ((computed ?_).mpr spelled)
        rw [trimmed]
        exact expandConfigRoot_tilde set anchored
  · rintro (blank | spelled)
    · exact .blank blank
    cases set : env "HOME".toList with
    | none => exact .homeless set ((computed (expandConfigRoot_homeless _ set)).mp spelled)
    | some outer =>
        rcases tilde_cases (trim home) with ⟨rest, anchored, trimmed⟩ | plain
        · have same : expandConfigRoot env (trim home) = expandEnvVars env (outer ++ rest) := by
            rw [trimmed]
            exact expandConfigRoot_tilde set anchored
          have spelled := (computed same).mp spelled
          by_cases different : outer = home
          · subst different
            rcases (spells_home_append_iff trimmed anchored).mp spelled with rfl | ⟨rfl, opened⟩
            · exact .tilde set trimmed
            · exact .below set trimmed opened
          · exact .other set different anchored trimmed spelled
        · exact .plain plain ((computed (expandConfigRoot_plain plain)).mp spelled)

/-- A home directory gives its own path exactly when it is kept as a root. -/
theorem homeConfigPath_iff :
    (∃ path, homeConfigPath env hashmapConfig = .ok path ∧
        path.toList = homePaths (resolvedHome env hashmapConfig)) ↔
      ∀ home ∈ resolvedHome env hashmapConfig, KeptAsRoot env home := by
  rw [homeConfigPath, ← resolvedHome]
  cases resolvedHome env hashmapConfig with
  | none =>
      exact ⟨fun _ _ member => absurd member (Option.not_mem_none _), fun _ => ⟨none, rfl, rfl⟩⟩
  | some home =>
      simp only [Option.mem_some_iff, forall_eq', keptAsRoot_iff, pathFromSetting,
        pasqalConfigPathFromRoot, homePaths]
      by_cases blank : trim home = []
      · simp [blank]
      · simp only [blank, if_false, false_or]
        cases expandConfigRoot env (trim home) with
        | error error => simp [bind, Except.bind]
        | ok directory =>
            simp [bind, Except.bind, pure, Except.pure, configPath_eq_iff]

/-! ### All candidates -/

theorem length_toList_rootPath {path : Option Text} (paths : RootPaths env root rootPaths)
    (computed : rootPath env root = .ok path) : path.toList.length = rootPaths.length := by
  cases paths with
  | absent =>
      cases computed
      rfl
  | @below _ rest =>
      rw [rootPath] at computed
      cases expanded : expandConfigRoot env ('~' :: rest) with
      | error error =>
          rw [expanded] at computed
          cases computed
      | ok directory =>
          rw [expanded] at computed
          cases computed
          rfl

theorem configPathCandidates_iff {homes : List Text}
    (paths : RootPaths env (configuredRoot env backendName hashmapConfig) rootPaths) :
    configPathCandidates env backendName hashmapConfig = .ok (rootPaths ++ homes) ↔
      (∃ path, configRootPath env backendName hashmapConfig = .ok path ∧
        path.toList = rootPaths) ∧
      ∃ path, homeConfigPath env hashmapConfig = .ok path ∧ path.toList = homes := by
  rw [configPathCandidates, Except.bind_eq_ok_iff]
  simp only [Except.bind_eq_ok_iff]
  constructor
  · rintro ⟨path, rootComputed, fallback, homeComputed, equal⟩
    rw [configRootPath_eq] at rootComputed ⊢
    have lists : path.toList ++ fallback.toList = rootPaths ++ homes := Except.ok.inj equal
    obtain ⟨same, sameHomes⟩ :=
      List.append_inj lists (length_toList_rootPath paths rootComputed)
    exact ⟨⟨path, rootComputed, same⟩, fallback, homeComputed, sameHomes⟩
  · rintro ⟨⟨path, rootComputed, rfl⟩, fallback, homeComputed, rfl⟩
    exact ⟨path, rootComputed, fallback, homeComputed, rfl⟩

/-- The candidates hold the home directory verbatim exactly when it is kept wherever it is
used: in front of the configured root, and as a root of its own. -/
theorem usedVerbatim_iff_keepsHome
    (paths : RootPaths env (configuredRoot env backendName hashmapConfig) rootPaths) :
    UsedVerbatim env backendName hashmapConfig rootPaths ↔
      KeepsHome env backendName hashmapConfig := by
  rw [UsedVerbatim, configPathCandidates_iff paths, configRootPath_eq, rootPath_iff paths,
    homeConfigPath_iff]
  constructor
  · rintro ⟨inRoot, asRoot⟩
    exact ⟨inRoot, asRoot⟩
  · rintro ⟨inRoot, asRoot⟩
    exact ⟨inRoot, asRoot⟩

end Roots

/-! ## Texts that keep themselves -/

/-- No dollar sign of a text begins a reference. -/
def Inert (text : Text) : Prop :=
  ∀ rest, '$' :: rest <:+ text → startsReference rest = false

/-- A reference to the home directory itself. -/
def IsHomeReference (text : Text) : Prop :=
  text = "$HOME".toList ∨ text = "$\x7bHOME\x7d".toList

/-- What a home directory must look like to be kept whatever the variables are. -/
def IsSafe (home : Text) : Prop :=
  IsHomeReference home ∨
    (Inert home ∧
      (trim home = [] ∨ trim home = "~".toList ∨
        (trim home = "~/".toList ∧ home.getLast? ≠ some '/') ∨
        (trim home = home ∧ "~/".toList.isPrefixOf home = false)))

section Inertness

variable {env : Text → Option Text} {char : Char} {text front rest home : Text}

theorem Inert.nil : Inert [] := by
  intro rest ends
  cases List.suffix_nil.mp ends

theorem inert_cons_iff :
    Inert (char :: text) ↔ (char = '$' → startsReference text = false) ∧ Inert text := by
  constructor
  · intro inert
    refine ⟨?_, fun rest ends => inert rest (ends.trans (List.suffix_cons char text))⟩
    rintro rfl
    exact inert text (List.suffix_refl _)
  · rintro ⟨first, later⟩ rest ends
    rcases List.suffix_cons_iff.mp ends with whole | ends
    · obtain ⟨rfl, rfl⟩ := List.cons.inj whole
      exact first rfl
    · exact later rest ends

theorem startsReference_of_append (bare : startsReference (text ++ rest) = false) :
    startsReference text = false := by
  cases text with
  | nil => rfl
  | cons char text => exact bare

theorem Inert.of_append (inert : Inert (front ++ (text ++ rest))) : Inert text := by
  intro behind ends
  obtain ⟨before, rfl⟩ := ends
  have bare : startsReference (behind ++ rest) = false := by
    apply inert
    exact ⟨front ++ before, by simp⟩
  exact startsReference_of_append bare

theorem Inert.trim (inert : Inert text) : Inert (trim text) := by
  obtain ⟨front, split⟩ : text.dropWhile isWhitespace <:+ text := List.dropWhile_suffix _
  obtain ⟨back, whole⟩ : Text.trim text <+: text.dropWhile isWhitespace :=
    List.rdropWhile_prefix ..
  rw [← split, ← whole] at inert
  exact inert.of_append

theorem expands_of_inert (inert : Inert text) : Expands env text text := by
  induction text with
  | nil => exact .nil
  | cons char text ih =>
      obtain ⟨first, later⟩ := inert_cons_iff.mp inert
      by_cases dollar : char = '$'
      · subst dollar
        exact .lone (first rfl) (ih later)
      · exact .plain dollar (ih later)

theorem isName_home : IsName "HOME".toList :=
  ⟨by decide, List.all_eq_true.mp (by decide)⟩

/-- A reference to the home directory stands for it. -/
theorem expands_of_homeReference (set : env "HOME".toList = some home)
    (reference : IsHomeReference home) : Expands env home home := by
  have value : (env "HOME".toList).getD [] ++ [] = home := by
    rw [set, Option.getD_some, List.append_nil]
  rcases reference with plain | braced
  · have referred : Expands env ('$' :: ("HOME".toList ++ [])) _ :=
      .named isName_home (by simp) .nil
    rw [value] at referred
    nth_rewrite 1 [plain]
    exact referred
  · have referred : Expands env ('$' :: '{' :: ("HOME".toList ++ '}' :: [])) _ :=
      .braced isName_home .nil
    rw [value] at referred
    nth_rewrite 1 [braced]
    exact referred

end Inertness

/-! ## A revealing environment -/

/-- An environment in which every variable besides the home directory is longer than
it, and ends in no separator. -/
structure IsRevealing (env : Text → Option Text) (home : Text) : Prop where
  set : env "HOME".toList = some home
  others : ∀ key ≠ "HOME".toList, ∃ value, env key = some value ∧
    home.length < value.length ∧ value.getLast? ≠ some '/'

section Revealing

variable {env : Text → Option Text} {home text expanded : Text}

/-- How the length of an expansion gives away what happened. -/
inductive Outcome (home : Text) : Text → Text → Prop
  | kept {text : Text} (inert : Inert text) : Outcome home text text
  | shortened {text expanded : Text} (nonempty : expanded ≠ [])
      (shorter : expanded.length < text.length) : Outcome home text expanded
  | reference {text : Text} (isReference : IsHomeReference text) : Outcome home text home
  | lengthened {text expanded : Text} (longer : home.length < expanded.length) :
      Outcome home text expanded

/-- One more character in front. -/
theorem Outcome.cons {char : Char} (keeps : Inert text → Inert (char :: text))
    (outcome : Outcome home text expanded) :
    Outcome home (char :: text) (char :: expanded) := by
  cases outcome with
  | kept inert => exact .kept (keeps inert)
  | shortened nonempty shorter => exact .shortened (by simp) (by simpa using shorter)
  | reference => exact .lengthened (by simp)
  | lengthened longer =>
      apply Outcome.lengthened
      rw [List.length_cons]
      omega

/-- A reference in front. -/
theorem Outcome.variable {reference key : Text} (revealing : IsRevealing env home)
    (nonempty : home ≠ []) (written : key = "HOME".toList → IsHomeReference reference)
    (outcome : Outcome home text expanded) :
    Outcome home (reference ++ text) ((env key).getD [] ++ expanded) := by
  have positive : 0 < home.length := List.length_pos_iff.mpr nonempty
  by_cases isHome : key = "HOME".toList
  · rw [isHome, revealing.set, Option.getD_some]
    have longer (other : expanded ≠ []) : home.length < (home ++ expanded).length := by
      rw [List.length_append]
      have := List.length_pos_iff.mpr other
      omega
    cases outcome with
    | kept inert =>
        cases text with
        | nil =>
            rw [List.append_nil, List.append_nil]
            exact .reference (written isHome)
        | cons char text => exact .lengthened (longer (by simp))
    | shortened other _ => exact .lengthened (longer other)
    | reference => exact .lengthened (longer nonempty)
    | lengthened long =>
        exact .lengthened (longer (List.ne_nil_of_length_pos (by omega)))
  · obtain ⟨value, set, long, -⟩ := revealing.others key isHome
    rw [set, Option.getD_some]
    apply Outcome.lengthened
    rw [List.length_append]
    omega

theorem outcome_of_expands (revealing : IsRevealing env home) (nonempty : home ≠ [])
    (expands : Expands env text expanded) : Outcome home text expanded := by
  induction expands with
  | nil => exact .kept .nil
  | plain ordinary _ ih =>
      exact ih.cons fun inert =>
        inert_cons_iff.mpr ⟨fun dollar => absurd dollar ordinary, inert⟩
  | @escaped text expanded _ ih =>
      -- Two dollar signs become one.
      cases ih with
      | kept inert => exact .shortened (by simp) (by simp)
      | shortened _ shorter =>
          apply Outcome.shortened (by simp)
          rw [List.length_cons, List.length_cons, List.length_cons]
          omega
      | reference => exact .lengthened (by simp)
      | lengthened longer =>
          apply Outcome.lengthened
          rw [List.length_cons]
          omega
  | lone bare _ ih =>
      exact ih.cons fun inert => inert_cons_iff.mpr ⟨fun _ => bare, inert⟩
  | @braced key text expanded name _ ih =>
      have written : key = "HOME".toList →
          IsHomeReference ('$' :: '{' :: (key ++ ['}'])) := by
        rintro rfl
        exact .inr rfl
      have outcome := Outcome.variable revealing nonempty written ih
      simpa using outcome
  | @named key text expanded name _ _ ih =>
      have written : key = "HOME".toList → IsHomeReference ('$' :: key) := by
        rintro rfl
        exact .inl rfl
      exact Outcome.variable revealing nonempty written ih

/-- A text and its expansion end in a separator together, up to the end of the home
directory. -/
def EndAlike (home text expanded : Text) : Prop :=
  (text = [] ∧ expanded = []) ∨
    ∃ last other, text.getLast? = some last ∧ expanded.getLast? = some other ∧
      (last = '/' → other = '/') ∧ (other = '/' → last = '/' ∨ home.getLast? = some '/')

theorem EndAlike.append {written value : Text} (front : EndAlike home written value)
    (behind : EndAlike home text expanded) :
    EndAlike home (written ++ text) (value ++ expanded) := by
  rcases behind with ⟨rfl, rfl⟩ | ⟨last, other, ends, otherEnds, alike⟩
  · rwa [List.append_nil, List.append_nil]
  · refine .inr ⟨last, other, ?_, ?_, alike⟩
    · rw [List.getLast?_append, ends, Option.some_or]
    · rw [List.getLast?_append, otherEnds, Option.some_or]

theorem endAlike_char (home : Text) (char : Char) : EndAlike home [char] [char] :=
  .inr ⟨char, char, rfl, rfl, id, .inl⟩

/-- A reference ends in no separator. -/
theorem endAlike_reference {reference key : Text} {last : Char}
    (revealing : IsRevealing env home) (nonempty : home ≠ [])
    (ends : reference.getLast? = some last) (ordinary : last ≠ '/') :
    EndAlike home reference ((env key).getD []) := by
  by_cases isHome : key = "HOME".toList
  · rw [isHome, revealing.set, Option.getD_some]
    have homeEnds := List.getLast?_eq_some_getLast nonempty
    refine .inr ⟨last, home.getLast nonempty, ends, homeEnds, ?_, ?_⟩
    · intro slash
      exact absurd slash ordinary
    · intro slash
      right
      rw [homeEnds, slash]
  · obtain ⟨value, set, long, noSeparator⟩ := revealing.others key isHome
    rw [set, Option.getD_some]
    have valued : value ≠ [] := List.ne_nil_of_length_pos (by omega)
    have valueEnds := List.getLast?_eq_some_getLast valued
    refine .inr ⟨last, value.getLast valued, ends, valueEnds, ?_, ?_⟩
    · intro slash
      exact absurd slash ordinary
    · intro slash
      rw [valueEnds, slash] at noSeparator
      exact absurd rfl noSeparator

theorem endAlike_of_expands (revealing : IsRevealing env home) (nonempty : home ≠ [])
    (expands : Expands env text expanded) : EndAlike home text expanded := by
  induction expands with
  | nil => exact .inl ⟨rfl, rfl⟩
  | @plain char text expanded _ _ ih => exact (endAlike_char home char).append ih
  | escaped _ ih =>
      have pair : EndAlike home ['$', '$'] ['$'] := .inr ⟨'$', '$', rfl, rfl, id, .inl⟩
      exact pair.append ih
  | lone _ _ ih => exact (endAlike_char home '$').append ih
  | @braced key text expanded name _ ih =>
      have ends : ('$' :: '{' :: (key ++ ['}'])).getLast? = some '}' := by
        rw [← List.cons_append, ← List.cons_append, List.getLast?_concat]
      have reference : EndAlike home ('$' :: '{' :: (key ++ ['}'])) ((env key).getD []) :=
        endAlike_reference revealing nonempty ends (by decide)
      have alike := reference.append ih
      simpa using alike
  | @named key text expanded name _ _ ih =>
      have keyEnds := List.getLast?_eq_some_getLast name.1
      have ends : ('$' :: key).getLast? = some (key.getLast name.1) := by
        rw [List.getLast?_cons, keyEnds, Option.getD_some]
      have ordinary := (name.ne (List.getLast_mem name.1)).2.2.2
      exact (endAlike_reference revealing nonempty ends ordinary).append ih

/-- In a revealing environment, only texts that are kept everywhere are kept. -/
theorem kept_of_expands (revealing : IsRevealing env home)
    (expands : Expands env home expanded)
    (same : SameDirectory expanded home) :
    IsHomeReference home ∨ Inert home := by
  by_cases nonempty : home = []
  · rw [nonempty]
    exact .inr .nil
  have equal : expanded = home := by
    have alike := endAlike_of_expands revealing nonempty expands
    rcases alike with ⟨empty, -⟩ | ⟨last, other, ends, otherEnds, forward, backward⟩
    · exact absurd empty nonempty
    rcases same with equal | ⟨longer, opened⟩ | ⟨longer, opened⟩
    · exact equal
    · -- The separator behind the expansion comes from the home directory.
      rw [longer, List.getLast?_concat] at otherEnds
      rcases backward (Option.some.inj otherEnds).symm with slash | slash
      · exact absurd (.inr (slash ▸ ends)) opened
      · exact absurd (.inr slash) opened
    · have homeEnds : home.getLast? = some '/' := by rw [longer, List.getLast?_concat]
      have slash : other = '/' := forward (Option.some.inj (ends.symm.trans homeEnds))
      exact absurd (.inr (slash ▸ otherEnds)) opened
  rw [equal] at expands
  cases outcome_of_expands revealing nonempty expands with
  | kept inert => exact .inr inert
  | shortened _ shorter => exact absurd shorter (lt_irrefl _)
  | reference isReference => exact .inl isReference
  | lengthened longer => exact absurd longer (lt_irrefl _)

end Revealing

section Everywhere

variable {home : Text}

theorem length_trim_le (text : Text) : (trim text).length ≤ text.length :=
  (List.rdropWhile_prefix ..).length_le.trans (List.dropWhile_suffix _).length_le

/-- A character that is no whitespace stays at the end. -/
theorem getLast?_trim_concat (text : Text) {char : Char}
    (solid : isWhitespace char = false) : (trim (text ++ [char])).getLast? = some char := by
  have kept : ¬ isWhitespace char = true := by simp [solid]
  rw [trim, List.dropWhile_append]
  split
  · rw [List.dropWhile_cons_of_neg kept]
    exact congrArg List.getLast? (List.rdropWhile_concat_neg _ [] char kept)
  · rw [List.rdropWhile_concat_neg _ _ char kept, List.getLast?_concat]

/-- A home directory and its trimming are the same only when they are equal. -/
theorem trim_eq_of_sameDirectory (same : SameDirectory (trim home) home) :
    trim home = home := by
  rcases same with equal | ⟨longer, -⟩ | ⟨longer, opened⟩
  · exact equal
  · have shorter := length_trim_le home
    rw [longer, List.length_append, List.length_singleton] at shorter
    omega
  · have ends : (trim home).getLast? = some '/' := by
      rw [longer]
      exact getLast?_trim_concat _ (by decide)
    exact absurd (.inr ends) opened

theorem IsHomeReference.trim_eq (reference : IsHomeReference home) :
    trim home = home ∧ home.head? ≠ some '~' := by
  rcases reference with rfl | rfl <;> decide

/-- An environment whose other variables are long roots that begin with a tilde. -/
def revealingEnv (home key : Text) : Option Text :=
  if key = "HOME".toList then some home
  else some ('~' :: List.replicate (home.length + 1) ' ')

theorem isRevealing_revealingEnv (home : Text) : IsRevealing (revealingEnv home) home where
  set := if_pos rfl
  others := by
    intro key other
    refine ⟨'~' :: List.replicate (home.length + 1) ' ', if_neg other, ?_, ?_⟩
    · rw [List.length_cons, List.length_replicate]
      omega
    · rw [List.getLast?_cons, List.getLast?_replicate, if_neg (by omega)]
      decide

theorem trim_tilde_replicate (count : Nat) :
    trim ('~' :: List.replicate count ' ') = "~".toList := by
  induction count with
  | zero => decide
  | succ count ih =>
      rw [List.replicate_succ', ← List.cons_append, trim_concat_of_isWhitespace (by decide), ih]

theorem configuredRoot_revealingEnv (home : Text) :
    configuredRoot (revealingEnv home) [] none = some "~".toList := by
  have root : revealingEnv home "PASQAL_CONFIG_ROOT".toList =
      some ('~' :: List.replicate (home.length + 1) ' ') := if_neg (by decide)
  rw [configuredRoot, rootSettings, settings, SettingsSource.resolveOpt, root,
    Option.toList_some, List.singleton_append, List.map_cons, trim_tilde_replicate,
    List.find?_cons_of_pos (by decide)]

theorem IsSafe.kept (safe : IsSafe home) : IsHomeReference home ∨ Inert home :=
  safe.imp_right And.left

theorem isSafe_of_plain (trimmed : trim home = home) (inert : Inert home)
    (plain : ∀ rest, Anchored rest → trim home ≠ '~' :: rest) : IsSafe home := by
  have notBelow : "~/".toList.isPrefixOf home = false := by
    cases below : "~/".toList.isPrefixOf home with
    | false => rfl
    | true =>
        obtain ⟨path, split⟩ := List.isPrefixOf_iff_prefix.mp below
        exact absurd (trimmed.trans split.symm) (plain ('/' :: path) (.inr rfl))
  exact .inr ⟨inert, .inr (.inr (.inr ⟨trimmed, notBelow⟩))⟩

theorem IsSafe.keptAsRoot {env : Text → Option Text} (safe : IsSafe home)
    (set : env "HOME".toList = some home) : KeptAsRoot env home := by
  rcases safe with reference | ⟨inert, blank | tilde | ⟨below, opened⟩ | ⟨trimmed, notBelow⟩⟩
  · obtain ⟨trimmed, first⟩ := reference.trim_eq
    refine .plain ?_ ⟨home, ?_, .refl _⟩
    · rintro rest - same
      rw [← trimmed, same] at first
      exact first rfl
    · rw [trimmed]
      exact expands_of_homeReference set reference
  · exact .blank blank
  · exact .tilde set tilde
  · exact .below set below opened
  · rcases tilde_cases (trim home) with ⟨rest, rfl | slash, same⟩ | plain
    · exact .tilde set same
    · obtain ⟨path, rfl⟩ := List.head?_eq_some_iff.mp slash
      have below : "~/".toList.isPrefixOf home = true := by
        rw [← trimmed, same]
        rfl
      rw [notBelow] at below
      cases below
    · refine .plain plain ⟨home, ?_, .refl _⟩
      rw [trimmed]
      exact expands_of_inert inert

/-- The texts that are kept in every environment, whatever its other variables are, and for
every root. -/
theorem keepsHome_everywhere_iff (home : Text) :
    (∀ env backendName hashmapConfig rootPaths, env "HOME".toList = some home →
      (∀ value ∈ resolvedHome env hashmapConfig, value = home) →
      RootPaths env (configuredRoot env backendName hashmapConfig) rootPaths →
        KeepsHome env backendName hashmapConfig) ↔ IsSafe home := by
  constructor
  · intro keeps
    have revealing := isRevealing_revealingEnv home
    have set := revealing.set
    have root := configuredRoot_revealingEnv home
    obtain ⟨inRoot, asRoot⟩ := keeps (revealingEnv home) [] none [configPath (home ++ [])] set
      (fun value found => Option.some.inj (found.symm.trans set))
      (root ▸ .below set (.inl rfl) .nil)
    rw [root] at inRoot
    have kept : IsHomeReference home ∨ Inert home := by
      cases inRoot with
      | alone setToo spelled =>
          obtain ⟨expanded, expands, same⟩ := spelled
          cases set.symm.trans setToo
          exact kept_of_expands revealing expands same
      | below setToo spelled =>
          cases set.symm.trans setToo
          exact kept_of_expands revealing spelled (.refl _)
    rcases kept with reference | inert
    · exact .inl reference
    cases asRoot home set with
    | blank blank => exact .inr ⟨inert, .inl blank⟩
    | plain plain spelled =>
        obtain ⟨expanded, expands, same⟩ := spelled
        cases expands.unique (expands_of_inert inert.trim)
        exact isSafe_of_plain (trim_eq_of_sameDirectory same) inert plain
    | homeless unset => cases set.symm.trans unset
    | tilde _ trimmed => exact .inr ⟨inert, .inr (.inl trimmed)⟩
    | below _ trimmed opened => exact .inr ⟨inert, .inr (.inr (.inl ⟨trimmed, opened⟩))⟩
    | other setToo different => exact absurd (Option.some.inj (setToo.symm.trans set)) different
  · rintro safe env backendName hashmapConfig rootPaths set homes paths
    have spelled : Expands env home home := by
      rcases safe.kept with reference | inert
      · exact expands_of_homeReference set reference
      · exact expands_of_inert inert
    constructor
    · generalize configuredRoot env backendName hashmapConfig = root at paths
      cases paths with
      | absent => exact .absent
      | below => exact .below set spelled
    · intro value found
      rw [homes value found]
      exact safe.keptAsRoot set

end Everywhere

/-- The candidates hold the home directory verbatim exactly when it is kept wherever it is
used.  They do so in every environment with that home directory, for every map and root,
exactly when its text is safe. -/
theorem usedVerbatim_iff {env : Text → Option Text} {backendName : Text}
    {hashmapConfig : Option (KeyedStore Text Text)} {rootPaths : List Text}
    (paths : RootPaths env (configuredRoot env backendName hashmapConfig) rootPaths) :
    (UsedVerbatim env backendName hashmapConfig rootPaths ↔
      KeepsHome env backendName hashmapConfig) ∧
      ∀ home, (∀ env backendName hashmapConfig rootPaths, env "HOME".toList = some home →
        (∀ value ∈ resolvedHome env hashmapConfig, value = home) →
        RootPaths env (configuredRoot env backendName hashmapConfig) rootPaths →
          UsedVerbatim env backendName hashmapConfig rootPaths) ↔ IsSafe home := by
  constructor
  · exact usedVerbatim_iff_keepsHome paths
  · intro home
    rw [← keepsHome_everywhere_iff home]
    constructor
    · intro verbatim env backendName hashmapConfig rootPaths set homes paths
      exact (usedVerbatim_iff_keepsHome paths).mp
        (verbatim env backendName hashmapConfig rootPaths set homes paths)
    · intro keeps env backendName hashmapConfig rootPaths set homes paths
      exact (usedVerbatim_iff_keepsHome paths).mpr
        (keeps env backendName hashmapConfig rootPaths set homes paths)

section Homes

/-- An environment that only has a home directory. -/
def homeOnly (home key : Text) : Option Text :=
  if key = "HOME".toList then some home else none

/-- A map with nothing but a root below the home directory. -/
def rootedMap : KeyedStore Text Text :=
  KeyedStore.empty.insert "PASQAL_CONFIG_ROOT".toList "~/r".toList

theorem configuredRoot_rootedMap (home : Text) :
    configuredRoot (homeOnly home) [] (some rootedMap) = some ('~' :: "/r".toList) :=
  rfl

theorem rootPaths_rootedMap (home : Text) :
    RootPaths (homeOnly home) (configuredRoot (homeOnly home) [] (some rootedMap))
      [configPath (home ++ "/r".toList)] := by
  rw [configuredRoot_rootedMap]
  exact .below rfl (.inr rfl) (expands_self (by decide))

theorem keepsHome_rootedMap {home : Text} (plain : '$' ∉ home) :
    KeepsHome (homeOnly home) [] (some rootedMap) where
  inRoot := by
    rw [configuredRoot_rootedMap]
    exact .below rfl (expands_self plain)
  asRoot := by
    intro home found
    have none : resolvedHome (homeOnly home) (some rootedMap) = none := rfl
    exact absurd found (Option.not_mem_none _)

/-- The home directory has a tilde of its own, which nobody looks at where it is not tried
as a root. -/
theorem usedVerbatim_rootedMap :
    UsedVerbatim (homeOnly "~/x".toList) [] (some rootedMap)
      [configPath ("~/x".toList ++ "/r".toList)] :=
  (usedVerbatim_iff (rootPaths_rootedMap "~/x".toList)).1.mpr (keepsHome_rootedMap (by decide))

/-- Without a configured root, the home directory alone gives the candidates. -/
theorem configPathCandidates_homeOnly {home : Text} (trimmed : trim home = home)
    (nonempty : home ≠ []) (plain : ∀ rest, Anchored rest → home ≠ '~' :: rest) :
    configPathCandidates (homeOnly home) [] none =
      (expandEnvVars (homeOnly home) home).map fun directory => [configPath directory] := by
  have set : homeOnly home "HOME".toList = some home := if_pos rfl
  have root : configRootPath (homeOnly home) [] none = .ok none := by
    rw [configRootPath_eq]
    rfl
  have fallback : homeConfigPath (homeOnly home) none =
      (expandEnvVars (homeOnly home) home).map fun directory => some (configPath directory) := by
    rw [homeConfigPath, settings, SettingsSource.resolveOpt, set, pathFromSetting,
      pasqalConfigPathFromRoot, trimmed, if_neg nonempty, expandConfigRoot_plain plain]
    cases expandEnvVars (homeOnly home) home <;> rfl
  rw [configPathCandidates, root, fallback]
  cases expandEnvVars (homeOnly home) home <;> rfl

/-- A dollar sign in the home directory moves the file, or makes the construction fail. -/
theorem exists_home_not_verbatim :
    RootPaths (homeOnly "/srv/$a".toList) (configuredRoot (homeOnly "/srv/$a".toList) [] none) [] ∧
      configPathCandidates (homeOnly "/srv/$a".toList) [] none =
        .ok ["/srv/.pasqal/config".toList] ∧
      configPathCandidates (homeOnly "/srv/$\x7b".toList) [] none =
        .error (missingBrace []) ∧
      ¬ UsedVerbatim (homeOnly "/srv/$a".toList) [] none [] := by
  have moved : configPathCandidates (homeOnly "/srv/$a".toList) [] none =
      .ok ["/srv/.pasqal/config".toList] := by
    have expanded : expandEnvVars (homeOnly "/srv/$a".toList) "/srv/$a".toList =
        .ok "/srv/".toList := by
      simp [expandEnvVars, isNameChar, homeOnly]
    rw [configPathCandidates_homeOnly (by decide) (by decide) (by simp), expanded]
    rfl
  refine ⟨.absent, moved, ?_, ?_⟩
  · have refused : expandEnvVars (homeOnly "/srv/$\x7b".toList) "/srv/$\x7b".toList =
        .error (missingBrace []) := by
      simp [expandEnvVars]
    rw [configPathCandidates_homeOnly (by decide) (by decide) (by simp), refused]
    rfl
  · intro verbatim
    rw [UsedVerbatim, moved] at verbatim
    exact absurd (Except.ok.inj verbatim) (by decide)

end Homes

end PasqalConfigPath
