import Mathlib.Data.List.DropRight

/-!
# The lexer of OpenQASM 2

A character-by-character lexer for the lexical grammar of OpenQASM 2, as a
finite control with an emitted token list.  Comments run from `//` to the next
line feed and produce no tokens.  The facts below say when a source text may be
rewritten without changing its tokens: at blanks outside comments, and at its
ends.
-/

namespace OpenQasm

/-- A token of OpenQASM 2. -/
inductive Token
  | word (text : List Char)
  | numeral (text : List Char)
  | filename (text : List Char)
  | symbol (text : List Char)
  deriving DecidableEq

/-- The control of the lexer, with the part of a token read so far. -/
inductive Control
  | blank
  | word (read : List Char)
  | numeral (read : List Char)
  | filename (read : List Char)
  | slash
  | minus
  | equals
  | comment
  deriving DecidableEq

def isLineBreak (char : Char) : Bool :=
  char == '\n' || char == '\r'

def isBlank (char : Char) : Bool :=
  char == ' ' || char == '\t' || isLineBreak char

def isSymbol (char : Char) : Bool :=
  char ∈ [';', ',', '+', '*', '^', '(', ')', '[', ']', '\x7b', '\x7d']

/-- Identifiers start with a lower case letter; the header keyword and the two
built-in gates do not. -/
def wordToken (read : List Char) : Option Token :=
  match read with
  | [] => none
  | first :: _ =>
      if first.isLower || read ∈ ["OPENQASM".toList, "U".toList, "CX".toList]
      then some (.word read)
      else none

def isExponent : List Char → Bool
  | [] => true
  | mark :: digits =>
      let unsigned := match digits with
        | '+' :: rest => rest
        | '-' :: rest => rest
        | rest => rest
      (mark == 'e' || mark == 'E') && !unsigned.isEmpty &&
        unsigned.all Char.isDigit

/-- Integers without leading zeros and reals with at least one digit. -/
def numeralToken (read : List Char) : Option Token :=
  let whole := read.takeWhile Char.isDigit
  let valid := match read.dropWhile Char.isDigit with
    | '.' :: rest =>
        (!whole.isEmpty || !(rest.takeWhile Char.isDigit).isEmpty) &&
          isExponent (rest.dropWhile Char.isDigit)
    | exponent =>
        !whole.isEmpty && isExponent exponent &&
          (whole.head? != some '0' || whole.length == 1)
  if valid then some (.numeral read) else none

/-- Whether a character continues a numeral: signs do directly after an exponent
mark only. -/
def continuesNumeral (read : List Char) (char : Char) : Bool :=
  char.isDigit || char == '.' || char == 'e' || char == 'E' ||
    ((char == '+' || char == '-') &&
      (read.getLast? == some 'e' || read.getLast? == some 'E'))

/-- The first character after a finished token. -/
def begin (char : Char) : Option (List Token × Control) :=
  if isBlank char then some ([], .blank)
  else if char.isAlpha then some ([], .word [char])
  else if char.isDigit || char == '.' then some ([], .numeral [char])
  else if char == '"' then some ([], .filename [])
  else if char == '/' then some ([], .slash)
  else if char == '-' then some ([], .minus)
  else if char == '=' then some ([], .equals)
  else if isSymbol char then some ([.symbol [char]], .blank)
  else none

/-- Finish a token and begin with the next character. -/
def beginAfter (token : Option Token) (char : Char) :
    Option (List Token × Control) :=
  match token, begin char with
  | some token, some (tokens, control) => some (token :: tokens, control)
  | _, _ => none

/-- One step of the lexer. -/
def step : Control → Char → Option (List Token × Control)
  | .blank, char => begin char
  | .word read, char =>
      if char.isAlphanum || char == '_' then some ([], .word (read ++ [char]))
      else beginAfter (wordToken read) char
  | .numeral read, char =>
      if continuesNumeral read char then some ([], .numeral (read ++ [char]))
      else beginAfter (numeralToken read) char
  | .filename read, char =>
      if char == '"' then some ([.filename read], .blank)
      else if isLineBreak char then none
      else some ([], .filename (read ++ [char]))
  | .slash, char =>
      if char == '/' then some ([], .comment)
      else beginAfter (some (.symbol ['/'])) char
  | .minus, char =>
      if char == '>' then some ([.symbol ['-', '>']], .blank)
      else beginAfter (some (.symbol ['-'])) char
  | .equals, char =>
      if char == '=' then some ([.symbol ['=', '=']], .blank) else none
  | .comment, char => some ([], if char == '\n' then .blank else .comment)

/-- The tokens that end with the text. -/
def finish : Control → Option (List Token)
  | .blank | .comment => some []
  | .word read => (wordToken read).map ([·])
  | .numeral read => (numeralToken read).map ([·])
  | .slash => some [.symbol ['/']]
  | .minus => some [.symbol ['-']]
  | .filename _ | .equals => none

/-- The remaining tokens of a text, in a given control. -/
def lexFrom : Control → List Char → Option (List Token)
  | control, [] => finish control
  | control, char :: rest =>
      match step control char with
      | none => none
      | some (tokens, next) => (lexFrom next rest).map (tokens ++ ·)

/-- The tokens of a source text. -/
def tokens (source : List Char) : Option (List Token) :=
  lexFrom .blank source

/-- The text after the first comment mark. -/
def firstComment : Control → List Char → Option (List Char)
  | _, [] => none
  | control, char :: rest =>
      match step control char with
      | none => none
      | some (_, .comment) => some rest
      | some (_, next) => firstComment next rest

theorem lexFrom_cons {control next : Control} {char : Char}
    {rest : List Char} {emitted : List Token}
    (stepTo : step control char = some (emitted, next)) :
    lexFrom control (char :: rest) = (lexFrom next rest).map (emitted ++ ·) := by
  simp only [lexFrom, stepTo]

/-- A text that lexes takes a step at its first character. -/
theorem exists_step_of_lexFrom {control : Control} {char : Char}
    {rest : List Char} {result : List Token}
    (lexed : lexFrom control (char :: rest) = some result) :
    ∃ emitted next later, step control char = some (emitted, next) ∧
      lexFrom next rest = some later ∧ result = emitted ++ later := by
  cases stepTo : step control char with
  | none => simp [lexFrom, stepTo] at lexed
  | some outcome =>
      obtain ⟨emitted, next⟩ := outcome
      rw [lexFrom_cons stepTo, Option.map_eq_some_iff] at lexed
      obtain ⟨later, lexedLater, equal⟩ := lexed
      exact ⟨emitted, next, later, rfl, lexedLater, equal.symm⟩

/-- Replace every line break by a blank. -/
def flatten (source : List Char) : List Char :=
  source.map fun char => if isLineBreak char then ' ' else char

/-- Outside comments a line break is a blank like any other. -/
theorem step_blank_of_lineBreak {control : Control} {char : Char}
    {outcome : List Token × Control} (outside : control ≠ .comment)
    (lineBreak : isLineBreak char = true)
    (stepTo : step control char = some outcome) :
    step control ' ' = some outcome := by
  have feedOrReturn : char = '\n' ∨ char = '\r' := by
    simpa [isLineBreak] using lineBreak
  cases control with
  | blank => rcases feedOrReturn with rfl | rfl <;> exact stepTo
  | word read => rcases feedOrReturn with rfl | rfl <;> exact stepTo
  | numeral read => rcases feedOrReturn with rfl | rfl <;> exact stepTo
  | filename read => rcases feedOrReturn with rfl | rfl <;> cases stepTo
  | slash => rcases feedOrReturn with rfl | rfl <;> exact stepTo
  | minus => rcases feedOrReturn with rfl | rfl <;> exact stepTo
  | equals => rcases feedOrReturn with rfl | rfl <;> cases stepTo
  | comment => exact (outside rfl).elim

theorem step_flatten {control : Control} {char : Char}
    {outcome : List Token × Control} (outside : control ≠ .comment)
    (stepTo : step control char = some outcome) :
    step control (if isLineBreak char then ' ' else char) = some outcome := by
  by_cases lineBreak : isLineBreak char = true
  · rw [if_pos lineBreak]
    exact step_blank_of_lineBreak outside lineBreak stepTo
  · rw [if_neg lineBreak]
    exact stepTo

/-- A flattened text never leaves a comment. -/
theorem lexFrom_comment_flatten (source : List Char) :
    lexFrom .comment (flatten source) = some [] := by
  induction source with
  | nil => rfl
  | cons char source ih =>
      have stays : step .comment (if isLineBreak char then ' ' else char) =
          some ([], .comment) := by
        by_cases lineBreak : isLineBreak char = true
        · rw [if_pos lineBreak]
          rfl
        · rw [if_neg lineBreak]
          have notFeed : char ≠ '\n' := by
            rintro rfl
            exact lineBreak rfl
          simp [step, notFeed]
      change lexFrom .comment (_ :: flatten source) = some []
      rw [lexFrom_cons stays, ih]
      rfl

/-- Flattening keeps the tokens of a text without comments. -/
theorem lexFrom_flatten_of_no_comment {control : Control} {source : List Char}
    {result : List Token} (outside : control ≠ .comment)
    (lexed : lexFrom control source = some result)
    (noComment : firstComment control source = none) :
    lexFrom control (flatten source) = some result := by
  induction source generalizing control result with
  | nil => exact lexed
  | cons char source ih =>
      obtain ⟨emitted, next, later, stepTo, lexedLater, rfl⟩ :=
        exists_step_of_lexFrom lexed
      have stays : next ≠ .comment := by
        rintro rfl
        simp [firstComment, stepTo] at noComment
      have noneLater : firstComment next source = none := by
        cases next with
        | comment => exact (stays rfl).elim
        | blank | word | numeral | filename | slash | minus | equals =>
            simpa [firstComment, stepTo] using noComment
      change lexFrom control (_ :: flatten source) = _
      rw [lexFrom_cons (step_flatten outside stepTo),
        ih stays lexedLater noneLater]
      rfl

/-- A text with a comment has the tokens before the comment, which are all that
flattening keeps, followed by the tokens after the comment's line. -/
theorem exists_split_of_comment {control : Control} {source rest : List Char}
    {result : List Token} (outside : control ≠ .comment)
    (lexed : lexFrom control source = some result)
    (commented : firstComment control source = some rest) :
    ∃ early late, result = early ++ late ∧
      lexFrom .comment rest = some late ∧
      lexFrom control (flatten source) = some early := by
  induction source generalizing control result with
  | nil => cases commented
  | cons char source ih =>
      obtain ⟨emitted, next, later, stepTo, lexedLater, rfl⟩ :=
        exists_step_of_lexFrom lexed
      have flattened : lexFrom control (flatten (char :: source)) =
          (lexFrom next (flatten source)).map (emitted ++ ·) :=
        lexFrom_cons (step_flatten outside stepTo)
      by_cases enters : next = .comment
      · subst enters
        have same : source = rest := by
          simpa [firstComment, stepTo] using commented
        subst same
        refine ⟨emitted, later, rfl, lexedLater, ?_⟩
        rw [flattened, lexFrom_comment_flatten]
        simp
      · have commentedLater : firstComment next source = some rest := by
          cases next with
          | comment => exact (enters rfl).elim
          | blank | word | numeral | filename | slash | minus | equals =>
              simpa [firstComment, stepTo] using commented
        obtain ⟨early, late, rfl, afterwards, kept⟩ :=
          ih enters lexedLater commentedLater
        refine ⟨emitted ++ early, late, by simp, afterwards, ?_⟩
        rw [flattened, kept]
        rfl

/-- No token follows the first comment mark of a text. -/
def EndsAtComment (source : List Char) : Prop :=
  ∀ rest, firstComment .blank source = some rest →
    lexFrom .comment rest = some []

/-- Flattening keeps the tokens of a text exactly when none of them follows its
first comment. -/
theorem tokens_flatten_iff {source : List Char} {result : List Token}
    (lexed : tokens source = some result) :
    ∃ kept, tokens (flatten source) = some kept ∧
      (kept = result ↔ EndsAtComment source) := by
  have outside : Control.blank ≠ .comment := by decide
  cases commented : firstComment .blank source with
  | none =>
      have kept := lexFrom_flatten_of_no_comment outside lexed commented
      refine ⟨result, kept, fun _ rest found => ?_, fun _ => rfl⟩
      rw [commented] at found
      cases found
  | some rest =>
      obtain ⟨early, late, rfl, afterwards, kept⟩ :=
        exists_split_of_comment outside lexed commented
      refine ⟨early, kept, ?_⟩
      constructor
      · intro equal other found
        have nothing : late = [] := by simpa using equal
        cases commented.symm.trans found
        rw [afterwards, nothing]
      · intro ends
        have nothing := ends rest commented
        rw [afterwards] at nothing
        rw [Option.some.inj nothing, List.append_nil]

/-- A character that never takes part in a token: a blank, or a character that
the lexer rejects between tokens and within them. -/
structure IsMargin (char : Char) : Prop where
  skipped : isBlank char = true ∨ begin char = none
  notUnderscore : char ≠ '_'
  notGreater : char ≠ '>'

theorem IsMargin.begin_eq {char : Char} (margin : IsMargin char)
    {outcome : List Token × Control} (begun : begin char = some outcome) :
    outcome = ([], .blank) := by
  rcases margin.skipped with blank | rejected
  · unfold begin at begun
    rw [if_pos blank] at begun
    exact (Option.some.inj begun).symm
  · rw [rejected] at begun
    cases begun

theorem IsMargin.inert {char : Char} (margin : IsMargin char) :
    char.isAlpha = false ∧ char.isDigit = false ∧
      char ∉ ['.', '"', '/', '=', '+', '-'] := by
  rcases margin.skipped with blank | rejected
  · have values : ((char = ' ' ∨ char = '\t') ∨ char = '\n' ∨ char = '\r') := by
      simpa [isBlank, isLineBreak, or_assoc] using blank
    rcases values with (rfl | rfl) | rfl | rfl <;> decide
  · unfold begin at rejected
    split_ifs at rejected with blank alpha digit quote slash minus equals symbol
    simp [isSymbol] at alpha digit quote slash minus equals symbol ⊢
    exact ⟨alpha, digit.1, digit.2, quote, slash, equals, symbol.2.2.1, minus⟩

theorem IsMargin.continuesNumeral {char : Char} (margin : IsMargin char)
    (read : List Char) : continuesNumeral read char = false := by
  obtain ⟨notAlpha, notDigit, special⟩ := margin.inert
  have notMark : char ≠ 'e' ∧ char ≠ 'E' := by
    constructor <;> rintro rfl <;> cases notAlpha
  simp only [List.mem_cons, List.not_mem_nil, or_false, not_or] at special
  simp [OpenQasm.continuesNumeral, notDigit, notMark, special]

theorem IsMargin.beginAfter {char : Char} {token : Option Token}
    {outcome : List Token × Control} (margin : IsMargin char)
    (started : beginAfter token char = some outcome) :
    ∃ finished, token = some finished ∧ outcome = ([finished], .blank) := by
  unfold OpenQasm.beginAfter at started
  split at started
  · rename_i finished tokens control begun
    obtain ⟨rfl, rfl⟩ := Prod.mk.inj (margin.begin_eq begun)
    exact ⟨finished, rfl, (Option.some.inj started).symm⟩
  · cases started

/-- A margin finishes the token in front of it. -/
theorem IsMargin.finish {char : Char} {control : Control}
    {outcome : List Token × Control} {later : List Token}
    (margin : IsMargin char) (stepTo : step control char = some outcome)
    (finished : finish outcome.2 = some later) :
    OpenQasm.finish control = some (outcome.1 ++ later) := by
  obtain ⟨notAlpha, notDigit, special⟩ := margin.inert
  simp only [List.mem_cons, List.not_mem_nil, or_false, not_or] at special
  have afterToken {token : Option Token}
      (started : OpenQasm.beginAfter token char = some outcome) :
      token.map ([·]) = some (outcome.1 ++ later) := by
    obtain ⟨done, rfl, rfl⟩ := margin.beginAfter started
    cases finished
    rfl
  cases control with
  | blank =>
      obtain rfl := margin.begin_eq stepTo
      exact finished
  | word read =>
      simp only [step, Char.isAlphanum, notAlpha, notDigit,
        margin.notUnderscore, beq_iff_eq, Bool.or_self, Bool.false_or,
        if_false] at stepTo
      exact afterToken stepTo
  | numeral read =>
      simp only [step, margin.continuesNumeral, Bool.false_eq_true,
        if_false] at stepTo
      exact afterToken stepTo
  | filename read =>
      simp only [step, special, beq_iff_eq, if_false] at stepTo
      split at stepTo
      · cases stepTo
      · cases stepTo
        cases finished
  | slash =>
      simp only [step, special, beq_iff_eq, if_false] at stepTo
      exact afterToken stepTo
  | minus =>
      simp only [step, margin.notGreater, beq_iff_eq, if_false] at stepTo
      exact afterToken stepTo
  | equals =>
      simp only [step, special, beq_iff_eq, if_false] at stepTo
      cases stepTo
  | comment =>
      cases stepTo
      split at finished <;> exact finished

/-- Margins may be cut off in front of a text. -/
theorem lexFrom_dropWhile {test : Char → Bool}
    (margins : ∀ char, test char = true → IsMargin char)
    {source : List Char} {result : List Token}
    (lexed : lexFrom .blank source = some result) :
    lexFrom .blank (source.dropWhile test) = some result := by
  induction source with
  | nil => exact lexed
  | cons char source ih =>
      by_cases skipped : test char = true
      · rw [List.dropWhile_cons_of_pos skipped]
        obtain ⟨emitted, next, later, stepTo, lexedLater, rfl⟩ :=
          exists_step_of_lexFrom lexed
        obtain ⟨rfl, rfl⟩ := Prod.mk.inj
          ((margins char skipped).begin_eq stepTo)
        exact ih lexedLater
      · rw [List.dropWhile_cons_of_neg skipped]
        exact lexed

theorem lexFrom_of_snoc {char : Char} {control : Control} {source : List Char}
    {result : List Token} (margin : IsMargin char)
    (lexed : lexFrom control (source ++ [char]) = some result) :
    lexFrom control source = some result := by
  induction source generalizing control result with
  | nil =>
      obtain ⟨emitted, next, later, stepTo, lexedLater, rfl⟩ :=
        exists_step_of_lexFrom lexed
      exact margin.finish stepTo lexedLater
  | cons first source ih =>
      obtain ⟨emitted, next, later, stepTo, lexedLater, rfl⟩ :=
        exists_step_of_lexFrom lexed
      rw [lexFrom_cons stepTo, ih lexedLater]
      rfl

/-- Margins may be cut off behind a text. -/
theorem lexFrom_rdropWhile {test : Char → Bool}
    (margins : ∀ char, test char = true → IsMargin char)
    {control : Control} {source : List Char} {result : List Token}
    (lexed : lexFrom control source = some result) :
    lexFrom control (source.rdropWhile test) = some result := by
  induction source using List.reverseRecOn with
  | nil => exact lexed
  | append_singleton source char ih =>
      by_cases skipped : test char = true
      · rw [List.rdropWhile_concat_pos _ _ _ skipped]
        exact ih (lexFrom_of_snoc (margins char skipped) lexed)
      · rw [List.rdropWhile_concat_neg _ _ _ skipped]
        exact lexed

end OpenQasm
