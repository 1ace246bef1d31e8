import Qrmi.Lexer

/-!
# The lexer of JSON

The lexical grammar of RFC 8259: six structural characters, names and numbers, and
string literals, between blanks.  A string literal contains no control character,
so a line break of a JSON text is always a blank.
-/

namespace JsonText

/-- A token of a JSON text.  A word is a number or a literal name. -/
inductive Token
  | structural (char : Char)
  | word (text : List Char)
  | literal (text : List Char)
  deriving DecidableEq

/-- The control of the lexer, with the part of a token read so far. -/
inductive Control
  | blank
  | word (read : List Char)
  | literal (read : List Char)
  | escape (read : List Char)

def isLineBreak (char : Char) : Bool :=
  char == '\n' || char == '\r'

def isBlank (char : Char) : Bool :=
  char == ' ' || char == '\t' || isLineBreak char

def isStructural (char : Char) : Bool :=
  char ∈ ['[', '\x7b', ']', '\x7d', ':', ',']

/-- The characters of numbers and literal names. -/
def isWord (char : Char) : Bool :=
  char.isAlphanum || char ∈ ['-', '+', '.']

def isControl (char : Char) : Bool :=
  char.toNat < 32

/-- The first character after a finished token. -/
def begin (char : Char) : Option (List Token × Control) :=
  if isBlank char then some ([], .blank)
  else if isStructural char then some ([.structural char], .blank)
  else if char = '"' then some ([], .literal [])
  else if isWord char then some ([], .word [char])
  else none

/-- One step of the lexer. -/
def step : Control → Char → Option (List Token × Control)
  | .blank, char => begin char
  | .word read, char =>
      if isWord char then some ([], .word (read ++ [char]))
      else (begin char).map fun outcome => (.word read :: outcome.1, outcome.2)
  | .literal read, char =>
      if char = '"' then some ([.literal read], .blank)
      else if char = '\\' then some ([], .escape read)
      else if isControl char then none
      else some ([], .literal (read ++ [char]))
  | .escape read, char =>
      if isControl char then none
      else some ([], .literal (read ++ ['\\', char]))

/-- The tokens that end with the text. -/
def finish : Control → Option (List Token)
  | .blank => some []
  | .word read => some [.word read]
  | .literal _ | .escape _ => none

def lexer : Lexer Token Control where
  step := step
  finish := finish

/-- The tokens of a JSON text. -/
def tokens (text : List Char) : Option (List Token) :=
  lexer.lexFrom .blank text

/-- Replace every line break by a blank. -/
def flatten (text : List Char) : List Char :=
  text.map fun char => if isLineBreak char then ' ' else char

/-- A line break is a blank wherever the lexer accepts it. -/
theorem step_flatten (control : Control) (char : Char) (outcome : List Token × Control)
    (stepTo : step control char = some outcome) :
    step control (if isLineBreak char then ' ' else char) = some outcome := by
  by_cases lineBreak : isLineBreak char = true
  · rw [if_pos lineBreak]
    have feedOrReturn : char = '\n' ∨ char = '\r' := by
      simpa [isLineBreak] using lineBreak
    cases control with
    | blank => rcases feedOrReturn with rfl | rfl <;> exact stepTo
    | word read => rcases feedOrReturn with rfl | rfl <;> exact stepTo
    | literal read => rcases feedOrReturn with rfl | rfl <;> cases stepTo
    | escape read => rcases feedOrReturn with rfl | rfl <;> cases stepTo
  · rw [if_neg lineBreak]
    exact stepTo

/-- Flattening keeps the tokens of a text. -/
theorem tokens_flatten {text : List Char} {result : List Token}
    (lexed : tokens text = some result) : tokens (flatten text) = some result :=
  Lexer.lexFrom_map step_flatten lexed

/-- A character that JSON knows as a blank at most. -/
structure IsForeign (char : Char) : Prop where
  notStructural : isStructural char = false
  notQuote : char ≠ '"'
  notWord : isWord char = false

theorem IsForeign.begin_eq {char : Char} (foreign : IsForeign char)
    {outcome : List Token × Control} (begun : begin char = some outcome) :
    outcome = ([], .blank) := by
  rw [begin] at begun
  by_cases blank : isBlank char = true
  · rw [if_pos blank] at begun
    exact (Option.some.inj begun).symm
  · simp [blank, foreign.notStructural, foreign.notQuote, foreign.notWord] at begun

/-- Such a character is a margin of JSON texts. -/
theorem IsForeign.isMargin {char : Char} (foreign : IsForeign char) :
    lexer.IsMargin .blank char where
  passes _ stepTo := foreign.begin_eq stepTo
  ends control outcome later stepTo finished := by
    cases control with
    | blank =>
        obtain rfl := foreign.begin_eq stepTo
        exact finished
    | word read =>
        change step (.word read) char = some outcome at stepTo
        rw [step, foreign.notWord, if_neg Bool.false_ne_true,
          Option.map_eq_some_iff] at stepTo
        obtain ⟨begun, beginning, rfl⟩ := stepTo
        obtain rfl := foreign.begin_eq beginning
        cases finished
        rfl
    | literal read =>
        change step (.literal read) char = some outcome at stepTo
        rw [step, if_neg foreign.notQuote] at stepTo
        split at stepTo
        · cases stepTo
          cases finished
        · split at stepTo
          · cases stepTo
          · cases stepTo
            cases finished
    | escape read =>
        change step (.escape read) char = some outcome at stepTo
        rw [step] at stepTo
        split at stepTo
        · cases stepTo
        · cases stepTo
          cases finished

/-- A reader of JSON texts that looks at their tokens only: what it accepts is made
of tokens, and texts with the same tokens have the same value. -/
structure ReadsTokens {Error Value : Type} (parse : List Char → Except Error Value) :
    Prop where
  accepts : ∀ {text value}, parse text = .ok value →
    ∃ result, tokens text = some result
  tokenwise : ∀ {first second value}, tokens first = tokens second →
    parse first = .ok value → parse second = .ok value

end JsonText
