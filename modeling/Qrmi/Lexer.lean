import Mathlib.Data.List.DropRight

/-!
# Lexers with a control

A lexer reads a text character by character.  Its control remembers the part of a
token that was read, every step may emit tokens, and the end of the text may emit
the last ones or reject the text.  The rules below say when a text can be rewritten
without changing its tokens.
-/

/-- A character-by-character lexer. -/
structure Lexer (Token Control : Type) where
  step : Control → Char → Option (List Token × Control)
  finish : Control → Option (List Token)

namespace Lexer

variable {Token Control : Type} (lexer : Lexer Token Control)

/-- The remaining tokens of a text, in a given control. -/
def lexFrom : Control → List Char → Option (List Token)
  | control, [] => lexer.finish control
  | control, char :: rest =>
      match lexer.step control char with
      | none => none
      | some (tokens, next) => (lexFrom next rest).map (tokens ++ ·)

variable {lexer} {control start : Control} {text : List Char} {result : List Token}

/-- A text is lexed by a step at its first character and by lexing the rest. -/
theorem lexFrom_cons_iff {char : Char} :
    lexer.lexFrom control (char :: text) = some result ↔
      ∃ emitted next later, lexer.step control char = some (emitted, next) ∧
        lexer.lexFrom next text = some later ∧ result = emitted ++ later := by
  rw [lexFrom]
  cases stepTo : lexer.step control char with
  | none => exact ⟨nofun, fun ⟨_, _, _, equal, _⟩ => nomatch equal⟩
  | some outcome =>
      obtain ⟨emitted, next⟩ := outcome
      dsimp only
      rw [Option.map_eq_some_iff]
      constructor
      · rintro ⟨later, lexed, rfl⟩
        exact ⟨emitted, next, later, rfl, lexed, rfl⟩
      · rintro ⟨_, _, later, equal, lexed, rfl⟩
        cases equal
        exact ⟨later, lexed, rfl⟩

/-- Characters may be exchanged for others that the lexer steps over alike. -/
theorem lexFrom_map {change : Char → Char}
    (alike : ∀ control char outcome, lexer.step control char = some outcome →
      lexer.step control (change char) = some outcome)
    (lexed : lexer.lexFrom control text = some result) :
    lexer.lexFrom control (text.map change) = some result := by
  induction text generalizing control result with
  | nil => exact lexed
  | cons char text ih =>
      obtain ⟨emitted, next, later, stepTo, rest, rfl⟩ := lexFrom_cons_iff.mp lexed
      exact lexFrom_cons_iff.mpr
        ⟨emitted, next, later, alike _ _ _ stepTo, ih rest, rfl⟩

/-- A character that takes part in no token: the lexer rejects it or passes over it
at the start of a text, and it ends a token as the end of the text would. -/
structure IsMargin (lexer : Lexer Token Control) (start : Control) (char : Char) :
    Prop where
  passes : ∀ outcome, lexer.step start char = some outcome → outcome = ([], start)
  ends : ∀ control outcome later, lexer.step control char = some outcome →
    lexer.finish outcome.2 = some later →
      lexer.finish control = some (outcome.1 ++ later)

/-- Margins may be cut off in front of a text. -/
theorem lexFrom_dropWhile {test : Char → Bool}
    (margins : ∀ char, test char = true → lexer.IsMargin start char)
    (lexed : lexer.lexFrom start text = some result) :
    lexer.lexFrom start (text.dropWhile test) = some result := by
  induction text with
  | nil => exact lexed
  | cons char text ih =>
      by_cases skipped : test char = true
      · rw [List.dropWhile_cons_of_pos skipped]
        obtain ⟨emitted, next, later, stepTo, rest, rfl⟩ := lexFrom_cons_iff.mp lexed
        obtain ⟨rfl, rfl⟩ := Prod.mk.inj ((margins char skipped).passes _ stepTo)
        exact ih rest
      · rw [List.dropWhile_cons_of_neg skipped]
        exact lexed

theorem lexFrom_of_snoc {char : Char} (margin : lexer.IsMargin start char)
    (lexed : lexer.lexFrom control (text ++ [char]) = some result) :
    lexer.lexFrom control text = some result := by
  induction text generalizing control result with
  | nil =>
      obtain ⟨emitted, next, later, stepTo, rest, rfl⟩ := lexFrom_cons_iff.mp lexed
      exact margin.ends _ _ _ stepTo rest
  | cons first text ih =>
      obtain ⟨emitted, next, later, stepTo, rest, rfl⟩ := lexFrom_cons_iff.mp lexed
      exact lexFrom_cons_iff.mpr ⟨emitted, next, later, stepTo, ih rest, rfl⟩

/-- Margins may be cut off behind a text. -/
theorem lexFrom_rdropWhile {test : Char → Bool}
    (margins : ∀ char, test char = true → lexer.IsMargin start char)
    (lexed : lexer.lexFrom control text = some result) :
    lexer.lexFrom control (text.rdropWhile test) = some result := by
  induction text using List.reverseRecOn with
  | nil => exact lexed
  | append_singleton text char ih =>
      by_cases skipped : test char = true
      · rw [List.rdropWhile_concat_pos _ _ _ skipped]
        exact ih (lexFrom_of_snoc (margins char skipped) lexed)
      · rw [List.rdropWhile_concat_neg _ _ _ skipped]
        exact lexed

end Lexer
