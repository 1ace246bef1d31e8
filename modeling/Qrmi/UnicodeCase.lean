import Qrmi.RustText

/-!
# Upper and lower case

The conversions of `str` map a text character by character, apart from the sigma at the
end of a word.  The tables are those of Unicode; what the code relies on is that they
leave the ASCII characters without case alone and produce them from no other character.
-/

/-- An ASCII character without case. -/
def IsCaseless (char : Char) : Prop :=
  char.val < 128 ∧ ¬ char.isAlpha

instance (char : Char) : Decidable (IsCaseless char) :=
  inferInstanceAs (Decidable (_ ∧ _))

/-- The tables of `char::to_lowercase` and `char::to_uppercase`, and the properties that
decide where a word ends. -/
structure UnicodeCase where
  toLower : Char → Text
  toUpper : Char → Text
  isCased : Char → Bool
  isCaseIgnorable : Char → Bool
  toLower_ne_nil : ∀ char, toLower char ≠ []
  toUpper_ne_nil : ∀ char, toUpper char ≠ []
  toLower_caseless : ∀ char, IsCaseless char → toLower char = [char]
  toUpper_caseless : ∀ char, IsCaseless char → toUpper char = [char]
  not_caseless_toLower : ∀ char, ¬ IsCaseless char → ∀ image ∈ toLower char, ¬ IsCaseless image
  toLower_sigma : toLower 'Σ' = ['σ']
  toUpper_sigma : toUpper 'σ' = ['Σ']
  toUpper_finalSigma : toUpper 'ς' = ['Σ']

namespace UnicodeCase

section Conversions

variable (case : UnicodeCase)

/-- The next character that is not ignored has case. -/
def meetsCased (text : Text) : Bool :=
  (text.dropWhile case.isCaseIgnorable).head?.any case.isCased

/-- The lower case of a character between two texts, the first one in reverse. -/
def lowerBetween (before : Text) (char : Char) (after : Text) : Text :=
  if char = 'Σ' then
    if case.meetsCased before && !case.meetsCased after then ['ς'] else ['σ']
  else case.toLower char

def lowercaseFrom : Text → Text → Text
  | _, [] => []
  | before, char :: text =>
      case.lowerBetween before char text ++ lowercaseFrom (char :: before) text

/-- `to_lowercase`. -/
def lowercase (text : Text) : Text :=
  case.lowercaseFrom [] text

/-- `to_uppercase`. -/
def uppercase (text : Text) : Text :=
  text.flatMap case.toUpper

end Conversions

section Characters

variable {case : UnicodeCase} {char : Char} {before text : Text}

@[simp]
theorem uppercase_append (front text : Text) :
    case.uppercase (front ++ text) = case.uppercase front ++ case.uppercase text :=
  List.flatMap_append

/-- The sigma at the end of a word has the upper case of any other one. -/
theorem uppercase_lowerBetween (before : Text) (char : Char) (after : Text) :
    case.uppercase (case.lowerBetween before char after) =
      case.uppercase (case.toLower char) := by
  by_cases sigma : char = 'Σ'
  · rw [lowerBetween, if_pos sigma, sigma, case.toLower_sigma]
    split <;> simp [uppercase, case.toUpper_sigma, case.toUpper_finalSigma]
  · rw [lowerBetween, if_neg sigma]

theorem lowerBetween_caseless (caseless : IsCaseless char) :
    case.lowerBetween before char text = [char] := by
  have notSigma : char ≠ 'Σ' := by
    rintro rfl
    exact absurd caseless (by decide)
  rw [lowerBetween, if_neg notSigma, case.toLower_caseless char caseless]

theorem not_caseless_lowerBetween (cased : ¬ IsCaseless char) :
    ∀ image ∈ case.lowerBetween before char text, ¬ IsCaseless image := by
  intro image member
  by_cases sigma : char = 'Σ'
  · rw [lowerBetween, if_pos sigma] at member
    split at member
    · rw [List.mem_singleton.mp member]
      decide
    · rw [List.mem_singleton.mp member]
      decide
  · rw [lowerBetween, if_neg sigma] at member
    exact case.not_caseless_toLower char cased image member

theorem uppercase_ne_nil (nonempty : text ≠ []) : case.uppercase text ≠ [] := by
  obtain ⟨char, rest, rfl⟩ := List.exists_cons_of_ne_nil nonempty
  rw [uppercase, List.flatMap_cons]
  exact List.append_ne_nil_of_left_ne_nil (case.toUpper_ne_nil char) _

end Characters

section Ascii

variable {char : Char}

theorem toLower_of_caseless (caseless : IsCaseless char) : char.toLower = char := by
  unfold Char.toLower
  refine dif_neg fun upper => caseless.2 ?_
  unfold Char.isAlpha Char.isUpper
  rw [decide_eq_true upper, Bool.true_or]

theorem toUpper_of_caseless (caseless : IsCaseless char) : char.toUpper = char := by
  unfold Char.toUpper
  refine dif_neg fun lower => caseless.2 ?_
  unfold Char.isAlpha Char.isLower
  rw [decide_eq_true lower.1, decide_eq_true lower.2, Bool.and_true, Bool.or_true]

theorem not_caseless_asciiLower (cased : ¬ IsCaseless char) : ¬ IsCaseless char.toLower := by
  unfold Char.toLower
  split
  case isTrue upper =>
    intro caseless
    refine caseless.2 ?_
    unfold Char.isAlpha Char.isLower
    simp only [Bool.or_eq_true, Bool.and_eq_true, decide_eq_true_eq,
      UInt32.le_iff_toNat_le, ge_iff_le] at upper ⊢
    refine .inr ?_
    simp [UInt32.toNat_add] at upper ⊢
    omega
  case isFalse other => exact cased

/-- The tables of ASCII and of the sigma. -/
def ascii : UnicodeCase where
  toLower char := if char = 'Σ' then ['σ'] else [char.toLower]
  toUpper char := if char = 'σ' ∨ char = 'ς' then ['Σ'] else [char.toUpper]
  isCased := Char.isAlpha
  isCaseIgnorable _ := false
  toLower_ne_nil char := by split <;> exact List.cons_ne_nil _ _
  toUpper_ne_nil char := by split <;> exact List.cons_ne_nil _ _
  toLower_caseless := by
    intro char caseless
    rw [if_neg (by rintro rfl; exact absurd caseless (by decide)),
      toLower_of_caseless caseless]
  toUpper_caseless := by
    intro char caseless
    rw [if_neg (by rintro (rfl | rfl) <;> exact absurd caseless (by decide)),
      toUpper_of_caseless caseless]
  not_caseless_toLower := by
    intro char cased image member
    split at member
    · rw [List.mem_singleton.mp member]
      decide
    · rw [List.mem_singleton.mp member]
      exact not_caseless_asciiLower cased
  toLower_sigma := rfl
  toUpper_sigma := rfl
  toUpper_finalSigma := rfl

end Ascii

end UnicodeCase
