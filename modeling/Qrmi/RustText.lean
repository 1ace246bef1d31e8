import Mathlib.Algebra.Order.Ring.Nat
import Mathlib.Data.List.DropRight
import Mathlib.Tactic.Common

/-!
# Text as the Rust standard library treats it

Text is a list of Unicode scalar values.  The functions below are the parts of
`str` and of the integer parsers that the clients call.
-/

/-- A Rust string. -/
abbrev Text : Type :=
  List Char

/-- Texts are compared character by character. -/
instance : LawfulBEq Text :=
  inferInstance

namespace Text

/-- `char::is_whitespace`: the Unicode property White_Space. -/
def isWhitespace (char : Char) : Bool :=
  let point := char.toNat
  (9 ≤ point && point ≤ 13) || point == 32 || point == 0x85 ||
    point == 0xA0 || point == 0x1680 || (0x2000 ≤ point && point ≤ 0x200A) ||
    point == 0x2028 || point == 0x2029 || point == 0x202F ||
    point == 0x205F || point == 0x3000

/-- The code points of White_Space. -/
def whitespacePoints : List Nat :=
  [9, 10, 11, 12, 13, 32, 0x85, 0xA0, 0x1680, 0x2000, 0x2001, 0x2002, 0x2003,
    0x2004, 0x2005, 0x2006, 0x2007, 0x2008, 0x2009, 0x200A, 0x2028, 0x2029,
    0x202F, 0x205F, 0x3000]

theorem toNat_mem_whitespacePoints {char : Char} (white : isWhitespace char = true) :
    char.toNat ∈ whitespacePoints := by
  simp only [isWhitespace, Bool.or_eq_true, Bool.and_eq_true, decide_eq_true_eq,
    beq_iff_eq] at white
  simp only [whitespacePoints, List.mem_cons, List.not_mem_nil, or_false]
  omega

/-- `str::trim`. -/
def trim (text : Text) : Text :=
  (text.dropWhile isWhitespace).rdropWhile isWhitespace

/-- `str::strip_prefix`. -/
def stripPrefix (start text : Text) : Option Text :=
  if start.isPrefixOf text then some (text.drop start.length) else none

@[simp]
theorem stripPrefix_append (start rest : Text) :
    stripPrefix start (start ++ rest) = some rest := by
  simp [stripPrefix]

/-- `text.replace(['\n', '\r'], " ")`. -/
def replaceLineBreaks (text : Text) : Text :=
  text.map fun char => if char = '\n' ∨ char = '\r' then ' ' else char

/-- `str::eq_ignore_ascii_case`. -/
def eqIgnoreAsciiCase (first second : Text) : Bool :=
  first.map Char.toLower == second.map Char.toLower

/-- `str::contains` with a string pattern. -/
def contains (text pattern : Text) : Bool :=
  text.tails.any fun rest => pattern.isPrefixOf rest

/-- The pieces between the occurrences of a pattern.  The number counts the
characters of an occurrence that are still to be skipped. -/
def splitLoop (pattern : Text) : Nat → Text → Text → List Text
  | _, current, [] => [current]
  | skip + 1, current, _ :: rest => splitLoop pattern skip current rest
  | 0, current, char :: rest =>
      if pattern.isPrefixOf (char :: rest) then
        current :: splitLoop pattern (pattern.length - 1) [] rest
      else
        splitLoop pattern 0 (current ++ [char]) rest

/-- `str::split` with a string pattern.  The empty pattern occurs around every
character. -/
def split (pattern text : Text) : List Text :=
  if pattern = [] then [] :: text.map (fun char => [char]) ++ [[]]
  else splitLoop pattern 0 [] text

theorem splitLoop_ne_nil (pattern : Text) (skip : Nat) (current text : Text) :
    splitLoop pattern skip current text ≠ [] := by
  induction text generalizing skip current with
  | nil => simp [splitLoop]
  | cons char rest ih =>
      cases skip with
      | succ skip => exact ih skip current
      | zero =>
          rw [splitLoop]
          split
          · simp
          · exact ih 0 _

theorem split_ne_nil (pattern text : Text) : split pattern text ≠ [] := by
  unfold split
  split
  · simp
  · exact splitLoop_ne_nil pattern 0 [] text

theorem split_nil {pattern : Text} (nonempty : pattern ≠ []) :
    split pattern [] = [[]] := by
  simp [split, splitLoop, nonempty]

/-- `str::split_once` with a character. -/
def splitOnce (separator : Char) (text : Text) : Option (Text × Text) :=
  match text.dropWhile (· ≠ separator) with
  | [] => none
  | _ :: rest => some (text.takeWhile (· ≠ separator), rest)

/-- `strip_suffix('\r')`, or the text as it is. -/
def stripReturn (text : Text) : Text :=
  if text.getLast? = some '\r' then text.dropLast else text

/-- The lines of a text behind the part of the current line that has been read. -/
def linesLoop : Text → Text → List Text
  | current, [] => if current = [] then [] else [current]
  | current, char :: rest =>
      if char = '\n' then stripReturn current :: linesLoop [] rest
      else linesLoop (current ++ [char]) rest

/-- `str::lines`. -/
def lines (text : Text) : List Text :=
  linesLoop [] text

example : lines "a\r\nb\n\nc\r".toList =
    ["a".toList, "b".toList, [], "c\r".toList] := by
  decide

/-- Trimming removes everything there is to remove. -/
theorem trim_trim (text : Text) : trim (trim text) = trim text := by
  have started : (trim text).dropWhile isWhitespace = trim text := by
    refine List.dropWhile_eq_self_iff.mpr fun nonempty => ?_
    have front : trim text <+: text.dropWhile isWhitespace := List.rdropWhile_prefix ..
    have longer : 0 < (text.dropWhile isWhitespace).length :=
      Nat.lt_of_lt_of_le nonempty front.length_le
    rw [front.getElem nonempty]
    exact List.dropWhile_get_zero_not isWhitespace text longer
  rw [trim, started, trim, List.rdropWhile_idempotent]

theorem trim_cons_of_isWhitespace {char : Char} (white : isWhitespace char = true)
    (text : Text) : trim (char :: text) = trim text := by
  rw [trim, trim, List.dropWhile_cons_of_pos white]

theorem trim_concat_of_isWhitespace {char : Char} (white : isWhitespace char = true)
    (text : Text) : trim (text ++ [char]) = trim text := by
  rw [trim, trim, List.dropWhile_append]
  split
  · rename_i empty
    rw [List.isEmpty_iff.mp empty, List.dropWhile_cons_of_pos white]
    rfl
  · exact List.rdropWhile_concat_pos _ _ _ white

/-- A text without whitespace at its ends is its own trimming. -/
theorem trim_eq_self {text : Text}
    (starts : ∀ char ∈ text.head?, isWhitespace char = false)
    (ends : ∀ char ∈ text.getLast?, isWhitespace char = false) : trim text = text := by
  have started : text.dropWhile isWhitespace = text := by
    cases text with
    | nil => rfl
    | cons char rest => exact List.dropWhile_cons_of_neg (by simp [starts char rfl])
  rw [trim, started]
  refine List.rdropWhile_eq_self_iff.mpr fun nonempty => ?_
  rw [ends _ (List.getLast?_eq_some_getLast nonempty)]
  exact Bool.false_ne_true

/-- Whitespace around a text does not survive its trimming. -/
theorem trim_padded {lead tail : Text} (white : ∀ char ∈ lead, isWhitespace char = true)
    (whiteTail : ∀ char ∈ tail, isWhitespace char = true) (text : Text) :
    trim (lead ++ text ++ tail) = trim text := by
  have noLead : ∀ rest, trim (lead ++ rest) = trim rest := by
    intro rest
    induction lead with
    | nil => rfl
    | cons char lead ih =>
        obtain ⟨first, others⟩ := List.forall_mem_cons.mp white
        rw [List.cons_append, trim_cons_of_isWhitespace first, ih others]
  rw [List.append_assoc, noLead]
  induction tail using List.reverseRecOn with
  | nil => rw [List.append_nil]
  | append_singleton tail char ih =>
      rw [List.forall_mem_append, List.forall_mem_singleton] at whiteTail
      rw [← List.append_assoc, trim_concat_of_isWhitespace whiteTail.2, ih whiteTail.1]

/-- A text is its trimming between two pieces of whitespace. -/
theorem exists_padding (text : Text) : ∃ lead tail : Text,
    (∀ char ∈ lead, isWhitespace char = true) ∧
      (∀ char ∈ tail, isWhitespace char = true) ∧ text = lead ++ trim text ++ tail := by
  refine ⟨text.takeWhile isWhitespace, (text.dropWhile isWhitespace).rtakeWhile isWhitespace,
    fun _ member => (List.mem_takeWhile_imp member), fun _ member =>
      List.mem_rtakeWhile_imp member, ?_⟩
  rw [trim, List.append_assoc, List.rdropWhile_append_rtakeWhile,
    List.takeWhile_append_dropWhile]

theorem splitOnce_append {separator : Char} {front : Text} (absent : separator ∉ front)
    (rest : Text) : splitOnce separator (front ++ separator :: rest) = some (front, rest) := by
  have others : ∀ char ∈ front, decide (char ≠ separator) = true := fun char member =>
    decide_eq_true fun same => absent (same ▸ member)
  rw [splitOnce, List.dropWhile_append_of_pos others, List.takeWhile_append_of_pos others]
  simp

theorem splitOnce_eq_none {separator : Char} {text : Text} (absent : separator ∉ text) :
    splitOnce separator text = none := by
  have dropped : text.dropWhile (· ≠ separator) = [] :=
    List.dropWhile_eq_nil_iff.mpr fun char member =>
      decide_eq_true fun same => absent (same ▸ member)
  rw [splitOnce, dropped]

example : split ", ".toList "a, b,, ".toList = ["a".toList, "b,".toList, []] := by
  decide

/-- One byte of `application/x-www-form-urlencoded` text. -/
def urlencodeByte (byte : UInt8) : Text :=
  let char := Char.ofNat byte.toNat
  if char.isAlphanum ∨ char ∈ ['*', '-', '.', '_'] then [char]
  else if char = ' ' then ['+']
  else
    let hex := fun digit => (Nat.digitChar digit).toUpper
    ['%', hex (byte.toNat / 16), hex (byte.toNat % 16)]

/-- `form_urlencoded::byte_serialize` of the UTF-8 encoding. -/
def urlencode (text : Text) : Text :=
  (String.ofList text).toUTF8.toList.flatMap urlencodeByte

/-- `replacen` of one character by another. -/
def replacen (old new : Char) : Nat → Text → Text
  | 0, text => text
  | _ + 1, [] => []
  | count + 1, char :: text =>
      if char = old then new :: replacen old new count text
      else char :: replacen old new (count + 1) text

/-- Nothing is replaced in front of the first occurrence. -/
theorem replacen_append {old new : Char} {front : Text} (absent : old ∉ front) (count : Nat)
    (text : Text) :
    replacen old new count (front ++ text) = front ++ replacen old new count text := by
  cases count with
  | zero => simp only [replacen]
  | succ count =>
      induction front with
      | nil => rfl
      | cons char front ih =>
          rw [List.mem_cons, not_or] at absent
          rw [List.cons_append, replacen, if_neg (Ne.symm absent.1), ih absent.2]
          rfl

/-- The number of bytes of the UTF-8 encoding, which is `String::len`. -/
def byteLength (text : Text) : Nat :=
  (text.map Char.utf8Size).sum

/-- `to_string` of an unsigned integer. -/
def showUnsigned (number : Nat) : Text :=
  Nat.toDigits 10 number

/-- The digits after an optional plus sign. -/
def stripPlus : Text → Text
  | '+' :: rest => rest
  | text => text

/-- `from_str` of an unsigned integer type with the given number of values: an
optional plus sign, then one or more decimal digits. -/
def parseUnsigned (bound : Nat) (text : Text) : Option Nat :=
  let digits := stripPlus text
  if digits = [] ∨ digits.any (fun char => !char.isDigit) then none
  else
    let value := Nat.ofDigitChars 10 digits 0
    if value < bound then some value else none

/-- `parse::<u32>()`. -/
def parseU32 (text : Text) : Option UInt32 :=
  (parseUnsigned (2 ^ 32) text).map UInt32.ofNat

/-- `parse::<i32>()`. -/
def parseI32 : Text → Option Int
  | '-' :: digits =>
      if digits.head? = some '+' then none
      else (parseUnsigned (2 ^ 31 + 1) digits).map fun value => -(value : Int)
  | text => (parseUnsigned (2 ^ 31) text).map fun value => (value : Int)

/-- `parse::<i64>()`. -/
def parseI64 : Text → Option Int
  | '-' :: digits =>
      if digits.head? = some '+' then none
      else (parseUnsigned (2 ^ 63 + 1) digits).map fun value => -(value : Int)
  | text => (parseUnsigned (2 ^ 63) text).map fun value => (value : Int)

/-- The digits of an integer, with the message of the first failure. -/
def readDigits (bound : Nat) (overflow : String) : Nat → Text → Except String Nat
  | value, [] => .ok value
  | value, digit :: rest =>
      if digit.isDigit then
        let next := value * 10 + (digit.toNat - '0'.toNat)
        if next < bound then readDigits bound overflow next rest else .error overflow
      else .error "invalid digit found in string"

/-- The digits after the sign, of which there is at least one. -/
def readMagnitude (bound : Nat) (overflow : String) : Text → Except String Nat
  | [] => .error "invalid digit found in string"
  | digits => readDigits bound overflow 0 digits

def tooLarge : String :=
  "number too large to fit in target type"

def tooSmall : String :=
  "number too small to fit in target type"

/-- `u32::from_str`. -/
def readU32 : Text → Except String Nat
  | [] => .error "cannot parse integer from empty string"
  | '+' :: digits => readMagnitude (2 ^ 32) tooLarge digits
  | digits => readMagnitude (2 ^ 32) tooLarge digits

/-- `i64::from_str`. -/
def readI64 : Text → Except String Int
  | [] => .error "cannot parse integer from empty string"
  | '+' :: digits => (readMagnitude (2 ^ 63) tooLarge digits).map Int.ofNat
  | '-' :: digits =>
      (readMagnitude (2 ^ 63 + 1) tooSmall digits).map fun magnitude : Nat => -(magnitude : Int)
  | digits => (readMagnitude (2 ^ 63) tooLarge digits).map Int.ofNat

example : readI64 "-9223372036854775808".toList = .ok (-9223372036854775808) := by
  decide

/-- `i32::to_string`. -/
def showInt (number : Int) : Text :=
  (toString number).toList

/-- `u32::to_string`. -/
def showU32 (number : UInt32) : Text :=
  showUnsigned number.toNat

theorem stripPlus_showUnsigned (number : Nat) :
    stripPlus (showUnsigned number) = showUnsigned number := by
  unfold stripPlus
  split
  · rename_i rest equal
    have member : '+' ∈ Nat.toDigits 10 number := by
      change '+' ∈ showUnsigned number
      simp [equal]
    have plusIsDigit : ('+').isDigit = true :=
      Nat.isDigit_of_mem_toDigits (by decide) (by decide) member
    simp at plusIsDigit
  · rfl

/-- Displayed integers are parsed back to the same integer. -/
theorem parseUnsigned_showUnsigned {bound number : Nat}
    (fits : number < bound) :
    parseUnsigned bound (showUnsigned number) = some number := by
  have nonempty : showUnsigned number ≠ [] := Nat.toDigits_ne_nil
  have allDigits : (showUnsigned number).any (fun char => !char.isDigit) =
      false := by
    rw [List.any_eq_false]
    intro char member
    simp [Nat.isDigit_of_mem_toDigits (by decide) (by decide) member]
  have value : Nat.ofDigitChars 10 (showUnsigned number) 0 = number :=
    Nat.ofDigitChars_ten_toDigits
  simp [parseUnsigned, stripPlus_showUnsigned, nonempty, allDigits, value, fits]

theorem showInt_natCast (number : Nat) : showInt number = showUnsigned number := by
  change (Nat.repr number).toList = Nat.toDigits 10 number
  rw [Nat.repr, String.toList_ofList]

theorem showUnsigned_injective : Function.Injective showUnsigned := by
  intro first second same
  have values := congrArg (fun digits => Nat.ofDigitChars 10 digits 0) same
  simpa only [showUnsigned, Nat.ofDigitChars_ten_toDigits] using values

/-- A text that denotes an integer: decimal digits behind an optional sign. -/
inductive DenotesInteger : Text → Int → Prop
  | plain {digits : Text} (nonempty : digits ≠ [])
      (allDigits : ∀ char ∈ digits, char.isDigit) :
      DenotesInteger digits (Nat.ofDigitChars 10 digits 0)
  | plus {digits : Text} (nonempty : digits ≠ [])
      (allDigits : ∀ char ∈ digits, char.isDigit) :
      DenotesInteger ('+' :: digits) (Nat.ofDigitChars 10 digits 0)
  | minus {digits : Text} (nonempty : digits ≠ [])
      (allDigits : ∀ char ∈ digits, char.isDigit) :
      DenotesInteger ('-' :: digits) (-Nat.ofDigitChars 10 digits 0)

theorem stripPlus_of_digits {digits : Text} (allDigits : ∀ char ∈ digits, char.isDigit) :
    stripPlus digits = digits := by
  unfold stripPlus
  split
  · have plusIsDigit := allDigits '+' (List.mem_cons_self ..)
    cases plusIsDigit
  · rfl

theorem parseUnsigned_of_digits (bound : Nat) {text digits : Text}
    (stripped : stripPlus text = digits) (nonempty : digits ≠ [])
    (allDigits : ∀ char ∈ digits, char.isDigit) :
    parseUnsigned bound text =
      if Nat.ofDigitChars 10 digits 0 < bound then some (Nat.ofDigitChars 10 digits 0)
      else none := by
  have wellFormed : ¬ (digits = [] ∨ digits.any (fun char => !char.isDigit) = true) := by
    simpa [nonempty] using allDigits
  unfold parseUnsigned
  rw [stripped]
  exact if_neg wellFormed

/-- An integer is parsed exactly when it is in range. -/
theorem parseI64_of_denotesInteger {text : Text} {value : Int}
    (denotes : DenotesInteger text value) :
    parseI64 text = if -2 ^ 63 ≤ value ∧ value < 2 ^ 63 then some value else none := by
  cases denotes with
  | plain nonempty allDigits =>
      have parsed := parseUnsigned_of_digits (2 ^ 63)
        (stripPlus_of_digits allDigits) nonempty allDigits
      unfold parseI64
      split
      · have minusIsDigit := allDigits '-' (List.mem_cons_self ..)
        cases minusIsDigit
      · rw [parsed]
        split <;> split <;> first | rfl | omega
  | @plus digits nonempty allDigits =>
      have stripped : stripPlus ('+' :: digits) = digits := rfl
      have parsed := parseUnsigned_of_digits (2 ^ 63) stripped nonempty allDigits
      unfold parseI64
      split
      · rename_i equal
        cases equal
      · rw [parsed]
        split <;> split <;> first | rfl | omega
  | @minus digits nonempty allDigits =>
      have parsed := parseUnsigned_of_digits (2 ^ 63 + 1)
        (stripPlus_of_digits allDigits) nonempty allDigits
      have unsigned : digits.head? ≠ some '+' := by
        intro signed
        have plusIsDigit := allDigits '+' (List.mem_of_mem_head? signed)
        cases plusIsDigit
      rw [parseI64, if_neg unsigned, parsed]
      split <;> split <;> first | rfl | omega

theorem stripPlus_eq_self {text : Text} (unsigned : text.head? ≠ some '+') :
    stripPlus text = text := by
  unfold stripPlus
  split
  · exact absurd rfl unsigned
  · rfl

theorem le_ofDigitChars (digits : Text) (value : Nat) :
    value ≤ Nat.ofDigitChars 10 digits value := by
  induction digits generalizing value with
  | nil => rw [Nat.ofDigitChars_nil]
  | cons digit digits ih =>
      rw [Nat.ofDigitChars_cons]
      exact le_trans (by omega) (ih _)

/-- A number that exceeds its type after some digits exceeds it after all of them. -/
theorem toOption_readDigits {bound value : Nat} (overflow : String) (digits : Text)
    (small : value < bound) :
    (readDigits bound overflow value digits).toOption =
      if digits.any (fun char => !char.isDigit) then none
      else if Nat.ofDigitChars 10 digits value < bound then
        some (Nat.ofDigitChars 10 digits value)
      else none := by
  induction digits generalizing value with
  | nil =>
      rw [Nat.ofDigitChars_nil, if_pos small]
      rfl
  | cons digit digits ih =>
      rw [readDigits, List.any_cons, Nat.ofDigitChars_cons]
      cases isDigit : digit.isDigit with
      | false => rfl
      | true =>
          by_cases fits : value * 10 + (digit.toNat - '0'.toNat) < bound
          · have next := ih fits
            simp only [mul_comm value, if_true] at fits next ⊢
            rw [if_pos fits, next]
            rfl
          · have large := le_ofDigitChars digits (10 * value + (digit.toNat - '0'.toNat))
            have exceeds : ¬ Nat.ofDigitChars 10 digits
                (10 * value + (digit.toNat - '0'.toNat)) < bound := by omega
            simp only [if_true, if_neg fits, if_neg exceeds, ite_self]
            rfl

theorem toOption_readMagnitude {bound : Nat} (positive : 0 < bound) (overflow : String)
    {text digits : Text} (stripped : stripPlus text = digits) :
    (readMagnitude bound overflow digits).toOption = parseUnsigned bound text := by
  rw [parseUnsigned, stripped]
  cases digits with
  | nil => rfl
  | cons digit rest =>
      have read := toOption_readDigits overflow (digit :: rest) positive
      simp only [reduceCtorEq, false_or]
      exact read

theorem toOption_map {ε α β : Type} (change : α → β) (outcome : Except ε α) :
    (outcome.map change).toOption = outcome.toOption.map change := by
  cases outcome <;> rfl

theorem parseI64_of_head?_ne {text : Text} (unsigned : text.head? ≠ some '-') :
    parseI64 text = (parseUnsigned (2 ^ 63) text).map Int.ofNat := by
  unfold parseI64
  split
  · exact absurd rfl unsigned
  · cases parseUnsigned (2 ^ 63) _ <;> rfl

/-- What is read with its failures is what is parsed. -/
theorem toOption_readI64 (text : Text) : (readI64 text).toOption = parseI64 text := by
  unfold readI64
  split
  · rfl
  · rename_i digits
    have read : (readMagnitude (2 ^ 63) tooLarge digits).toOption =
        parseUnsigned (2 ^ 63) ('+' :: digits) :=
      toOption_readMagnitude (Nat.two_pow_pos 63) tooLarge rfl
    rw [toOption_map, read, parseI64_of_head?_ne (by simp)]
  · rename_i digits
    rw [toOption_map]
    by_cases signed : digits.head? = some '+'
    · -- A second sign is no digit.
      obtain ⟨rest, rfl⟩ := List.head?_eq_some_iff.mp signed
      rfl
    · have read : (readMagnitude (2 ^ 63 + 1) tooSmall digits).toOption =
          parseUnsigned (2 ^ 63 + 1) digits :=
        toOption_readMagnitude (Nat.succ_pos _) tooSmall (stripPlus_eq_self signed)
      rw [parseI64, if_neg signed, read]
      cases parseUnsigned (2 ^ 63 + 1) digits <;> rfl
  · rename_i nonempty notPlus notMinus
    have unsigned : text.head? ≠ some '+' := by
      intro signed
      obtain ⟨digits, written⟩ := List.head?_eq_some_iff.mp signed
      exact notPlus digits written
    have positive : text.head? ≠ some '-' := by
      intro signed
      obtain ⟨digits, written⟩ := List.head?_eq_some_iff.mp signed
      exact notMinus digits written
    rw [toOption_map, parseI64_of_head?_ne positive,
      toOption_readMagnitude (Nat.two_pow_pos 63) tooLarge (stripPlus_eq_self unsigned)]

@[simp]
theorem parseU32_showU32 (number : UInt32) :
    parseU32 (showU32 number) = some number := by
  simp [parseU32, showU32, parseUnsigned_showUnsigned number.toNat_lt]

/-- Control and format characters, spaces other than the common one, and characters for
private use. -/
def hiddenRanges : List (Nat × Nat) :=
  [(0, 0x1F), (0x7F, 0xA0), (0xAD, 0xAD), (0x600, 0x605), (0x61C, 0x61C), (0x6DD, 0x6DD),
    (0x70F, 0x70F), (0x890, 0x891), (0x8E2, 0x8E2), (0x1680, 0x1680), (0x180E, 0x180E),
    (0x2000, 0x200F), (0x2028, 0x202F), (0x205F, 0x206F), (0x3000, 0x3000),
    (0xE000, 0xF8FF), (0xFEFF, 0xFEFF), (0xFFF9, 0xFFFB), (0x110BD, 0x110BD),
    (0x110CD, 0x110CD), (0x13430, 0x1343F), (0x1BCA0, 0x1BCA3), (0x1D173, 0x1D17A),
    (0xE0001, 0xE0001), (0xE0020, 0xE007F), (0xF0000, 0x10FFFF)]

def isHidden (char : Char) : Bool :=
  hiddenRanges.any fun range => range.1 ≤ char.toNat && char.toNat ≤ range.2

/-- The `Debug` rendering of one character inside a string literal.  The table of printable
characters is that of assigned characters: unassigned ones and combining marks, which
depend on the version of Unicode, are left as they are. -/
def debugChar (char : Char) : String :=
  match char with
  | '"' => "\\\""
  | '\\' => "\\\\"
  | '\n' => "\\n"
  | '\r' => "\\r"
  | '\t' => "\\t"
  | '\x00' => "\\0"
  | other =>
      if isHidden other then
        "\\u\x7b" ++ String.ofList (Nat.toDigits 16 other.toNat) ++ "\x7d"
      else other.toString

/-- The `Debug` rendering of a string. -/
def debug (text : Text) : String :=
  "\"" ++ String.join (text.map debugChar) ++ "\""

end Text
