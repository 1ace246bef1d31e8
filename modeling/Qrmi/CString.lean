import Qrmi.RustText

/-!
# C strings

A C string is a sequence of bytes without a zero byte.  It is decoded as UTF-8; the
positions of malformed bytes only matter for texts shown to a reader.
-/

/-- A nul-terminated string: the bytes in front of its terminator. -/
structure CStr where
  bytes : List UInt8
  noNul : 0 ∉ bytes

/-- The text of a byte sequence that is valid UTF-8. -/
def decodeUtf8 (bytes : List UInt8) : Option Text :=
  (String.fromUTF8? bytes.toByteArray).map String.toList

/-- The length of the character that a byte starts, or zero. -/
def utf8CharWidth (first : UInt8) : Nat :=
  if first < 0x80 then 1
  else if 0xC2 ≤ first ∧ first ≤ 0xDF then 2
  else if 0xE0 ≤ first ∧ first ≤ 0xEF then 3
  else if 0xF0 ≤ first ∧ first ≤ 0xF4 then 4
  else 0

/-- The bytes that may follow the first one of a longer character. -/
def allowsSecond (first second : UInt8) : Bool :=
  let low := if first = 0xE0 then 0xA0 else if first = 0xF0 then 0x90 else 0x80
  let high := if first = 0xED then 0x9F else if first = 0xF4 then 0x8F else 0xBF
  low ≤ second && second ≤ high

/-- `Utf8Error::error_len` of bytes that start no character: the length of their
longest start of a character, or nothing when they end inside of one. -/
def malformedLength : List UInt8 → Option Nat
  | [] => none
  | first :: rest =>
      if utf8CharWidth first = 0 then some 1
      else
        match rest with
        | [] => none
        | second :: rest =>
            if !allowsSecond first second then some 1
            else
              match rest with
              | [] => none
              | third :: rest =>
                  if !(0x80 ≤ third && third ≤ 0xBF) then some 2
                  else if rest = [] then none
                  else some 3

/-- The characters and the malformed parts of a byte sequence, in order. -/
def utf8Chunks : Nat → List UInt8 → List (Except (Option Nat) Char)
  | 0, _ => []
  | _, [] => []
  | fuel + 1, first :: rest =>
      let bytes := first :: rest
      match decodeUtf8 (bytes.take (utf8CharWidth first)) with
      | some [char] => .ok char :: utf8Chunks fuel (bytes.drop (utf8CharWidth first))
      | _ =>
          match malformedLength bytes with
          | some length => .error (some length) :: utf8Chunks fuel (bytes.drop length)
          | none => [.error none]

/-- The `Display` text of a `Utf8Error`. -/
def describeUtf8Error : Nat → List (Except (Option Nat) Char) → String
  | _, [] => ""
  | index, .ok char :: rest => describeUtf8Error (index + char.utf8Size) rest
  | index, .error (some length) :: _ =>
      s!"invalid utf-8 sequence of {length} bytes from index {index}"
  | index, .error none :: _ => s!"incomplete utf-8 byte sequence from index {index}"

namespace CStr

/-- `CStr::to_str`. -/
def toStr (string : CStr) : Option Text :=
  decodeUtf8 string.bytes

/-- `CStr::to_string_lossy`. -/
def toStringLossy (string : CStr) : Text :=
  (utf8Chunks string.bytes.length string.bytes).map fun chunk =>
    match chunk with
    | .ok char => char
    | .error _ => '\uFFFD'

/-- The text of the error of `CStr::to_str`. -/
def utf8Error (string : CStr) : String :=
  describeUtf8Error 0 (utf8Chunks string.bytes.length string.bytes)

end CStr

example : (CStr.mk [0x61, 0xE2, 0x82, 0x62, 0xFF] (by decide)).toStringLossy =
    ['a', '\uFFFD', 'b', '\uFFFD'] := by
  decide +kernel
