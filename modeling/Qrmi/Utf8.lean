import Qrmi.RustText

/-!
# Text and its bytes

The UTF-8 encoding of a text, and the texts that a sequence of bytes encodes.
-/

namespace Text

/-- `str::as_bytes`. -/
def utf8 (text : Text) : List UInt8 :=
  text.flatMap String.utf8EncodeChar

/-- `str::from_utf8`. -/
def ofUtf8 (bytes : List UInt8) : Option Text :=
  bytes.toByteArray.utf8Decode?.map Array.toList

@[simp]
theorem utf8_nil : utf8 [] = [] :=
  rfl

@[simp]
theorem utf8_append (first second : Text) :
    utf8 (first ++ second) = utf8 first ++ utf8 second :=
  List.flatMap_append

@[simp]
theorem utf8_singleton (char : Char) : utf8 [char] = String.utf8EncodeChar char :=
  List.flatMap_singleton ..

@[simp]
theorem length_utf8 (text : Text) : (utf8 text).length = byteLength text := by
  simp [utf8, byteLength, List.length_flatMap]

theorem utf8Encode_eq (text : Text) : text.utf8Encode = (utf8 text).toByteArray :=
  rfl

@[simp]
theorem ofUtf8_utf8 (text : Text) : ofUtf8 (utf8 text) = some text := by
  rw [ofUtf8, ← utf8Encode_eq, List.utf8Decode?_utf8Encode]
  rfl

/-- Decoding recovers exactly the text that was encoded. -/
theorem ofUtf8_eq_some_iff {bytes : List UInt8} {text : Text} :
    ofUtf8 bytes = some text ↔ utf8 text = bytes := by
  constructor
  · intro decoded
    obtain ⟨chars, found, rfl⟩ := Option.map_eq_some_iff.mp decoded
    have encoded : chars.toList.utf8Encode = bytes.toByteArray := by
      have valid : bytes.toByteArray.utf8Decode?.isSome := by rw [found]; rfl
      have roundTrip := ByteArray.utf8Encode_get_utf8Decode? (h := valid)
      rwa [Option.get_of_eq_some valid found] at roundTrip
    exact List.toByteArray_inj.mp ((utf8Encode_eq _).symm.trans encoded)
  · rintro rfl
    exact ofUtf8_utf8 text

/-- The byte of an ASCII character occurs in the encoding of that character only:
every byte of a longer encoding has its high bit set. -/
theorem eq_of_mem_utf8EncodeChar {char ascii : Char} (isAscii : ascii.toNat < 128)
    (member : UInt8.ofNat ascii.toNat ∈ String.utf8EncodeChar char) : char = ascii := by
  have byteValue {number : Nat} (equal : UInt8.ofNat ascii.toNat = UInt8.ofNat number) :
      ascii.toNat = number % 256 := by
    have values := congrArg UInt8.toNat equal
    rw [UInt8.toNat_ofNat', UInt8.toNat_ofNat', Nat.mod_eq_of_lt (by omega)] at values
    exact values
  unfold String.utf8EncodeChar at member
  dsimp only at member
  split at member
  · rename_i small
    have same := byteValue (List.mem_singleton.mp member)
    apply Char.toNat_inj.mp
    change char.val.toNat = _
    omega
  · have contradiction : ∀ number, 128 ≤ number → number < 256 →
        UInt8.ofNat ascii.toNat ≠ UInt8.ofNat number := by
      intro number large fits equal
      have same := byteValue equal
      omega
    exfalso
    split at member
    · simp only [List.mem_cons, List.not_mem_nil, or_false] at member
      rcases member with equal | equal <;>
        exact contradiction _ (by omega) (by omega) equal
    · split at member
      · simp only [List.mem_cons, List.not_mem_nil, or_false] at member
        rcases member with equal | equal | equal <;>
          exact contradiction _ (by omega) (by omega) equal
      · simp only [List.mem_cons, List.not_mem_nil, or_false] at member
        rcases member with equal | equal | equal | equal <;>
          exact contradiction _ (by omega) (by omega) equal

theorem utf8EncodeChar_ascii {ascii : Char} (isAscii : ascii.toNat < 128) :
    String.utf8EncodeChar ascii = [UInt8.ofNat ascii.toNat] :=
  if_pos (Nat.le_of_lt_succ isAscii)

theorem mem_utf8_iff {text : Text} {ascii : Char} (isAscii : ascii.toNat < 128) :
    UInt8.ofNat ascii.toNat ∈ utf8 text ↔ ascii ∈ text := by
  rw [utf8, List.mem_flatMap]
  constructor
  · rintro ⟨char, member, inEncoding⟩
    rwa [← eq_of_mem_utf8EncodeChar isAscii inEncoding]
  · intro member
    refine ⟨ascii, member, ?_⟩
    rw [utf8EncodeChar_ascii isAscii]
    exact List.mem_singleton_self _

end Text
