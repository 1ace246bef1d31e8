import Qrmi.MaestroSession
import Qrmi.Utf8

/-!
# The transport of the Maestro socket

A server answers a command with a stream of bytes and closes the connection.  The
client reads at most one line of it, within a bound, in whatever pieces the socket
delivers them.
-/

namespace Maestro

open Interaction

/-- What one read of a socket delivers.  An empty read is the end of the stream. -/
structure Chunk where
  bytes : List UInt8
  nonempty : bytes ≠ []

/-- All the bytes that the server sends before it closes the connection. -/
def received (chunks : List Chunk) : List UInt8 :=
  chunks.flatMap Chunk.bytes

def newline : UInt8 :=
  UInt8.ofNat '\n'.toNat

/-- Largest task result a Maestro server sends. -/
def MAX_RESULT_BYTES : Nat :=
  64 * 1024 * 1024 + 64 * 1024

/-- A reply line wraps a result; the rest is spare. -/
def MAX_RESPONSE_BYTES : Nat :=
  MAX_RESULT_BYTES + 4096

/-- `read_until` of a reader that is limited by `take`: it goes from buffer to buffer
until it has found the delimiter, or a buffer is empty. -/
def readUntil (delimiter : UInt8) : Nat → List Chunk → List UInt8
  | _, [] => []
  | limit, chunk :: chunks =>
      let available := chunk.bytes.take limit
      if delimiter ∈ available then available.takeWhile (· ≠ delimiter) ++ [delimiter]
      else if available = [] then []
      else available ++ readUntil delimiter (limit - available.length) chunks

/-- `exchange`, given what the server sends in reply. -/
def exchange (chunks : List Chunk) : Reply :=
  let bytes := readUntil newline (MAX_RESPONSE_BYTES + 1) chunks
  match Text.ofUtf8 bytes with
  | none => .error "stream did not contain valid UTF-8"
  | some response =>
      if bytes.length = 0 then
        .error "server closed the connection without a response"
      else if MAX_RESPONSE_BYTES < Text.byteLength response ∨
          response.getLast? ≠ some '\n' then
        .error "Oversized or truncated Maestro response"
      else .ok response

/-- The bytes up to and including the first delimiter, or all of them. -/
def upTo (delimiter : UInt8) (bytes : List UInt8) : List UInt8 :=
  if delimiter ∈ bytes then bytes.takeWhile (· ≠ delimiter) ++ [delimiter] else bytes

theorem upTo_append_of_notMem {delimiter : UInt8} {first : List UInt8}
    (absent : delimiter ∉ first) (second : List UInt8) :
    upTo delimiter (first ++ second) = first ++ upTo delimiter second := by
  have passed : ∀ byte ∈ first, decide (byte ≠ delimiter) = true := by
    intro byte member
    exact decide_eq_true fun equal => absent (equal ▸ member)
  unfold upTo
  by_cases found : delimiter ∈ second
  · rw [if_pos (List.mem_append_right _ found), if_pos found,
      List.takeWhile_append_of_pos passed, List.append_assoc]
  · rw [if_neg found, if_neg]
    simp [absent, found]

theorem upTo_line {delimiter : UInt8} {content : List UInt8} (absent : delimiter ∉ content)
    (rest : List UInt8) :
    upTo delimiter (content ++ delimiter :: rest) = content ++ [delimiter] := by
  rw [upTo_append_of_notMem absent, upTo, if_pos (List.mem_cons_self ..),
    List.takeWhile_cons_of_neg (by simp)]
  rfl

theorem upTo_of_mem {delimiter : UInt8} {first : List UInt8} (found : delimiter ∈ first)
    (second : List UInt8) : upTo delimiter (first ++ second) = upTo delimiter first := by
  obtain ⟨content, rest, rfl, absent⟩ := List.eq_append_cons_of_mem found
  rw [List.append_assoc, List.cons_append, upTo_line absent, upTo_line absent]

/-- The chunking does not matter: the reader returns the first line of what fits the
limit. -/
theorem readUntil_eq (delimiter : UInt8) (limit : Nat) (chunks : List Chunk) :
    readUntil delimiter limit chunks =
      upTo delimiter ((received chunks).take limit) := by
  induction chunks generalizing limit with
  | nil => simp [readUntil, received, upTo]
  | cons chunk chunks ih =>
      have divided : (received (chunk :: chunks)).take limit =
          chunk.bytes.take limit ++
            (received chunks).take (limit - (chunk.bytes.take limit).length) := by
        have shorter : limit - (chunk.bytes.take limit).length =
            limit - chunk.bytes.length := by
          rw [List.length_take]
          omega
        rw [shorter]
        exact List.take_append
      rw [divided, readUntil]
      by_cases found : delimiter ∈ chunk.bytes.take limit
      · rw [if_pos found, upTo_of_mem found, upTo, if_pos found]
      · rw [if_neg found, upTo_append_of_notMem found]
        by_cases exhausted : chunk.bytes.take limit = []
        · have noLimit : limit = 0 :=
            (List.take_eq_nil_iff.mp exhausted).resolve_right chunk.nonempty
          simp [noLimit, upTo]
        · rw [if_neg exhausted, ih]

/-- The stream starts with the bytes of a line that ends within the bound. -/
def StartsWithLine (bytes : List UInt8) (line : Text) : Prop :=
  ∃ content rest, bytes = content ++ newline :: rest ∧ newline ∉ content ∧
    content.length < MAX_RESPONSE_BYTES ∧ Text.utf8 line = content ++ [newline]

/-- A text ends with a line break when its bytes do. -/
theorem getLast?_of_utf8 {line : Text} {content : List UInt8}
    (encoded : Text.utf8 line = content ++ [newline]) : line.getLast? = some '\n' := by
  induction line using List.reverseRecOn with
  | nil => simp at encoded
  | append_singleton front last _ =>
      rw [Text.utf8_append, Text.utf8_singleton] at encoded
      have lastByte := congrArg List.getLast? encoded
      rw [List.getLast?_append_of_ne_nil _ String.utf8EncodeChar_ne_nil,
        List.getLast?_concat] at lastByte
      have inLast : newline ∈ String.utf8EncodeChar last := List.mem_of_getLast? lastByte
      rw [List.getLast?_concat, Text.eq_of_mem_utf8EncodeChar (by decide) inLast]

/-- Conversely, the last byte of a line is the line break. -/
theorem exists_utf8_of_getLast? {line : Text} (ends : line.getLast? = some '\n') :
    ∃ content, Text.utf8 line = content ++ [newline] := by
  obtain ⟨front, rfl⟩ := List.getLast?_eq_some_iff.mp ends
  exact ⟨Text.utf8 front, Text.utf8_append front _⟩

/-- What `exchange` accepts of the bytes that were read. -/
theorem exchange_ok_iff_read (chunks : List Chunk) (line : Text) :
    exchange chunks = .ok line ↔
      readUntil newline (MAX_RESPONSE_BYTES + 1) chunks = Text.utf8 line ∧
        Text.byteLength line ≤ MAX_RESPONSE_BYTES ∧ line.getLast? = some '\n' := by
  unfold exchange
  cases decoded : Text.ofUtf8 (readUntil newline (MAX_RESPONSE_BYTES + 1) chunks) with
  | none =>
      simp only [decoded]
      refine iff_of_false (by simp) ?_
      rintro ⟨encoded, -⟩
      rw [encoded, Text.ofUtf8_utf8] at decoded
      cases decoded
  | some response =>
      simp only [decoded]
      have encoded := Text.ofUtf8_eq_some_iff.mp decoded
      rw [← encoded]
      constructor
      · intro accepted
        split at accepted
        · cases accepted
        split at accepted
        · cases accepted
        rename_i acceptable
        cases accepted
        rw [not_or, not_lt, not_ne_iff] at acceptable
        exact ⟨rfl, acceptable⟩
      · rintro ⟨same, fits, ends⟩
        have lineEq : response = line := by
          have decodedToo := Text.ofUtf8_utf8 response
          rw [same, Text.ofUtf8_utf8] at decodedToo
          exact (Option.some.inj decodedToo).symm
        obtain ⟨content, terminated⟩ := exists_utf8_of_getLast? ends
        rw [lineEq, if_neg (by simp [terminated]), if_neg]
        rw [not_or, not_lt, not_ne_iff]
        exact ⟨fits, ends⟩

theorem exchange_ok_iff (chunks : List Chunk) (line : Text) :
    exchange chunks = .ok line ↔ StartsWithLine (received chunks) line := by
  rw [exchange_ok_iff_read, readUntil_eq]
  constructor
  · rintro ⟨encoded, fits, ends⟩
    obtain ⟨content, terminated⟩ := exists_utf8_of_getLast? ends
    have found : newline ∈ (received chunks).take (MAX_RESPONSE_BYTES + 1) := by
      by_contra absent
      rw [upTo, if_neg absent, terminated] at encoded
      exact absent (by simp [encoded])
    obtain ⟨first, later, front, absent⟩ := List.eq_append_cons_of_mem found
    rw [front, upTo_line absent] at encoded
    refine ⟨first, later ++ (received chunks).drop (MAX_RESPONSE_BYTES + 1), ?_, absent,
      ?_, encoded.symm⟩
    · calc
        received chunks = (received chunks).take (MAX_RESPONSE_BYTES + 1) ++
            (received chunks).drop (MAX_RESPONSE_BYTES + 1) := (List.take_append_drop ..).symm
        _ = _ := by rw [front, List.append_assoc, List.cons_append]
    · have lengths := congrArg List.length encoded
      rw [Text.length_utf8, List.length_append, List.length_singleton] at lengths
      omega
  · rintro ⟨content, rest, sent, absent, fits, encoded⟩
    have whole : (received chunks).take (MAX_RESPONSE_BYTES + 1) =
        content ++ newline :: rest.take (MAX_RESPONSE_BYTES - content.length) := by
      have remaining : MAX_RESPONSE_BYTES + 1 - content.length =
          MAX_RESPONSE_BYTES - content.length + 1 := by
        omega
      rw [sent, List.take_append, List.take_of_length_le (by omega), remaining,
        List.take_succ_cons]
    have lengths := congrArg List.length encoded
    rw [Text.length_utf8, List.length_append, List.length_singleton] at lengths
    refine ⟨?_, by omega, getLast?_of_utf8 encoded⟩
    rw [whole, upTo_line absent, encoded]

/-- The line in which the server sends a result. -/
def frame (result : Text) : Text :=
  "OK ".toList ++ result ++ ['\n']

/-- A text between braces.  No control word of the protocol is one. -/
structure Braced (result : Text) : Prop where
  starts : result.head? = some '\x7b'
  ends : result.getLast? = some '\x7d'

theorem Braced.trim_eq {result : Text} (braced : Braced result) :
    Text.trim result = result := by
  apply Text.trim_eq_self
  · rw [braced.starts]
    rintro char ⟨⟩
    rfl
  · rw [braced.ends]
    rintro char ⟨⟩
    rfl

theorem parseResponse_frame {result : Text} (braced : Braced result) :
    parseResponse (frame result) = .okResponse result := by
  have nonempty : result ≠ [] := by
    rintro rfl
    cases braced.starts
  have notWord {word : Text} (differs : word.head? ≠ some '\x7b') : result ≠ word := by
    rintro rfl
    exact differs braced.starts
  have kept : Text.trim ("OK ".toList ++ result) = "OK ".toList ++ result := by
    apply Text.trim_eq_self
    · rintro char ⟨⟩
      rfl
    · rw [List.getLast?_append_of_ne_nil _ nonempty, braced.ends]
      rintro char ⟨⟩
      rfl
  have trimmed : Text.trim (frame result) = "OK ".toList ++ result :=
    (Text.trim_concat_of_isWhitespace rfl _).trans kept
  have longer : "OK ".toList ++ result ≠ "OK".toList := by
    intro equal
    cases result with
    | nil => exact nonempty rfl
    | cons char rest => cases equal
  unfold parseResponse
  rw [trimmed]
  simp only [longer, if_false, Text.stripPrefix_append, braced.trim_eq]
  rw [if_neg (not_or.mpr ⟨notWord (by decide), nonempty⟩), if_neg (notWord (by decide))]

theorem exchange_frame {result : Text} {chunks : List Chunk} {more : List UInt8}
    (oneLine : '\n' ∉ result) (fits : Text.byteLength (frame result) ≤ MAX_RESPONSE_BYTES)
    (sent : received chunks = Text.utf8 (frame result) ++ more) :
    exchange chunks = .ok (frame result) := by
  have encoded : Text.utf8 (frame result) =
      Text.utf8 ("OK ".toList ++ result) ++ [newline] :=
    Text.utf8_append _ _
  have noBreak : newline ∉ Text.utf8 ("OK ".toList ++ result) := by
    rw [newline, Text.mem_utf8_iff (by decide), List.mem_append, not_or]
    exact ⟨by decide, oneLine⟩
  refine (exchange_ok_iff chunks _).mpr ⟨_, more, ?_, noBreak, ?_, encoded⟩
  · rw [sent, encoded, List.append_assoc, List.singleton_append]
  · have lengths := congrArg List.length encoded
    rw [Text.length_utf8, List.length_append, List.length_singleton] at lengths
    omega

/-- Every result between braces on one line is fetched as it was sent. -/
theorem runs_getResultsAsStringAt_frame {task : Task} {socket : String} {result : Text}
    {chunks : List Chunk} (braced : Braced result)
    (accepted : exchange chunks = .ok (frame result)) (outcome : Except String Text) :
    (task.getResultsAsStringAt socket).Runs
        [⟨task.command .getResults, exchange chunks⟩] outcome ↔ outcome = .ok result := by
  have read : readReply socket (exchange chunks) = .okResponse result := by
    rw [accepted]
    exact parseResponse_frame braced
  constructor
  · intro runs
    obtain ⟨reply, same, meaning⟩ := runs_getResultsAsStringAt runs
    cases same
    exact (meaning result).mpr ((readReply_okResponse_iff socket _ result).mp read)
  · rintro rfl
    refine Program.runs_bind_iff.mpr ⟨_, [], .okResponse result, (List.append_nil _).symm,
      runs_sendCommandAt_iff.mpr ⟨_, rfl, read.symm⟩, .done _⟩

/-- One reply is one line of the stream, whatever the server sends and however it
arrives, and a result in such a line is never taken for a control word. -/
theorem exchange_framing :
    (∀ chunks line, exchange chunks = .ok line ↔ StartsWithLine (received chunks) line) ∧
      ∀ (task : Task) socket result chunks more, Braced result → '\n' ∉ result →
        Text.byteLength (frame result) ≤ MAX_RESPONSE_BYTES →
        received chunks = Text.utf8 (frame result) ++ more → ∀ outcome,
          (task.getResultsAsStringAt socket).Runs
            [⟨task.command .getResults, exchange chunks⟩] outcome ↔ outcome = .ok result := by
  refine ⟨exchange_ok_iff, ?_⟩
  intro task socket result chunks more braced oneLine fits sent
  exact runs_getResultsAsStringAt_frame braced (exchange_frame oneLine fits sent)

namespace SplitResult

/-- A result that arrives in two pieces, with another line behind it. -/
def chunks : List Chunk :=
  [⟨Text.utf8 "OK \x7b".toList, by decide⟩, ⟨Text.utf8 "\x7d\nOK NO\n".toList, by decide⟩]

end SplitResult

theorem exchange_framing_split :
    ((Task.mk 1 7).getResultsAsStringAt "/run/maestro.sock").Runs
      [⟨(Task.mk 1 7).command .getResults, exchange SplitResult.chunks⟩]
      (.ok "\x7b\x7d".toList) :=
  (exchange_framing.2 ⟨1, 7⟩ _ _ SplitResult.chunks (Text.utf8 "OK NO\n".toList)
    ⟨rfl, rfl⟩ (by decide) (by decide) (by decide) _).mpr rfl

end Maestro
