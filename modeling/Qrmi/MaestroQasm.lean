import Qrmi.MaestroSession
import Qrmi.OpenQasmLexer

/-!
# Sending a circuit on one line

The socket protocol is line based, so a source text is flattened before it is
sent.  Flattening also removes the line feed that ends a comment: the code on
the lines after a comment becomes part of it.
-/

namespace Maestro

open Interaction

/-- Trimming cuts off margins of source texts only. -/
theorem isMargin_of_isWhitespace {char : Char}
    (white : Text.isWhitespace char = true) : OpenQasm.IsMargin char := by
  have margins : ∀ point ∈ Text.whitespacePoints,
      (OpenQasm.isBlank (Char.ofNat point) = true ∨
        OpenQasm.begin (Char.ofNat point) = none) ∧
      Char.ofNat point ≠ '_' ∧ Char.ofNat point ≠ '>' := by
    decide
  obtain ⟨skipped, notUnderscore, notGreater⟩ :=
    margins char.toNat (Text.toNat_mem_whitespacePoints white)
  rw [Char.ofNat_toNat] at skipped notUnderscore notGreater
  exact ⟨skipped, notUnderscore, notGreater⟩

theorem replaceLineBreaks_eq_flatten (text : Text) :
    Text.replaceLineBreaks text = OpenQasm.flatten text := by
  unfold Text.replaceLineBreaks OpenQasm.flatten
  congr 1
  funext char
  simp [OpenQasm.isLineBreak]

/-- The single line of a source text keeps its tokens exactly when none of them
follows the first comment. -/
theorem tokens_lineArgument_iff {source : Text} {tokens : List OpenQasm.Token}
    (lexed : OpenQasm.tokens source = some tokens) :
    OpenQasm.tokens (Task.lineArgument source) = some tokens ↔
      OpenQasm.EndsAtComment source := by
  obtain ⟨kept, flattened, same⟩ := OpenQasm.tokens_flatten_iff lexed
  have trimmed : OpenQasm.tokens (Task.lineArgument source) = some kept := by
    unfold Task.lineArgument Text.trim OpenQasm.tokens
    rw [replaceLineBreaks_eq_flatten]
    apply OpenQasm.lexFrom_rdropWhile fun _ => isMargin_of_isWhitespace
    exact OpenQasm.lexFrom_dropWhile (fun _ => isMargin_of_isWhitespace)
      flattened
  rw [trimmed, ← same]
  exact ⟨fun equal => Option.some.inj equal, fun equal => congrArg some equal⟩

/-- The circuit that is sent for a source text has the tokens of the source
exactly when no token follows the first comment of the source. -/
theorem runs_setQasmAt_tokens_iff {task : Task} {qasm : Text} {socket : String}
    {trace : List Exchange} {response : Except String Bool}
    {tokens : List OpenQasm.Token}
    (lexed : OpenQasm.tokens qasm = some tokens)
    (runs : (task.setQasmAt qasm socket).Runs trace response) :
    ∃ line reply, trace = [⟨task.command (.setQasm line), reply⟩] ∧
      (OpenQasm.tokens line = some tokens ↔ OpenQasm.EndsAtComment qasm) := by
  obtain ⟨reply, sent, -⟩ := asks_acknowledge runs
  exact ⟨Task.lineArgument qasm, reply, sent, tokens_lineArgument_iff lexed⟩

/-- A header with a comment behind its last token. -/
def commentedHeader : Text :=
  "qreg q[1];\n// one qubit".toList

def headerTrace : List Exchange :=
  [⟨.task 7 1 (.setQasm "qreg q[1]; // one qubit".toList), .ok "OK".toList⟩]

theorem runs_commentedHeader :
    (Task.setQasmAt ⟨1, 7⟩ commentedHeader "/run/maestro.sock").Runs headerTrace
      (.ok true) :=
  .ask (.done _)

theorem runs_setQasmAt_tokens_iff_header :
    ∃ line reply,
      headerTrace = [⟨Task.command ⟨1, 7⟩ (.setQasm line), reply⟩] ∧
      (OpenQasm.tokens line = some [.word ['q', 'r', 'e', 'g'], .word ['q'],
        .symbol ['['], .numeral ['1'], .symbol [']'], .symbol [';']] ↔
        OpenQasm.EndsAtComment commentedHeader) :=
  runs_setQasmAt_tokens_iff (by decide) runs_commentedHeader

/-- A gate behind a comment is lost. -/
theorem tokens_lineArgument_ne :
    OpenQasm.tokens "// one qubit\nx q[0];".toList =
        some [.word ['x'], .word ['q'], .symbol ['['], .numeral ['0'],
          .symbol [']'], .symbol [';']] ∧
      OpenQasm.tokens (Task.lineArgument "// one qubit\nx q[0];".toList) =
        some [] := by
  decide

end Maestro
