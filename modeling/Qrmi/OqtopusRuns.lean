import Qrmi.InteractionHistory
import Qrmi.OqtopusResource

/-!
# The strings of a run

What the operations of a device leave in the memory of the bridge, and what they submit.
-/

open Interaction OqtopusBridge

namespace Oqtopus

open Method

variable {oqtopus : Oqtopus}

/-- Every execution asks the interpreter for something. -/
def Asking {State Error α : Type} (method : Method PyAction PyAction.Answer State Error α) :
    Prop :=
  ∀ before trace result after, method.Executes before trace result after → trace ≠ []

theorem asking_question {State Error : Type} (action : PyAction) :
    Asking (lift (Program.question action) :
      Method PyAction PyAction.Answer State Error _) := by
  intro before trace result after executes
  obtain ⟨answer, runs, -, -⟩ := executes_lift_iff.mp executes
  cases runs with
  | ask _ => exact List.cons_ne_nil _ _

theorem Asking.bind {State Error α β : Type}
    {method : Method PyAction PyAction.Answer State Error α}
    {next : α → Method PyAction PyAction.Answer State Error β} (asking : Asking method) :
    Asking (method >>= next) := by
  intro before trace result after executes
  rcases executes_bind_iff.mp executes with ⟨error, rfl, failed⟩ |
    ⟨earlier, later, value, middle, rfl, ran, -⟩
  · exact asking _ _ _ _ failed
  · exact List.append_ne_nil_of_left_ne_nil (asking _ _ _ _ ran) _

theorem Asking.attempt {State Error Failure α : Type}
    {method : Method PyAction PyAction.Answer State Error α} (asking : Asking method) :
    Asking (method.attempt : Method PyAction PyAction.Answer State Failure _) := by
  intro before trace result after executes
  obtain ⟨outcome, -, ran⟩ := executes_attempt_iff.mp executes
  exact asking _ _ _ _ ran

theorem asking_describedRun (entryPoint : EntryPoint) (arg configJson : Text) :
    Asking (describedRun entryPoint arg configJson) := by
  have imports (name : String) : Asking (PyMethod.importModule name) :=
    (asking_question _).bind
  have builds : Asking (buildClient configJson) := (imports _).bind
  have runs : Asking (entryPoint.run arg configJson) := builds.bind
  exact runs.attempt.bind

/-- An execution does not panic, and it leaves the strings of the bridge alone; but a call
that reached the interpreter leaves its own string where strings cannot be given back. -/
def Leaves {α : Type} (oqtopus : Oqtopus) (before : Stored BridgeBlock Unit)
    (trace : List (Event PyAction.Answer)) (result : Except (Halt QrmiError) α)
    (after : Stored BridgeBlock Unit) : Prop :=
  result ≠ .error .panic ∧ after.heap.live =
    if trace = [] ∨ oqtopus.pyBridge.freesStrings = true then before.heap.live
    else ⟨before.heap.next, .string⟩ ::ₘ before.heap.live

/-- A method that calls the bridge once at most. -/
def IsOneCall {α : Type} (oqtopus : Oqtopus) (method : BridgeMemory QrmiError α) : Prop :=
  ∀ before trace result after, method.Executes before trace result after →
    Leaves oqtopus before trace result after

/-- A method that does nothing but succeed or fail. -/
def IsQuiet {α : Type} (method : BridgeMemory QrmiError α) : Prop :=
  ∀ before trace result after, method.Executes before trace result after →
    trace = [] ∧ result ≠ .error .panic ∧ after = before

section Rules

variable {α β : Type}

theorem isQuiet_pure (value : α) : IsQuiet (pure value : BridgeMemory QrmiError α) := by
  intro before trace result after executes
  obtain ⟨rfl, rfl, rfl⟩ := executes_pure_iff.mp executes
  exact ⟨rfl, by rintro ⟨⟩, rfl⟩

theorem isQuiet_ofResult (outcome : Except QrmiError α) : IsQuiet (ofResult outcome) := by
  intro before trace result after executes
  obtain ⟨rfl, rfl, rfl⟩ := executes_ofExcept_iff.mp executes
  exact ⟨rfl, mapError_failed_ne_panic outcome, rfl⟩

theorem leaves_of_quiet {method : BridgeMemory QrmiError α} (quiet : IsQuiet method) :
    IsOneCall oqtopus method := by
  intro before trace result after executes
  obtain ⟨rfl, returned, rfl⟩ := quiet _ _ _ _ executes
  exact ⟨returned, (if_pos (.inl rfl)).symm⟩

theorem IsOneCall.bind {method : BridgeMemory QrmiError α}
    {next : α → BridgeMemory QrmiError β} (first : IsOneCall oqtopus method)
    (second : ∀ value, IsQuiet (next value)) : IsOneCall oqtopus (method >>= next) := by
  intro before trace result after executes
  rcases executes_bind_iff.mp executes with ⟨error, rfl, failed⟩ |
    ⟨earlier, later, value, middle, rfl, ran, continued⟩
  · obtain ⟨returned, live⟩ := first _ _ _ _ failed
    refine ⟨?_, live⟩
    rintro ⟨⟩
    exact returned rfl
  · obtain ⟨rfl, returned, rfl⟩ := second value _ _ _ _ continued
    obtain ⟨-, live⟩ := first _ _ _ _ ran
    rw [List.append_nil]
    exact ⟨returned, live⟩

theorem IsQuiet.bind {method : BridgeMemory QrmiError α} {next : α → BridgeMemory QrmiError β}
    (first : IsQuiet method) (second : ∀ value, IsQuiet (next value)) :
    IsQuiet (method >>= next) := by
  intro before trace result after executes
  rcases executes_bind_iff.mp executes with ⟨error, rfl, failed⟩ |
    ⟨earlier, later, value, middle, rfl, ran, continued⟩
  · obtain ⟨rfl, returned, rfl⟩ := first _ _ _ _ failed
    refine ⟨rfl, ?_, rfl⟩
    rintro ⟨⟩
    exact returned rfl
  · obtain ⟨rfl, -, rfl⟩ := first _ _ _ _ ran
    exact second value _ _ _ _ continued

theorem IsOneCall.after {method : BridgeMemory QrmiError α}
    {next : α → BridgeMemory QrmiError β} (quiet : IsQuiet method)
    (calls : ∀ value, IsOneCall oqtopus (next value)) : IsOneCall oqtopus (method >>= next) := by
  intro before trace result after executes
  rcases executes_bind_iff.mp executes with ⟨error, rfl, failed⟩ |
    ⟨earlier, later, value, middle, rfl, ran, continued⟩
  · obtain ⟨rfl, returned, rfl⟩ := quiet _ _ _ _ failed
    refine ⟨?_, (if_pos (.inl rfl)).symm⟩
    rintro ⟨⟩
    exact returned rfl
  · obtain ⟨rfl, -, rfl⟩ := quiet _ _ _ _ ran
    exact calls value _ _ _ _ continued

theorem answered_ne_panic (opName : String) (outcome : Except PyFailure (Except Text Text)) :
    answered opName outcome ≠ .error .panic := by
  rcases outcome with failure | (message | value) <;> rintro ⟨⟩

theorem isOneCall_callWith (entryPoint : EntryPoint) (context : String) (text : Text) :
    IsOneCall oqtopus (oqtopus.callWith entryPoint context text) := by
  intro before trace result after executes
  rcases executes_callWith_iff.mp executes with ⟨error, -, rfl, rfl, rfl⟩ |
    ⟨-, message, -, rfl, rfl, rfl⟩ | ⟨-, -, outcome, ran, rfl, rfl⟩
  · exact ⟨by rintro ⟨⟩, (if_pos (.inl rfl)).symm⟩
  · exact ⟨by rintro ⟨⟩, (if_pos (.inl rfl)).symm⟩
  · have asked := asking_describedRun _ _ _ _ _ _ _ ran
    refine ⟨answered_ne_panic _ _, ?_⟩
    simp only [live_settle, asked, false_or]

end Rules

inductive Operation
  | isAccessible
  | status
  | taskStop (taskId : Text)
  | taskStatus (taskId : Text)
  | target
  | taskResult (taskId : Text)
  | taskStart (payload : Payload)

/-- An operation, without its value. -/
def Operation.run (libraries : Libraries) (oqtopus : Oqtopus) :
    Operation → BridgeMemory QrmiError Unit
  | isAccessible => do let _ ← oqtopus.isAccessible
  | status => do let _ ← oqtopus.status libraries
  | taskStop taskId => oqtopus.taskStop taskId
  | taskStatus taskId => do let _ ← oqtopus.taskStatus taskId
  | target => do let _ ← oqtopus.target
  | taskResult taskId => do let _ ← oqtopus.taskResult taskId
  | taskStart payload => do let _ ← oqtopus.taskStart libraries payload

/-- A call of an operation. -/
structure Call where
  operation : Operation
  trace : List (Event PyAction.Answer)
  result : Except (Halt QrmiError) Unit

def Call.Step (libraries : Libraries) (oqtopus : Oqtopus) (before : Stored BridgeBlock Unit)
    (call : Call) (after : Stored BridgeBlock Unit) : Prop :=
  (call.operation.run libraries oqtopus).Executes before call.trace call.result after

section Runs

variable {libraries : Libraries} {before after start final : Stored BridgeBlock Unit}
variable {calls : List Call}

theorem isOneCall_taskStart (payload : Payload) :
    IsOneCall oqtopus (oqtopus.taskStart libraries payload) := by
  unfold taskStart
  split
  · exact IsOneCall.after (isQuiet_ofResult _) fun spec => isOneCall_callWith _ _ _
  · exact leaves_of_quiet (isQuiet_ofResult _)

theorem isOneCall_run (operation : Operation) :
    IsOneCall oqtopus (operation.run libraries oqtopus) := by
  have calls := @isOneCall_callWith oqtopus
  cases operation with
  | isAccessible =>
      exact ((calls _ _ _).bind fun _ => isQuiet_pure _).bind fun _ => isQuiet_pure _
  | status =>
      have reads (value : Text) := (isQuiet_ofResult ((libraries.readDevice value).mapError
        fun error => .other s!"invalid device json: {error}")).bind
          fun device => isQuiet_pure (resourceStatus device)
      exact ((calls _ _ _).bind reads).bind fun _ => isQuiet_pure _
  | taskStop taskId => exact (calls _ _ _).bind fun _ => isQuiet_pure _
  | taskStatus taskId =>
      exact ((calls _ _ _).bind fun _ => isQuiet_ofResult _).bind fun _ => isQuiet_pure _
  | target => exact (calls _ _ _).bind fun _ => isQuiet_pure _
  | taskResult taskId => exact (calls _ _ _).bind fun _ => isQuiet_pure _
  | taskStart payload => exact (isOneCall_taskStart payload).bind fun _ => isQuiet_pure _

/-- The calls that reached the interpreter. -/
def reached (calls : List Call) : List Call :=
  calls.filter fun call => !call.trace.isEmpty

/-- No string is given back twice or followed afterwards, and none is lost, where the bridge
takes strings back; elsewhere each call that reached the interpreter costs one string. -/
theorem strings_of_history
    (history : History (Call.Step libraries oqtopus) start calls final) :
    (∀ call ∈ calls, call.result ≠ .error .panic) ∧
      (oqtopus.pyBridge.freesStrings = true → final.heap.live = start.heap.live) ∧
      (oqtopus.pyBridge.freesStrings = false → start.heap.live ≤ final.heap.live ∧
        final.heap.live.card = start.heap.live.card + (reached calls).length) := by
  refine History.invariant (fun calls final =>
    (∀ call ∈ calls, call.result ≠ .error .panic) ∧
      (oqtopus.pyBridge.freesStrings = true → final.heap.live = start.heap.live) ∧
      (oqtopus.pyBridge.freesStrings = false → start.heap.live ≤ final.heap.live ∧
        final.heap.live.card = start.heap.live.card + (reached calls).length)) ?_ ?_ history
  · exact ⟨fun _ member => (List.not_mem_nil member).elim, fun _ => rfl,
      fun _ => ⟨le_rfl, rfl⟩⟩
  · rintro past state call next - ⟨returned, kept, grown⟩ step
    obtain ⟨returns, live⟩ := isOneCall_run call.operation _ _ _ _ step
    refine ⟨fun other member => ?_, fun frees => ?_, fun keeps => ?_⟩
    · rcases List.mem_append.mp member with earlier | last
      · exact returned other earlier
      · rw [List.mem_singleton.mp last]
        exact returns
    · rw [live, if_pos (.inr frees), kept frees]
    · obtain ⟨more, count⟩ := grown keeps
      have isReached : reached (past ++ [call]) =
          reached past ++ if call.trace = [] then [] else [call] := by
        rw [reached, List.filter_append]
        cases trace : call.trace <;> simp [reached, trace]
      by_cases quiet : call.trace = []
      · rw [live, if_pos (.inl quiet), isReached, if_pos quiet, List.append_nil]
        exact ⟨more, count⟩
      · have loses : ¬ (call.trace = [] ∨ oqtopus.pyBridge.freesStrings = true) := by
          simp [quiet, keeps]
        rw [live, if_neg loses, isReached, if_neg quiet, List.length_append,
          Multiset.card_cons, count]
        exact ⟨more.trans (Multiset.le_cons_self _ _), by simp [Nat.add_assoc]⟩

end Runs

namespace CancelledJob

theorem noNul : 0 ∉ Text.utf8 "\x7b\x7d".toList := by
  decide

def device : Oqtopus where
  deviceId := "qpu".toList
  pyBridge := ⟨fun symbol =>
    if symbol = "py_bridge_free_string" then .error "undefined symbol" else .ok ()⟩
  configJson := ⟨Text.utf8 "\x7b\x7d".toList, noNul⟩

def libraries : Libraries where
  json := JsonLibrary.ofTable []
  readDevice _ := .error "expected value"

/-- Building the client, with the objects by their numbers. -/
def building : List (Event PyAction.Answer) :=
  [⟨.importModule "oqtopus_client", .ok ⟨1⟩⟩, ⟨.importModule "json", .ok ⟨2⟩⟩,
    ⟨.callMethod ⟨2⟩ "loads" [.text "\x7b\x7d".toList] none, .ok ⟨3⟩⟩, ⟨.castDict ⟨3⟩, .ok ()⟩,
    ⟨.importModule "builtins", .ok ⟨4⟩⟩, ⟨.getItem ⟨3⟩ "retry_status_codes", .ok none⟩,
    ⟨.getItem ⟨3⟩ "retry_methods", .ok none⟩, ⟨.getattr ⟨1⟩ "services", .ok ⟨5⟩⟩,
    ⟨.getattr ⟨5⟩ "config", .ok ⟨6⟩⟩, ⟨.getattr ⟨6⟩ "OqtopusConfig", .ok ⟨7⟩⟩,
    ⟨.call ⟨7⟩ [] (some ⟨3⟩), .ok ⟨8⟩⟩, ⟨.getattr ⟨1⟩ "services", .ok ⟨5⟩⟩,
    ⟨.getattr ⟨5⟩ "client", .ok ⟨9⟩⟩, ⟨.getattr ⟨9⟩ "OqtopusClient", .ok ⟨10⟩⟩,
    ⟨.call ⟨10⟩ [.object ⟨8⟩] none, .ok ⟨11⟩⟩]

/-- Cancelling a job with it. -/
def cancelling : List (Event PyAction.Answer) :=
  [⟨.callMethod ⟨11⟩ "cancel_job" [.text ['j']] none, .ok ⟨12⟩⟩,
    ⟨.getattr ⟨12⟩ "message", .ok ⟨13⟩⟩, ⟨.extractString ⟨13⟩, .ok "cancelled".toList⟩]

theorem builds : (buildClient "\x7b\x7d".toList).Executes () building (.ok ⟨11⟩) () :=
  .ask (.ask (.ask (.ask (.ask (.ask (.ask (.ask (.ask (.ask (.ask (.ask (.ask (.ask (.ask
    (.done _)))))))))))))))

theorem cancels : (EntryPoint.cancelJob.run ['j'] "\x7b\x7d".toList).Executes ()
    (building ++ cancelling) (.ok "cancelled".toList) () :=
  executes_bind_iff.mpr (.inr ⟨building, cancelling, ⟨11⟩, (), rfl, builds,
    .ask (.ask (.ask (.done _)))⟩)

theorem isDescribed : (describedRun .cancelJob ['j'] device.configJson.toStringLossy).Executes ()
    (building ++ cancelling) (.ok (.ok "cancelled".toList)) () := by
  rw [CStr.toStringLossy_of_bytes (rfl : device.configJson.bytes = Text.utf8 "\x7b\x7d".toList)]
  exact executes_bind_iff.mpr (.inr ⟨_, [], .ok "cancelled".toList, (), (List.append_nil _).symm,
    executes_attempt_iff.mpr ⟨_, rfl, cancels⟩, .done _⟩)

def call : Call where
  operation := .taskStop ['j']
  trace := building ++ cancelling
  result := .ok ()

/-- The call succeeds on every heap. -/
theorem step (libraries : Libraries) (heap : Heap BridgeBlock) :
    Call.Step libraries device ⟨heap, ()⟩ call ⟨device.settle heap, ()⟩ := by
  refine executes_bind_iff.mpr (.inr ⟨_, [], "cancelled".toList, _,
    (List.append_nil _).symm, ?_, .done _⟩)
  exact executes_callWith_iff.mpr (.inr (.inr ⟨by decide, rfl, _, isDescribed, rfl, rfl⟩))

def start : Stored BridgeBlock Unit :=
  ⟨Heap.empty, ()⟩

def final : Stored BridgeBlock Unit :=
  ⟨device.settle (device.settle Heap.empty), ()⟩

/-- The job is cancelled twice. -/
theorem history : History (Call.Step libraries device) start [call, call] final :=
  .cons (step libraries _) (.cons (step libraries _) (.nil final))

end CancelledJob

theorem strings_of_cancelledJob :
    CancelledJob.final.heap.live.card = CancelledJob.start.heap.live.card + 2 := by
  obtain ⟨-, -, grown⟩ := strings_of_history CancelledJob.history
  exact (grown rfl).2

end Oqtopus
