import Qrmi.OqtopusRuns

/-!
# C programs that call the bridge

A C program calls the entry points of the bridge with or without places for their outcome.
The strings that it is handed are its own until it gives them back.
-/

open Interaction OqtopusBridge

namespace Oqtopus

open Method

/-- A call of a C program. -/
inductive CallerRequest
  | enter (entryPoint : EntryPoint) (arg configJson : CStr) (hasOut hasError : Bool)
  | freeString (pointer : Option BridgeString)

def CallerRequest.perform : CallerRequest → BridgeMemory Empty BridgeReturn
  | enter entryPoint arg configJson hasOut hasError =>
      runBridgeCall entryPoint arg configJson hasOut hasError
  | freeString pointer => do
      pyBridgeFreeString pointer
      return ⟨0, none, none⟩

/-- The strings that a call hands out. -/
def handed (returned : BridgeReturn) : Multiset (Block BridgeBlock) :=
  ↑((returned.out.toList ++ returned.error.toList).map BridgeString.block)

/-- A C program: the memory of the bridge, and the strings that are the program's. -/
structure Caller where
  memory : Stored BridgeBlock Unit
  owned : Multiset (Block BridgeBlock)

structure CallerRun where
  request : CallerRequest
  trace : List (Event PyAction.Answer)
  result : Except (Halt Empty) BridgeReturn

/-- The strings of the program after a call. -/
def CallerRun.owned (run : CallerRun) (owned : Multiset (Block BridgeBlock)) :
    Multiset (Block BridgeBlock) :=
  match run.request, run.result with
  | .freeString (some pointer), _ => owned.erase pointer.block
  | .freeString none, _ => owned
  | .enter .., .ok returned => handed returned + owned
  | .enter .., .error _ => owned

/-- One call.  The program gives back nothing but its own strings. -/
structure CallerStep (before : Caller) (run : CallerRun) (after : Caller) : Prop where
  owns : ∀ pointer, run.request = .freeString (some pointer) → pointer.block ∈ before.owned
  executes : run.request.perform.Executes before.memory run.trace run.result after.memory
  owned : after.owned = run.owned before.owned

/-- An entry point without a place for its outcome, for which Python returns a text. -/
def CallerRun.WritesThroughNull (run : CallerRun) : Prop :=
  ∃ entryPoint arg configJson hasError value,
    run.request = .enter entryPoint arg configJson false hasError ∧
      (describedRun entryPoint arg.toStringLossy configJson.toStringLossy).Executes () run.trace
        (.ok (.ok value)) ()

section Callers

variable {before after : Caller} {start : Stored BridgeBlock Unit} {run : CallerRun}

/-- What an entry point takes from the heap is what it hands out. -/
theorem live_runBridgeCall {entryPoint : EntryPoint} {arg configJson : CStr}
    {hasOut hasError : Bool} {memory next : Stored BridgeBlock Unit}
    {trace : List (Event PyAction.Answer)} {returned : BridgeReturn}
    (executes : (runBridgeCall entryPoint arg configJson hasOut hasError :
      BridgeMemory Empty BridgeReturn).Executes memory trace (.ok returned) next) :
    next.heap.live = handed returned + memory.heap.live := by
  obtain ⟨outcome, -, stores⟩ := executes_runBridgeCall_iff.mp executes
  rcases outcome with failure | (message | value)
  · cases hasError with
    | true =>
        obtain ⟨-, equal, rfl⟩ := (executes_iff_of_done rfl).mp stores
        cases equal
        rfl
    | false =>
        obtain ⟨-, equal, rfl⟩ := (executes_iff_of_done rfl).mp stores
        cases equal
        exact (zero_add _).symm
  · cases hasError with
    | true =>
        obtain ⟨-, equal, rfl⟩ := (executes_iff_of_done rfl).mp stores
        cases equal
        rfl
    | false =>
        obtain ⟨-, equal, rfl⟩ := (executes_iff_of_done rfl).mp stores
        cases equal
        exact (zero_add _).symm
  · cases hasOut with
    | true =>
        obtain ⟨-, equal, rfl⟩ := (executes_iff_of_done rfl).mp stores
        cases equal
        rfl
    | false => cases ((executes_iff_of_done rfl).mp stores).2.1

/-- A string that is live is given back without a panic. -/
theorem executes_freeString_iff {pointer : BridgeString} {memory next : Stored BridgeBlock Unit}
    {trace : List (Event PyAction.Answer)} {result : Except (Halt Empty) BridgeReturn}
    (live : pointer.block ∈ memory.heap.live) :
    (CallerRequest.freeString (some pointer)).perform.Executes memory trace result next ↔
      trace = [] ∧ result = .ok ⟨0, none, none⟩ ∧
        next = ⟨memory.heap.erase pointer.block, memory.rest⟩ := by
  apply executes_iff_of_done
  change (giveBack pointer.block >>= fun _ => pure ⟨0, none, none⟩ :
    BridgeMemory Empty BridgeReturn) memory = _
  rw [bind_of_done (giveBack_of_mem live)]
  rfl

/-- Where the live strings are those of the start and of the program, a call panics exactly
when it writes through a null pointer. -/
theorem CallerStep.panics_iff (step : CallerStep before run after)
    (accounted : before.memory.heap.live = start.heap.live + before.owned) :
    run.result = .error .panic ↔ run.WritesThroughNull := by
  obtain ⟨request, trace, result⟩ := run
  obtain ⟨owns, executes, -⟩ := step
  constructor
  · rintro rfl
    cases request with
    | enter entryPoint arg configJson hasOut hasError =>
        obtain ⟨rfl, value, ran⟩ := crashes_iff.mp ⟨_, executes⟩
        exact ⟨entryPoint, arg, configJson, hasError, value, rfl, ran⟩
    | freeString pointer =>
        cases pointer with
        | none => cases ((executes_iff_of_done rfl).mp executes).2.1
        | some pointer =>
            have live : pointer.block ∈ before.memory.heap.live := by
              rw [accounted]
              exact Multiset.mem_add.mpr (.inr (owns pointer rfl))
            cases ((executes_freeString_iff live).mp executes).2.1
  · rintro ⟨entryPoint, arg, configJson, hasError, value, rfl, ran⟩
    obtain ⟨outcome, described, stores⟩ := executes_runBridgeCall_iff.mp executes
    -- The answers of Python determine what it returns.
    obtain ⟨-, -, same⟩ :=
      Program.Runs.prefix_unique described ran (rfl : trace ++ [] = trace ++ [])
    cases same
    exact ((executes_iff_of_done rfl).mp stores).2.1

/-- A call that returns keeps the account of the live strings. -/
theorem CallerStep.accounts (step : CallerStep before run after)
    (returned : run.result ≠ .error .panic)
    (accounted : before.memory.heap.live = start.heap.live + before.owned) :
    after.memory.heap.live = start.heap.live + after.owned := by
  obtain ⟨request, trace, result⟩ := run
  obtain ⟨owns, executes, owned⟩ := step
  rw [owned]
  cases request with
  | enter entryPoint arg configJson hasOut hasError =>
      rcases result with halt | result
      · cases halt with
        | failed error => cases error
        | panic => exact absurd rfl returned
      · rw [live_runBridgeCall executes, accounted, CallerRun.owned]
        exact add_left_comm _ _ _
  | freeString pointer =>
      cases pointer with
      | none =>
          obtain ⟨-, -, kept⟩ := (executes_iff_of_done rfl).mp executes
          rw [kept, accounted]
          rfl
      | some pointer =>
          have own := owns pointer rfl
          have live : pointer.block ∈ before.memory.heap.live := by
            rw [accounted]
            exact Multiset.mem_add.mpr (.inr own)
          obtain ⟨-, -, kept⟩ := (executes_freeString_iff live).mp executes
          rw [kept]
          change before.memory.heap.live.erase pointer.block = _
          rw [accounted, Multiset.erase_add_right_pos _ own]
          rfl

/-- As long as all calls have returned, the program can reach all its strings, and no others
are left behind; the next call panics exactly when it writes through a null pointer. -/
theorem crashes_of_history {runs : List CallerRun} {state : Caller}
    (history : History CallerStep ⟨start, 0⟩ runs state)
    (returned : ∀ run ∈ runs, run.result ≠ .error .panic) :
    state.memory.heap.live = start.heap.live + state.owned ∧
      ∀ run after, CallerStep state run after →
        (run.result = .error .panic ↔ run.WritesThroughNull) := by
  have accounted : state.memory.heap.live = start.heap.live + state.owned := by
    refine History.invariant (fun past state => (∀ run ∈ past, run.result ≠ .error .panic) →
      state.memory.heap.live = start.heap.live + state.owned) ?_ ?_ history returned
    · exact fun _ => (add_zero _).symm
    · rintro past state run next - accounted step returned
      obtain ⟨earlier, last⟩ := List.forall_mem_append.mp returned
      exact step.accounts (last run List.mem_cons_self) (accounted earlier)
  exact ⟨accounted, fun run after step => step.panics_iff accounted⟩

end Callers

namespace TwoCalls

open CancelledJob

/-- Cancel the job, with or without a place for the outcome. -/
def cancel (hasOut : Bool) : CallerRequest :=
  .enter .cancelJob ⟨Text.utf8 ['j'], by decide⟩ device.configJson hasOut false

def pointer : BridgeString :=
  ⟨0, cstringOr invalidData "cancelled".toList⟩

def cancelled : CallerRun where
  request := cancel true
  trace := building ++ cancelling
  result := .ok ⟨0, some pointer, none⟩

def freed : CallerRun where
  request := .freeString (some pointer)
  trace := []
  result := .ok ⟨0, none, none⟩

/-- The same call again, with nowhere to write. -/
def crashed : CallerRun where
  request := cancel false
  trace := building ++ cancelling
  result := .error .panic

theorem isDescribed : (describedRun .cancelJob
    (CStr.toStringLossy ⟨Text.utf8 ['j'], by decide⟩) device.configJson.toStringLossy).Executes ()
      (building ++ cancelling) (.ok (.ok "cancelled".toList)) () := by
  rw [CStr.toStringLossy_of_bytes (rfl : Text.utf8 ['j'] = Text.utf8 ['j'])]
  exact CancelledJob.isDescribed

theorem executes_cancelled : cancelled.request.perform.Executes ⟨Heap.empty, ()⟩
    cancelled.trace cancelled.result ⟨Heap.empty.insert .string, ()⟩ :=
  executes_runBridgeCall_iff.mpr ⟨_, isDescribed, (executes_iff_of_done rfl).mpr ⟨rfl, rfl, rfl⟩⟩

def start : Caller :=
  ⟨⟨Heap.empty, ()⟩, 0⟩

def holding : Caller :=
  ⟨⟨Heap.empty.insert .string, ()⟩, {pointer.block}⟩

def settled : Caller :=
  ⟨⟨(Heap.empty.insert .string).erase pointer.block, ()⟩, 0⟩

theorem step_cancelled : CallerStep start cancelled holding where
  owns other given := by cases given
  executes := executes_cancelled
  owned := rfl

theorem step_freed : CallerStep holding freed settled where
  owns other given := by
    cases given
    exact Multiset.mem_singleton_self _
  executes := (executes_freeString_iff (Multiset.mem_cons_self pointer.block 0)).mpr
    ⟨rfl, rfl, rfl⟩
  owned := (Multiset.erase_singleton _).symm

theorem history : History CallerStep start [cancelled, freed] settled :=
  .cons step_cancelled (.cons step_freed (.nil settled))

theorem returned : ∀ run ∈ [cancelled, freed], run.result ≠ .error .panic := by
  intro run member
  rcases List.mem_pair.mp member with rfl | rfl <;> rintro ⟨⟩

theorem step_crashed : ∃ after, CallerStep settled crashed after := by
  obtain ⟨memory, executes⟩ := crashes_iff.mpr ⟨rfl, _, isDescribed⟩
  refine ⟨⟨memory, 0⟩, ?_, executes, rfl⟩
  rintro other ⟨⟩

end TwoCalls

/-- The string of the first call is given back, and the second call crashes. -/
theorem crash_of_twoCalls :
    TwoCalls.settled.memory.heap.live = 0 ∧ TwoCalls.crashed.WritesThroughNull := by
  obtain ⟨accounted, crashes⟩ := crashes_of_history TwoCalls.history TwoCalls.returned
  obtain ⟨after, step⟩ := TwoCalls.step_crashed
  exact ⟨accounted, (crashes TwoCalls.crashed after step).mp rfl⟩

end Oqtopus
