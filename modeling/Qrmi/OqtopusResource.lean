import Qrmi.OqtopusLoader

/-!
# The OQTOPUS resource

Every operation of a device is one call of the bridge: a C string goes in, a C string of
the bridge comes out and is given back.
-/

open Interaction OqtopusBridge

theorem utf8CharWidth_utf8EncodeChar (char : Char) :
    ∃ first rest, String.utf8EncodeChar char = first :: rest ∧
      utf8CharWidth first = rest.length + 1 := by
  have valid : char.val.toNat < 0x110000 := by
    rcases char.valid with low | ⟨-, high⟩ <;> omega
  have width {number count : Nat} (fits : number < 256)
      (isCount : (if number < 128 then 1 else if 194 ≤ number ∧ number ≤ 223 then 2
        else if 224 ≤ number ∧ number ≤ 239 then 3
        else if 240 ≤ number ∧ number ≤ 244 then 4 else 0) = count) :
      utf8CharWidth (UInt8.ofNat number) = count := by
    have value : (UInt8.ofNat number).toNat = number := by
      rw [UInt8.toNat_ofNat', Nat.mod_eq_of_lt fits]
    simp only [utf8CharWidth, UInt8.lt_iff_toNat_lt, UInt8.le_iff_toNat_le, value]
    exact isCount
  unfold String.utf8EncodeChar
  dsimp only
  split
  · refine ⟨_, _, rfl, width (by omega) ?_⟩
    rw [if_pos (by omega)]
    rfl
  split
  · refine ⟨_, _, rfl, width (by omega) ?_⟩
    rw [if_neg (by omega), if_pos (by omega)]
    rfl
  split
  · refine ⟨_, _, rfl, width (by omega) ?_⟩
    rw [if_neg (by omega), if_neg (by omega), if_pos (by omega)]
    rfl
  · refine ⟨_, _, rfl, width (by omega) ?_⟩
    rw [if_neg (by omega), if_neg (by omega), if_neg (by omega), if_pos (by omega)]
    rfl

/-- The characters of an encoded text, in order. -/
theorem utf8Chunks_utf8 {text : Text} {fuel : Nat} (enough : text.length ≤ fuel) :
    utf8Chunks fuel (Text.utf8 text) = text.map Except.ok := by
  induction text generalizing fuel with
  | nil => cases fuel <;> rfl
  | cons char text ih =>
      cases fuel with
      | zero => cases enough
      | succ fuel =>
          obtain ⟨first, rest, encoded, width⟩ := utf8CharWidth_utf8EncodeChar char
          have bytes : Text.utf8 (char :: text) = first :: (rest ++ Text.utf8 text) := by
            change String.utf8EncodeChar char ++ Text.utf8 text = _
            rw [encoded]
            rfl
          have taken : (first :: (rest ++ Text.utf8 text)).take (utf8CharWidth first) =
              Text.utf8 [char] := by
            rw [width, List.take_succ_cons, List.take_left, Text.utf8_singleton, encoded]
          have dropped : (first :: (rest ++ Text.utf8 text)).drop (utf8CharWidth first) =
              Text.utf8 text := by
            rw [width, List.drop_succ_cons, List.drop_left]
          rw [bytes, utf8Chunks]
          simp only [taken, dropped, decodeUtf8_eq_some_iff.mpr rfl]
          rw [ih (Nat.le_of_succ_le_succ enough)]
          rfl

/-- A C string with the encoding of a text is decoded to it. -/
theorem CStr.toStringLossy_of_bytes {string : CStr} {text : Text}
    (encodes : string.bytes = Text.utf8 text) : string.toStringLossy = text := by
  have enough : text.length ≤ (Text.utf8 text).length := by
    rw [Text.length_utf8, Text.byteLength]
    calc
      text.length = (text.map fun _ => 1).sum := by simp
      _ ≤ (text.map Char.utf8Size).sum :=
          List.sum_le_sum fun char _ => char.utf8Size_pos
  rw [CStr.toStringLossy, encodes, utf8Chunks_utf8 enough, List.map_map]
  exact List.map_id _

namespace BridgeLibrary

/-- Whether the library exports a function for giving strings back. -/
def freesStrings (library : BridgeLibrary) : Bool :=
  (library.get "py_bridge_free_string").toBool

end BridgeLibrary

namespace Oqtopus

/-- `free_string`. -/
def freeString (oqtopus : Oqtopus) (pointer : Option BridgeString) :
    BridgeMemory QrmiError Unit :=
  match pointer with
  | none => return ()
  | some pointer =>
      if oqtopus.pyBridge.freesStrings then pyBridgeFreeString (some pointer) else return ()

/-- `take_error_string`. -/
def takeErrorString (oqtopus : Oqtopus) (errPtr : Option BridgeString) :
    BridgeMemory QrmiError Text :=
  match errPtr with
  | none => return "unknown error".toList
  | some pointer => do
      Method.borrow pointer.block
      oqtopus.freeString (some pointer)
      return pointer.value.toStringLossy

/-- An error or a value, where neither is a panic. -/
def ofResult {α : Type} (outcome : Except QrmiError α) : BridgeMemory QrmiError α :=
  Method.ofExcept (outcome.mapError Halt.failed)

/-- What `call_bridge` makes of what an entry point returned. -/
def takeReturn (oqtopus : Oqtopus) (opName : String) (returned : BridgeReturn) :
    BridgeMemory QrmiError Text :=
  if returned.code ≠ 0 then do
    let msg ← oqtopus.takeErrorString returned.error
    ofResult (.error (.other s!"{opName} failed: {String.ofList msg}"))
  else
    match returned.out with
    | none => Method.throw .panic
    | some pointer => do
        Method.borrow pointer.block
        oqtopus.freeString (some pointer)
        return pointer.value.toStringLossy

/-- `call_bridge`. -/
def callBridge (oqtopus : Oqtopus) (entryPoint : EntryPoint) (arg : CStr) (opName : String) :
    BridgeMemory QrmiError Text := do
  ofResult ((oqtopus.pyBridge.get entryPoint.symbol).mapError fun error =>
    .other s!"symbol not found: {error}")
  let returned ← runBridgeCall entryPoint arg oqtopus.configJson true true
  oqtopus.takeReturn opName returned

/-- `OqtopusDeviceStatus`. -/
inductive DeviceStatus
  | available
  | unavailable

/-- The fields of a device that `status` reads. -/
structure DeviceInfo where
  status : DeviceStatus
  availableAt : Option Text
  nPendingJobs : Nat
  calibratedAt : Option Text

/-- What the operations need of other libraries. -/
structure Libraries where
  json : JsonLibrary
  readDevice : Text → Except String DeviceInfo

def statusReason (availableAt calibratedAt : Option Text) : Option Text :=
  match availableAt, calibratedAt with
  | some availableAt, some calibratedAt =>
      some ("available at ".toList ++ availableAt ++ ", calibrated at ".toList ++ calibratedAt)
  | some availableAt, none => some ("available at ".toList ++ availableAt)
  | none, some calibratedAt => some ("calibrated at ".toList ++ calibratedAt)
  | none, none => none

/-- The status that a device reports. -/
def resourceStatus (device : DeviceInfo) : ResourceStatus where
  status :=
    match device.status with
    | .available => .online
    | .unavailable => .offline
  statusReason := statusReason device.availableAt device.calibratedAt
  healthy := none
  busy := none
  capacity := none
  pendingJobCount := some device.nPendingJobs

/-- `map_job_status`. -/
def mapJobStatus (status : Text) : Except QrmiError TaskStatus :=
  if status ∈ ["registered".toList, "submitted".toList, "ready".toList] then .ok .queued
  else if status = "running".toList then .ok .running
  else if status = "succeeded".toList then .ok .completed
  else if status = "failed".toList then .ok .failed
  else if status = "cancelled".toList then .ok .cancelled
  else .error (.other s!"unknown job status from oqtopus_client: {String.ofList status}")

/-- The specification of a job with the device that it is for. -/
def jobSpecFor (libraries : Libraries) (deviceId jobSpec : Text) : Except QrmiError Text :=
  match libraries.json.parse jobSpec with
  | .error error => .error (.other s!"invalid job_spec JSON: {error}")
  | .ok (.object entries) =>
      .ok (libraries.json.dump
        (.object (Json.insertEntry "device_id".toList (.string deviceId) entries)))
  | .ok _ => .error (.other "job_spec must be a JSON object")

section Operations

variable (libraries : Libraries) (oqtopus : Oqtopus)

/-- A call with a text that has to be a C string. -/
def callWith (entryPoint : EntryPoint) (context : String) (text : Text) :
    BridgeMemory QrmiError Text := do
  let arg ← ofResult (newCString context text)
  oqtopus.callBridge entryPoint arg entryPoint.symbol

def isAccessible : BridgeMemory QrmiError Bool := do
  let status ← oqtopus.callWith .getDeviceStatus "invalid device_id" oqtopus.deviceId
  return status = "available".toList

def status : BridgeMemory QrmiError ResourceStatus := do
  let value ← oqtopus.callWith .getDeviceJson "invalid device_id" oqtopus.deviceId
  let device ← ofResult ((libraries.readDevice value).mapError fun error =>
    .other s!"invalid device json: {error}")
  return resourceStatus device

def taskStop (taskId : Text) : BridgeMemory QrmiError Unit := do
  let _ ← oqtopus.callWith .cancelJob "invalid job_id" taskId

def taskStatus (taskId : Text) : BridgeMemory QrmiError TaskStatus := do
  let status ← oqtopus.callWith .getJobStatus "invalid job_id" taskId
  ofResult (mapJobStatus status)

def target : BridgeMemory QrmiError Text :=
  oqtopus.callWith .getDeviceJson "invalid device_id" oqtopus.deviceId

def taskResult (taskId : Text) : BridgeMemory QrmiError Text :=
  oqtopus.callWith .getJobResultJson "invalid job_id" taskId

def taskStart (payload : Payload) : BridgeMemory QrmiError Text :=
  match payload with
  | .oqtopus jobSpec => do
      let spec ← ofResult (jobSpecFor libraries oqtopus.deviceId jobSpec)
      oqtopus.callWith .submitJob "invalid job_spec json" spec
  | _ => ofResult (.error (.other "unsupported payload for Oqtopus backend"))

end Operations

/-- The text that is read from a C string that was made of another. -/
def throughC (fallback : String) (text : Text) : Text :=
  if '\x00' ∈ text then fallback.toList else text

/-- How an operation ends, by what Python did. -/
def answered (opName : String) :
    Except PyFailure (Except Text Text) → Except (Halt QrmiError) Text
  | .ok (.ok value) => .ok (throughC "(contains invalid data)" value)
  | .ok (.error message) =>
      let msg := throughC "error (invalid utf8)" ("python error: RuntimeError: ".toList ++ message)
      .error (.failed (.other s!"{opName} failed: {String.ofList msg}"))
  | .error _ =>
      let msg := "panicked while calling python"
      .error (.failed (.other s!"{opName} failed: {msg}"))

/-- What is left of the string of a call. -/
def settle (oqtopus : Oqtopus) (heap : Heap BridgeBlock) : Heap BridgeBlock :=
  if oqtopus.pyBridge.freesStrings then
    (heap.insert .string).erase ⟨heap.next, .string⟩
  else heap.insert .string

theorem live_settle (oqtopus : Oqtopus) (heap : Heap BridgeBlock) :
    (oqtopus.settle heap).live =
      if oqtopus.pyBridge.freesStrings then heap.live
      else ⟨heap.next, .string⟩ ::ₘ heap.live := by
  rw [settle]
  split
  · exact Multiset.erase_cons_head _ _
  · rfl

/-- What an entry point hands out at an address. -/
def handedOut (address : Nat) : Except PyFailure (Except Text Text) → BridgeReturn
  | .ok (.ok value) => ⟨0, some ⟨address, cstringOr invalidData value⟩, none⟩
  | .ok (.error message) => ⟨-1, none, some ⟨address,
      cstringOr invalidError ("python error: RuntimeError: ".toList ++ message)⟩⟩
  | .error _ => ⟨-1, none, some ⟨address,
      cstringOr invalidError "panicked while calling python".toList⟩⟩

theorem toStringLossy_cstringOr {fallback : String} {string : CStr}
    (encodes : string.bytes = Text.utf8 fallback.toList) (text : Text) :
    (cstringOr string text).toStringLossy = throughC fallback text := by
  rw [cstringOr, throughC]
  by_cases noNul : 0 ∈ Text.utf8 text
  · rw [dif_neg (not_not.mpr noNul), if_pos (zero_mem_utf8_iff.mp noNul)]
    exact CStr.toStringLossy_of_bytes encodes
  · rw [dif_pos noNul, if_neg fun member => noNul (zero_mem_utf8_iff.mpr member)]
    exact CStr.toStringLossy_of_bytes rfl

section Executions

open Method

variable {oqtopus : Oqtopus} {before after : Stored BridgeBlock Unit}
variable {trace : List (Event PyAction.Answer)}

theorem executes_storeOutcome_iff {Error : Type}
    {outcome : Except PyFailure (Except Text Text)}
    {result : Except (Halt Error) BridgeReturn} :
    (storeOutcome true true outcome).Executes before trace result after ↔
      trace = [] ∧ result = .ok (handedOut before.heap.next outcome) ∧
        after = ⟨before.heap.insert .string, ()⟩ := by
  rcases outcome with failure | (message | value)
  all_goals exact executes_iff_of_done rfl

theorem emits_storeOutcome {Error : Type} {hasOut hasError : Bool}
    {outcome : Except PyFailure (Except Text Text)} {allowed : Event PyAction.Answer → Prop} :
    (storeOutcome hasOut hasError outcome :
      BridgeMemory Error BridgeReturn).Emits allowed := by
  have puts (string : CStr) : (intoRaw string : BridgeMemory Error _).Emits allowed :=
    (emits_allocate _).bind fun _ => emits_pure _
  have sets (msg : Text) : (setError hasError msg : BridgeMemory Error _).Emits allowed := by
    unfold setError
    split
    · exact (puts _).bind fun _ => emits_pure _
    · exact emits_pure _
  rcases outcome with failure | (message | value)
  · exact (sets _).bind fun _ => emits_pure _
  · exact (sets _).bind fun _ => emits_pure _
  · refine (puts _).bind fun string => ?_
    split
    · exact emits_pure _
    · exact emits_throw _

/-- An entry point with places for its outcome hands out one string. -/
theorem executes_runBridgeCall_iff {Error : Type} {entryPoint : EntryPoint}
    {arg configJson : CStr} {hasOut hasError : Bool}
    {result : Except (Halt Error) BridgeReturn} :
    (runBridgeCall entryPoint arg configJson hasOut hasError).Executes before trace result
        after ↔
      ∃ outcome, (describedRun entryPoint arg.toStringLossy configJson.toStringLossy).Executes
          () trace outcome () ∧
        (storeOutcome hasOut hasError outcome).Executes before [] result after := by
  rw [runBridgeCall, executes_bind_iff]
  constructor
  · rintro (⟨error, -, failed⟩ | ⟨earlier, later, outcome, middle, rfl, ran, continued⟩)
    · obtain ⟨_, -, inner⟩ := executes_zoom_iff.mp failed
      obtain ⟨_, equal, -⟩ := executes_attempt_iff.mp inner
      cases equal
    · obtain ⟨_, rfl, inner⟩ := executes_zoom_iff.mp ran
      obtain ⟨_, equal, executes⟩ := executes_attempt_iff.mp inner
      cases equal
      have silent : later = [] := List.eq_nil_iff_forall_not_mem.mpr
        (emits_storeOutcome.event_of_executes continued)
      subst silent
      refine ⟨outcome, ?_, continued⟩
      rw [List.append_nil]
      exact executes
  · rintro ⟨outcome, executes, stores⟩
    refine .inr ⟨trace, [], outcome, before, (List.append_nil _).symm, ?_, stores⟩
    exact executes_zoom_iff.mpr ⟨(), rfl, executes_attempt_iff.mpr ⟨outcome, rfl, executes⟩⟩

/-- Taking a string gives it back, where the bridge can be given strings. -/
theorem freeString_of_mem {pointer : BridgeString} {heap : Heap BridgeBlock}
    (member : pointer.block ∈ heap.live) :
    oqtopus.freeString (some pointer) ⟨heap, ()⟩ = .done (.ok (),
      ⟨if oqtopus.pyBridge.freesStrings then heap.erase pointer.block else heap, ()⟩) := by
  rw [freeString]
  split
  · rename_i frees
    exact giveBack_of_mem member
  · rfl

theorem executes_takeReturn_iff {opName : String} {outcome : Except PyFailure (Except Text Text)}
    {heap : Heap BridgeBlock} {result : Except (Halt QrmiError) Text} :
    (oqtopus.takeReturn opName (handedOut heap.next outcome)).Executes
        ⟨heap.insert .string, ()⟩ trace result after ↔
      trace = [] ∧ result = answered opName outcome ∧ after = ⟨oqtopus.settle heap, ()⟩ := by
  have live (string : CStr) : (BridgeString.mk heap.next string).block ∈
      (heap.insert .string).live := Multiset.mem_cons_self _ _
  have taken (string : CStr) : oqtopus.takeErrorString (some ⟨heap.next, string⟩)
      ⟨heap.insert .string, ()⟩ =
        .done (.ok string.toStringLossy, ⟨oqtopus.settle heap, ()⟩) := by
    rw [takeErrorString, bind_of_done (borrow_of_mem (live string)),
      bind_of_done (freeString_of_mem (live string))]
    rfl
  apply executes_iff_of_done
  rcases outcome with failure | (message | value)
  · have plain : throughC "error (invalid utf8)" "panicked while calling python".toList =
        "panicked while calling python".toList := if_neg (by decide)
    rw [handedOut, takeReturn, if_pos (by decide : (-1 : Int) ≠ 0), bind_of_done (taken _),
      toStringLossy_cstringOr rfl, plain, String.ofList_toList]
    rfl
  · rw [handedOut, takeReturn, if_pos (by decide : (-1 : Int) ≠ 0), bind_of_done (taken _),
      toStringLossy_cstringOr rfl]
    rfl
  · rw [handedOut, takeReturn, if_neg (by decide : ¬ (0 : Int) ≠ 0)]
    change (borrow _ >>= fun _ => _) _ = _
    rw [bind_of_done (borrow_of_mem (live _)), bind_of_done (freeString_of_mem (live _)),
      toStringLossy_cstringOr rfl]
    rfl

theorem executes_ofResult_bind_iff {α β : Type} {outcome : Except QrmiError α}
    {next : α → BridgeMemory QrmiError β} {result : Except (Halt QrmiError) β} :
    (ofResult outcome >>= next).Executes before trace result after ↔
      (∃ error, outcome = .error error ∧ trace = [] ∧ result = .error (.failed error) ∧
        after = before) ∨
        ∃ value, outcome = .ok value ∧ (next value).Executes before trace result after := by
  cases outcome with
  | error error =>
      change (Method.ofExcept (.error (Halt.failed error)) >>= next).Executes _ _ _ _ ↔ _
      rw [executes_ofExcept_bind_error_iff]
      simp
  | ok value =>
      change (Method.ofExcept (.ok value) >>= next).Executes _ _ _ _ ↔ _
      rw [executes_ofExcept_bind_ok_iff]
      simp

/-- A call of the bridge does what its Python code does: every value and every failure comes
back as the text that was handed out, and one string is allocated and given back. -/
theorem executes_callBridge_iff {entryPoint : EntryPoint} {arg : CStr} {opName : String}
    {result : Except (Halt QrmiError) Text} :
    (oqtopus.callBridge entryPoint arg opName).Executes before trace result after ↔
      (∃ message, oqtopus.pyBridge.get entryPoint.symbol = .error message ∧ trace = [] ∧
        result = .error (.failed (.other s!"symbol not found: {message}")) ∧ after = before) ∨
      (oqtopus.pyBridge.get entryPoint.symbol = .ok () ∧
        ∃ outcome, (describedRun entryPoint arg.toStringLossy
            oqtopus.configJson.toStringLossy).Executes () trace outcome () ∧
          result = answered opName outcome ∧ after = ⟨oqtopus.settle before.heap, ()⟩) := by
  rw [callBridge, executes_ofResult_bind_iff]
  cases exported : oqtopus.pyBridge.get entryPoint.symbol with
  | error message => simp [Except.mapError]
  | ok done =>
  have calls : (∃ value, (Except.ok () : Except String Unit).mapError (fun error : String =>
      QrmiError.other s!"symbol not found: {error}") = .ok value ∧
        (runBridgeCall entryPoint arg oqtopus.configJson true true >>=
          fun returned => oqtopus.takeReturn opName returned).Executes before trace result
            after) ↔ ∃ outcome, (describedRun entryPoint arg.toStringLossy
              oqtopus.configJson.toStringLossy).Executes () trace outcome () ∧
          result = answered opName outcome ∧ after = ⟨oqtopus.settle before.heap, ()⟩ := by
    rw [executes_bind_iff]
    constructor
    · rintro ⟨-, -, ⟨error, rfl, failed⟩ |
        ⟨earlier, later, returned, middle, rfl, ran, continued⟩⟩
      · obtain ⟨outcome, -, stores⟩ := executes_runBridgeCall_iff.mp failed
        obtain ⟨-, equal, -⟩ := executes_storeOutcome_iff.mp stores
        cases equal
      · obtain ⟨outcome, executes, stores⟩ := executes_runBridgeCall_iff.mp ran
        obtain ⟨-, equal, rfl⟩ := executes_storeOutcome_iff.mp stores
        cases equal
        obtain ⟨rfl, rfl, rfl⟩ := executes_takeReturn_iff.mp continued
        exact ⟨outcome, (List.append_nil earlier).symm ▸ executes, rfl, rfl⟩
    · rintro ⟨outcome, executes, rfl, rfl⟩
      refine ⟨(), rfl, .inr ⟨trace, [], handedOut before.heap.next outcome,
        ⟨before.heap.insert .string, ()⟩, (List.append_nil _).symm, ?_, ?_⟩⟩
      · exact executes_runBridgeCall_iff.mpr
          ⟨outcome, executes, executes_storeOutcome_iff.mpr ⟨rfl, rfl, rfl⟩⟩
      · exact executes_takeReturn_iff.mpr ⟨rfl, rfl, rfl⟩
  constructor
  · rintro (⟨error, equal, -⟩ | called)
    · cases equal
    · exact .inr ⟨rfl, calls.mp called⟩
  · rintro (⟨message, equal, -⟩ | ⟨-, called⟩)
    · cases equal
    · exact .inr (calls.mpr called)

/-- An operation does to the interpreter and to its caller what its Python code does with
the text itself. -/
theorem executes_callWith_iff {entryPoint : EntryPoint} {context : String} {text : Text}
    {result : Except (Halt QrmiError) Text} :
    (oqtopus.callWith entryPoint context text).Executes before trace result after ↔
      (∃ error, newCString context text = .error error ∧ trace = [] ∧
        result = .error (.failed error) ∧ after = before) ∨
      ('\x00' ∉ text ∧ ∃ message, oqtopus.pyBridge.get entryPoint.symbol = .error message ∧
        trace = [] ∧ result = .error (.failed (.other s!"symbol not found: {message}")) ∧
          after = before) ∨
      ('\x00' ∉ text ∧ oqtopus.pyBridge.get entryPoint.symbol = .ok () ∧
        ∃ outcome, (describedRun entryPoint text oqtopus.configJson.toStringLossy).Executes
            () trace outcome () ∧
          result = answered entryPoint.symbol outcome ∧
            after = ⟨oqtopus.settle before.heap, ()⟩) := by
  rw [callWith, executes_ofResult_bind_iff]
  refine or_congr Iff.rfl ?_
  constructor
  · rintro ⟨arg, made, called⟩
    have bytes := newCString_eq_ok_iff.mp made
    have noNul : '\x00' ∉ text := by
      rw [← zero_mem_utf8_iff, ← bytes]
      exact arg.noNul
    rw [executes_callBridge_iff, CStr.toStringLossy_of_bytes bytes] at called
    exact called.imp (fun missing => ⟨noNul, missing⟩) fun ran => ⟨noNul, ran⟩
  · intro cases
    have noNul : '\x00' ∉ text := cases.elim And.left And.left
    have fits : 0 ∉ Text.utf8 text := fun member => noNul (zero_mem_utf8_iff.mp member)
    refine ⟨⟨Text.utf8 text, fits⟩, newCString_eq_ok_iff.mpr rfl, ?_⟩
    rw [executes_callBridge_iff, CStr.toStringLossy_of_bytes rfl]
    exact cases.imp And.right And.right

/-- A null pointer for the outcome is written through exactly when Python returns a text. -/
theorem crashes_iff {Error : Type} {entryPoint : EntryPoint} {arg configJson : CStr}
    {hasOut hasError : Bool} :
    (∃ after, (runBridgeCall entryPoint arg configJson hasOut hasError :
        BridgeMemory Error BridgeReturn).Executes before trace (.error .panic) after) ↔
      hasOut = false ∧ ∃ value, (describedRun entryPoint arg.toStringLossy
        configJson.toStringLossy).Executes () trace (.ok (.ok value)) () := by
  constructor
  · rintro ⟨after, executes⟩
    obtain ⟨outcome, ran, stores⟩ := executes_runBridgeCall_iff.mp executes
    rcases outcome with failure | (message | value)
    · cases hasError <;> cases ((executes_iff_of_done rfl).mp stores).2.1
    · cases hasError <;> cases ((executes_iff_of_done rfl).mp stores).2.1
    · cases hasOut with
      | true => cases ((executes_iff_of_done rfl).mp stores).2.1
      | false => exact ⟨rfl, value, ran⟩
  · rintro ⟨rfl, value, ran⟩
    refine ⟨⟨before.heap.insert .string, ()⟩,
      executes_runBridgeCall_iff.mpr ⟨.ok (.ok value), ran, ?_⟩⟩
    exact (executes_iff_of_done rfl).mpr ⟨rfl, rfl, rfl⟩

end Executions

end Oqtopus
